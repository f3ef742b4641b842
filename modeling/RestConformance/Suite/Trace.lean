import RestConformance.Suite.Runner

/-!
# Traces of runs

What a run does to the outside world, as a list of calls. Every operation of a fixture client and
every request can be told to somebody before it is carried out, and changes nothing else by that.

## Main definitions

* `SuiteCall` – the calls that a run makes;
* `FixtureClient.traced`, `Executor.traced` – clients and executors that tell of their calls.

## Main results

* `FixtureClient.traced_silent`, `Executor.traced_silent` – if nobody is told, nothing changes.
-/

namespace RestConformance

/-- A call to the outside world. -/
inductive SuiteCall where
  | create (connectorName : String)
  | save (link : Link)
  | request (request : Http.Request)
  | delete (name : String)
  | contains (name : String)
  deriving DecidableEq

variable {m : Type → Type} [Monad m]

/-- The client, which tells of each call before it is carried out. -/
def FixtureClient.traced (client : FixtureClient m) (tell : SuiteCall → m Unit) :
    FixtureClient m where
  create connectorName := do tell (.create connectorName); client.create connectorName
  save link := do tell (.save link); client.save link
  delete name := do tell (.delete name); client.delete name
  contains name := do tell (.contains name); client.contains name

/-- The executor, which tells of each request before it is sent. -/
def Executor.traced (execute : Executor m) (tell : SuiteCall → m Unit) : Executor m :=
  fun request => do tell (.request request); execute request

section Silent

variable [LawfulMonad m]

/-- If nobody is told, the client is what it was. -/
theorem FixtureClient.traced_silent (client : FixtureClient m) :
    client.traced (fun _ => pure ()) = client := by
  simp only [traced, pure_bind]

/-- If nobody is told, the executor is what it was. -/
theorem Executor.traced_silent (execute : Executor m) :
    Executor.traced execute (fun _ => pure ()) = execute := by
  funext request
  simp only [traced, pure_bind]

end Silent

end RestConformance
