import RestConformance.Registry
import RestConformance.Suite.Runner

/-!
# Scripted runners

Runners whose ports read their answers from a script, one after another. They give concrete runs
for what is said of runs in general.

## Main definitions

* `SuiteScript` – the answers of the ports;
* `SuiteRunner.scripted` – the runner that reads a script;
* `SuiteRunner.rehearsal` – the one with the standard fixture, for a server on this machine;
* `Registry.rehearsal` – some cases to run.
-/

namespace RestConformance

/-- The answers that the ports of a runner will give. -/
structure SuiteScript where
  creations : List (Outcome FixtureFailure Link) := []
  savings : List (Outcome FixtureFailure Unit) := []
  responses : List (Outcome Http.Failure Capture) := []
  deletions : List (Outcome FixtureFailure Unit) := []

/-- The runner that reads a script. What the script leaves open succeeds, and every request that it
leaves open is answered by an empty response of status 200. -/
def SuiteRunner.scripted (fixture : LinkFixture) (baseUrl : String) :
    SuiteRunner (StateM SuiteScript) where
  execute _ := fun script =>
    (script.responses.headD (.returned (.ofBody 200 "")),
      { script with responses := script.responses.tail })
  fixtures :=
    { create := fun connectorName script =>
        (script.creations.headD (.returned (.ofConnector connectorName)),
          { script with creations := script.creations.tail })
      save := fun _ script =>
        (script.savings.headD (.returned ()), { script with savings := script.savings.tail })
      delete := fun _ script =>
        (script.deletions.headD (.returned ()), { script with deletions := script.deletions.tail })
      contains := fun _ => pure (.returned true) }
  log _ := pure ()
  clock := pure 0
  fixture := fixture
  baseUrl := baseUrl

/-- The runner that reads a script and has the standard fixture. Its server is on this machine. -/
def SuiteRunner.rehearsal : SuiteRunner (StateM SuiteScript) :=
  scripted .standard "http://[::1]/"

/-- What a run that reads a script is known by. -/
def RunStamp.rehearsal : RunStamp :=
  ⟨"rehearsal", ⟨0, 0⟩⟩

/-- Three cases, of which the first one sends something. -/
def Registry.rehearsal : List TestCase :=
  [sending "Send" "/version" "Hi" (.status 200),
    reading "Read" "version" (.status 200),
    reading "Read once more" "version" (.status 200)]

end RestConformance
