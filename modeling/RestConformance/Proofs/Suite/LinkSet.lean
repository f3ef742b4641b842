import Mathlib.Data.Finset.Basic
import RestConformance.Proofs.Suite.Preservation

/-!
# Links of a server during a run

A server keeps links by their names. Whatever happens in a unit, the names that are kept behind it
are those before it without the name of the fixture.

## Main definitions

* `KeepsLinks names runner` – what the ports of a runner do to the names that a server keeps.

## Main results

* `KeepsLinks.setUp`, `KeepsLinks.exercise` – the names besides the fixture stay as they are;
* `KeepsLinks.tearDown` – the name of the fixture is gone;
* `KeepsLinks.runUnit` – a unit takes the name of the fixture away and no other.
-/

namespace RestConformance

/-- A link with the values of a fixture bears its name. -/
@[simp] theorem LinkFixture.name_applyTo (fixture : LinkFixture) (link : Link) :
    (fixture.applyTo link).name = fixture.name :=
  rfl

variable {σ : Type}

/-- The ports of a runner over a server whose links have the names `names`. A saving may leave its
link behind or not, however it ends. A deletion takes its name away, fails or not, and does not
crash. -/
structure KeepsLinks (names : σ → Finset String) (runner : SuiteRunner (StateM σ)) : Prop where
  create : ∀ connectorName kept,
    Ensures (names · = kept) (runner.fixtures.create connectorName) fun _ s => names s = kept
  save : ∀ link kept, Ensures (names · = kept) (runner.fixtures.save link) fun _ s =>
    names s = kept ∨ names s = insert link.name kept
  delete : ∀ name kept, Ensures (names · = kept) (runner.fixtures.delete name) fun answer s =>
    names s = kept.erase name ∧ ∀ crash, answer ≠ .crashed crash
  execute : ∀ request kept,
    Ensures (names · = kept) (runner.execute request) fun _ s => names s = kept
  log : ∀ entry kept, Ensures (names · = kept) (runner.log entry) fun _ s => names s = kept
  clock : ∀ kept, Ensures (names · = kept) runner.clock fun _ s => names s = kept

namespace KeepsLinks

variable {names : σ → Finset String} {runner : SuiteRunner (StateM σ)} {rest : Finset String}

/-- A computation that leaves the names leaves those besides the fixture. -/
theorem others {α : Type} {x : StateM σ α} {name : String}
    (h : ∀ kept, Ensures (names · = kept) x fun _ s => names s = kept) :
    Ensures (fun s => (names s).erase name = rest) x fun _ s => (names s).erase name = rest := by
  intro s hs
  rw [h (names s) s rfl]
  exact hs

theorem setUp (h : KeepsLinks names runner) :
    Ensures (fun s => (names s).erase runner.fixture.name = rest) runner.setUp
      fun _ s => (names s).erase runner.fixture.name = rest := by
  refine .chain (others (h.create _)) (fun link => ?_) (fun _ _ hs => hs) (fun _ _ hs => hs)
  refine .chain (R := fun _ s => (names s).erase runner.fixture.name = rest) ?_ (fun _ => ?_)
    (fun _ _ hs => hs) (fun _ _ hs => hs)
  · -- A saving that ended by a failure or a crash may have left the link behind all the same.
    intro s hs
    rcases h.save (runner.fixture.applyTo link) (names s) s rfl with hsame | hadded
    · rw [hsame]
      exact hs
    · rw [hadded, LinkFixture.name_applyTo, Finset.erase_insert_eq_erase]
      exact hs
  · exact .after (others (h.log _)) fun _ => .pure fun _ hs => hs

theorem exercise (h : KeepsLinks names runner) (unit : TestUnit) :
    Ensures (fun s => (names s).erase runner.fixture.name = rest) (runner.exercise unit)
      fun _ s => (names s).erase runner.fixture.name = rest :=
  SuiteRunner.exercise_ensures unit (fun _ hs => hs) (others (h.log _)) fun _ =>
    others (h.execute _)

theorem tearDown (h : KeepsLinks names runner) :
    Ensures (fun s => (names s).erase runner.fixture.name = rest) runner.tearDown
      fun deletion s => names s = rest ∧ ∀ crash, deletion ≠ .crashed crash := by
  refine .chain (R := fun deletion s => names s = rest ∧ ∀ crash, deletion ≠ .crashed crash) ?_
    (fun _ => ?_) (fun _ _ hs => ⟨hs.1, nofun⟩) (fun crash _ hs => absurd rfl (hs.2 crash))
  · intro s hs
    obtain ⟨hnames, hanswer⟩ := h.delete runner.fixture.name (names s) s rfl
    exact ⟨hnames.trans hs, hanswer⟩
  · refine .bind (R := fun _ s => names s = rest) ?_ fun _ => .pure fun _ hs => ⟨hs, nofun⟩
    intro s hs
    exact h.log _ rest s hs.1

theorem conclude (h : KeepsLinks names runner) (unit : TestUnit) (start : UInt64)
    (outcome : UnitOutcome) (teardownError : Option String) :
    Ensures (names · = rest) (runner.conclude unit start outcome teardownError)
      fun report s => names s = rest ∧ report.identifier = unit.identifier := by
  refine .after (.forM (fun _ => h.log _ rest) _) fun _ => .after (h.log _ rest) fun _ => ?_
  refine .after (.after (h.clock rest) fun _ => .pure fun _ hs => hs) fun _ => ?_
  exact .pure fun _ hs => ⟨hs, rfl⟩

/-- A unit has a report, and takes the name of the fixture away and no other. -/
theorem runUnit (h : KeepsLinks names runner) (unit : TestUnit) :
    Ensures (fun s => (names s).erase runner.fixture.name = rest) (runner.runUnit unit)
      fun result s => names s = rest ∧
        ∃ report, result = .ok report ∧ report.identifier = unit.identifier := by
  refine .after (others (h.log _)) fun _ => .after (others h.clock) fun start => ?_
  have hguarded : Ensures (fun s => (names s).erase runner.fixture.name = rest)
      (Outcome.chain runner.setUp fun () => runner.exercise unit)
      fun _ s => (names s).erase runner.fixture.name = rest :=
    .chain h.setUp (fun _ => h.exercise unit) (fun _ _ hs => hs) (fun _ _ hs => hs)
  refine hguarded.after fun guarded => h.tearDown.bind fun deletion => ?_
  cases deletion with
  | crashed crash =>
    rintro s ⟨-, hanswer⟩
    exact absurd rfl (hanswer crash)
  | returned _ =>
    rintro s ⟨hnames, -⟩
    obtain ⟨hafter, hreport⟩ := h.conclude unit start (.ofGuarded guarded) none s hnames
    exact ⟨hafter, _, rfl, hreport⟩
  | failed failure =>
    rintro s ⟨hnames, -⟩
    obtain ⟨hafter, hreport⟩ :=
      h.conclude unit start (.ofGuarded guarded) (some failure.message) s hnames
    exact ⟨hafter, _, rfl, hreport⟩

end KeepsLinks

end RestConformance
