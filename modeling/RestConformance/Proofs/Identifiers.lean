import Mathlib.Data.List.Infix
import RestConformance.Proofs.Expansion
import RestConformance.Registry

/-!
# Identifiers of units

The parts of an identifier are only put one behind the other, and any of them may hold brackets and
colons. As long as no path holds the mark of a method, an identifier still tells its path, its
method and its name, so units are refused just where two cases agree in all three.

## Main definitions

* `Twice f registry` – two cases of a registry have the same value of `f`;
* `IsFirstRepeat suite registry identifier` – the first case with the identifier of an earlier one
  has this identifier;
* `IsPlainPath path` – there is no mark of a method in a path.

## Main results

* `expandFrom_eq_error_iff` – when the rest of a registry has no units, and why;
* `mark_append_inj` – what is before a mark and what is behind it can be told;
* `expand_decides` – when a registry has units, which they are, and which duplicate is reported.
-/

namespace RestConformance

variable {suite : String} {registry : List TestCase} {error : ExpansionError}

/-! ### The first repeat -/

/-- Two cases of a registry, at different places, have the same value. -/
def Twice {α : Type} (f : TestCase → α) (registry : List TestCase) : Prop :=
  ∃ (i j : ℕ) (a b : TestCase), i < j ∧ registry[i]? = some a ∧ registry[j]? = some b ∧ f a = f b

theorem twice_iff_not_nodup {α : Type} {f : TestCase → α} :
    Twice f registry ↔ ¬ (registry.map f).Nodup := by
  rw [List.nodup_iff_getElem?_ne_getElem?]
  simp only [List.length_map, List.getElem?_map]
  constructor
  · rintro ⟨i, j, a, b, hij, hi, hj, heq⟩ hne
    have hlength : j < registry.length := (List.getElem?_eq_some_iff.1 hj).1
    exact hne i j hij hlength (by rw [hi, hj, Option.map_some, Option.map_some, heq])
  · intro h
    push Not at h
    obtain ⟨i, j, hij, hj, heq⟩ := h
    have hi : i < registry.length := hij.trans hj
    rw [List.getElem?_eq_getElem hi, List.getElem?_eq_getElem hj] at heq
    exact ⟨i, j, _, _, hij, List.getElem?_eq_getElem hi, List.getElem?_eq_getElem hj,
      Option.some.inj heq⟩

/-- The first case of a registry that has the identifier of an earlier one has this identifier. -/
def IsFirstRepeat (suite : String) (registry : List TestCase) (identifier : String) : Prop :=
  ∃ before testCase after, registry = before ++ testCase :: after ∧
    (before.map (TestUnit.identifierOf suite)).Nodup ∧
    TestUnit.identifierOf suite testCase = identifier ∧
    identifier ∈ before.map (TestUnit.identifierOf suite)

/-- A rest is refused for its first case, or for a later one when the first has been seen. -/
theorem expandFrom_cons_eq_error_iff {seen : List String} {testCase : TestCase} :
    expandFrom suite seen (testCase :: registry) = .error error ↔
      (TestUnit.identifierOf suite testCase ∈ seen ∧
        error = .duplicateUnit (TestUnit.identifierOf suite testCase)) ∨
      (TestUnit.identifierOf suite testCase ∉ seen ∧
        expandFrom suite (TestUnit.identifierOf suite testCase :: seen) registry =
          .error error) := by
  show (if TestUnit.identifierOf suite testCase ∈ seen then
    Except.error (ExpansionError.duplicateUnit (TestUnit.identifierOf suite testCase))
    else _) = _ ↔ _
  by_cases hseen : TestUnit.identifierOf suite testCase ∈ seen
  · simp [hseen, eq_comm]
  · rw [if_neg hseen]
    show (expandFrom suite (TestUnit.identifierOf suite testCase :: seen) registry).map _ = _ ↔ _
    cases expandFrom suite (TestUnit.identifierOf suite testCase :: seen) registry <;>
      simp [Except.map, hseen]

/-- The rest of a registry is refused for the first of its cases whose identifier is that of a case
before it or was seen. -/
theorem expandFrom_eq_error_iff {seen : List String} :
    expandFrom suite seen registry = .error error ↔
      ∃ before testCase after, registry = before ++ testCase :: after ∧
        (before.map (TestUnit.identifierOf suite)).Nodup ∧
        (∀ identifier ∈ before.map (TestUnit.identifierOf suite), identifier ∉ seen) ∧
        (TestUnit.identifierOf suite testCase ∈ seen ∨
          TestUnit.identifierOf suite testCase ∈ before.map (TestUnit.identifierOf suite)) ∧
        error = .duplicateUnit (TestUnit.identifierOf suite testCase) := by
  -- What a case has to differ from grows by one with each case, so the induction is for all `seen`.
  induction registry generalizing seen with
  | nil => simp [expandFrom]
  | cons first rest ih =>
    rw [expandFrom_cons_eq_error_iff, ih]
    constructor
    · rintro (⟨hseen, rfl⟩ | ⟨hfirst, before, testCase, after, rfl, hnodup, hnew, hold, rfl⟩)
      · exact ⟨[], first, rest, rfl, .nil, fun _ hmem => absurd hmem List.not_mem_nil, .inl hseen,
          rfl⟩
      · refine ⟨first :: before, testCase, after, rfl, ?_, ?_, ?_, rfl⟩
        · exact List.nodup_cons.2 ⟨fun hmem => hnew _ hmem List.mem_cons_self, hnodup⟩
        · refine List.forall_mem_cons.2 ⟨hfirst, fun identifier hmem hseen => ?_⟩
          exact hnew identifier hmem (List.mem_cons_of_mem _ hseen)
        · rw [List.map_cons, List.mem_cons]
          rw [List.mem_cons] at hold
          tauto
    · rintro ⟨before, testCase, after, hregistry, hnodup, hnew, hold, rfl⟩
      cases before with
      | nil =>
        obtain ⟨rfl, rfl⟩ := List.cons.inj hregistry
        exact .inl ⟨hold.resolve_right List.not_mem_nil, rfl⟩
      | cons first' before =>
        obtain ⟨rfl, rfl⟩ := List.cons.inj hregistry
        rw [List.map_cons, List.nodup_cons] at hnodup
        rw [List.map_cons, List.forall_mem_cons] at hnew
        rw [List.map_cons, List.mem_cons] at hold
        refine .inr ⟨hnew.1, before, testCase, after, rfl, hnodup.2, ?_, ?_, rfl⟩
        · rintro identifier hmem hin
          rcases List.mem_cons.1 hin with rfl | hin
          · exact hnodup.1 hmem
          · exact hnew.2 identifier hmem hin
        · rw [List.mem_cons]
          tauto

theorem isFirstRepeat_iff {identifier : String} :
    IsFirstRepeat suite registry identifier ↔
      expandFrom suite [] registry = .error (.duplicateUnit identifier) := by
  rw [expandFrom_eq_error_iff]
  simp only [List.not_mem_nil, not_false_eq_true, implies_true, true_and, false_or,
    ExpansionError.duplicateUnit.injEq, IsFirstRepeat]
  constructor
  · rintro ⟨before, testCase, after, hregistry, hnodup, rfl, hold⟩
    exact ⟨before, testCase, after, hregistry, hnodup, hold, rfl⟩
  · rintro ⟨before, testCase, after, hregistry, hnodup, hold, rfl⟩
    exact ⟨before, testCase, after, hregistry, hnodup, rfl, hold⟩

/-- Cases with the same identifier are the only reason to refuse a registry. -/
theorem twice_iff_exists_error :
    Twice (TestUnit.identifierOf suite) registry ↔
      ∃ identifier, expandFrom suite [] registry = .error (.duplicateUnit identifier) := by
  rw [twice_iff_not_nodup]
  constructor
  · intro htwice
    cases hexpand : expandFrom suite [] registry with
    | ok units => exact absurd (expandFrom_eq_ok_iff.1 hexpand).1 htwice
    | error error =>
      obtain ⟨_, testCase, _, -, -, -, -, rfl⟩ := expandFrom_eq_error_iff.1 hexpand
      exact ⟨_, rfl⟩
  · -- Without a repeat there are units, and then there is no error.
    rintro ⟨identifier, hexpand⟩ hnodup
    have hok : expandFrom suite [] registry = .ok (registry.map (TestUnit.ofCase suite)) :=
      expandFrom_eq_ok_iff.2 ⟨hnodup, fun _ _ => List.not_mem_nil, rfl⟩
    cases hok.symm.trans hexpand

/-! ### What an identifier tells -/

/-- What stands between the path and the name of a case, as in `[GET]: `. -/
def Http.Method.mark (method : Http.Method) : String :=
  "[" ++ method.name ++ "]: "

/-- There is no mark of a method in a path. -/
def IsPlainPath (path : String) : Prop :=
  ∀ method : Http.Method, ¬ method.mark.toList <:+: path.toList

/-- A mark opens a bracket at its start and nowhere else. -/
theorem Http.Method.mark_toList (method : Http.Method) :
    ∃ inside, method.mark.toList = '[' :: inside ∧ '[' ∉ inside := by
  cases method <;> exact ⟨_, rfl, by decide⟩

/-- No mark starts with another one. -/
theorem Http.Method.mark_append_inj {method method' : Http.Method} {rest rest' : List Char}
    (h : method.mark.toList ++ rest = method'.mark.toList ++ rest') :
    method = method' ∧ rest = rest' := by
  have hmethod : method = method' := by
    cases method <;> cases method' <;> first | rfl | (simp [mark, name] at h)
  subst hmethod
  exact ⟨rfl, List.append_cancel_left h⟩

/-- What a text goes on with behind its front cannot start before the mark of another reading, as
this mark would then lie in the front. -/
theorem eq_nil_of_mark {method method' : Http.Method} {front gap rest rest' : List Char}
    (hplain : ¬ method.mark.toList <:+: front ++ gap)
    (h : method.mark.toList ++ rest = gap ++ (method'.mark.toList ++ rest')) : gap = [] := by
  obtain ⟨inside, hmark, hinside⟩ := method.mark_toList
  obtain ⟨inside', hmark', -⟩ := method'.mark_toList
  rcases List.append_eq_append_iff.1 h with ⟨left, hgap, -⟩ | ⟨left, hleft, hrest⟩
  · -- The mark lies in the gap.
    exact absurd ⟨front, left, by rw [hgap, List.append_assoc]⟩ hplain
  · cases gap with
    | nil => rfl
    | cons c gap =>
      rw [hmark] at hleft
      obtain ⟨-, rfl⟩ := List.cons.inj hleft
      cases left with
      | nil => exact absurd ⟨front, [], by rw [hmark, hleft]; simp⟩ hplain
      | cons d left =>
        -- The other mark starts inside of this one, where no bracket opens.
        rw [hmark'] at hrest
        obtain ⟨rfl, -⟩ := List.cons.inj hrest
        exact absurd (List.mem_append_right _ List.mem_cons_self) hinside

/-- Behind fronts without marks, texts are equal just if their parts are. -/
theorem append_mark_inj {method method' : Http.Method} {front front' rest rest' : List Char}
    (hplain : ¬ method'.mark.toList <:+: front) (hplain' : ¬ method.mark.toList <:+: front')
    (h : front ++ (method.mark.toList ++ rest) = front' ++ (method'.mark.toList ++ rest')) :
    front = front' ∧ method = method' ∧ rest = rest' := by
  -- One front is the other and a gap, and the mark behind the shorter one starts in the gap.
  have hfront : front = front' := by
    rcases List.append_eq_append_iff.1 h with ⟨gap, rfl, hgap⟩ | ⟨gap, rfl, hgap⟩
    · rw [eq_nil_of_mark hplain' hgap, List.append_nil]
    · rw [eq_nil_of_mark hplain hgap, List.append_nil]
  subst hfront
  exact ⟨rfl, Http.Method.mark_append_inj (List.append_cancel_left h)⟩

/-- Where paths are plain, an identifier tells path, method and name. -/
theorem identifierOf_eq_iff {a b : TestCase} (ha : IsPlainPath a.path) (hb : IsPlainPath b.path) :
    TestUnit.identifierOf suite a = TestUnit.identifierOf suite b ↔
      a.path = b.path ∧ a.method = b.method ∧ a.name = b.name := by
  have hparts (testCase : TestCase) : TestUnit.identifierOf suite testCase =
      (suite ++ " ") ++ (testCase.path ++ (testCase.method.mark ++ testCase.name)) := by
    simp only [TestUnit.identifierOf, Http.Method.mark, String.append_assoc]
  constructor
  · intro h
    rw [hparts, hparts, String.append_right_inj, ← String.toList_inj] at h
    simp only [String.toList_append] at h
    obtain ⟨hpath, hmethod, hname⟩ := append_mark_inj (ha b.method) (hb a.method) h
    exact ⟨String.toList_inj.1 hpath, hmethod, String.toList_inj.1 hname⟩
  · rintro ⟨hpath, hmethod, hname⟩
    rw [hparts, hparts, hpath, hmethod, hname]

theorem twice_identifierOf_iff (hplain : ∀ testCase ∈ registry, IsPlainPath testCase.path) :
    Twice (TestUnit.identifierOf suite) registry ↔
      Twice (fun testCase => (testCase.path, testCase.method, testCase.name)) registry := by
  have hiff {i j : ℕ} {a b : TestCase} (hi : registry[i]? = some a) (hj : registry[j]? = some b) :
      TestUnit.identifierOf suite a = TestUnit.identifierOf suite b ↔
        (a.path, a.method, a.name) = (b.path, b.method, b.name) := by
    rw [identifierOf_eq_iff (hplain a (List.mem_of_getElem? hi))
      (hplain b (List.mem_of_getElem? hj)), Prod.mk.injEq, Prod.mk.injEq]
  constructor
  · rintro ⟨i, j, a, b, hij, hi, hj, heq⟩
    exact ⟨i, j, a, b, hij, hi, hj, (hiff hi hj).1 heq⟩
  · rintro ⟨i, j, a, b, hij, hi, hj, heq⟩
    exact ⟨i, j, a, b, hij, hi, hj, (hiff hi hj).2 heq⟩

/-! ### All registries -/

theorem expand_eq_blankSuite_iff :
    expand suite registry = .error .blankSuite ↔ isBlankString suite = true := by
  unfold expand
  cases isBlankString suite with
  | true => simp
  | false =>
    simp only [Bool.false_eq_true, if_false, iff_false]
    intro h
    obtain ⟨_, _, _, -, -, -, -, herror⟩ := expandFrom_eq_error_iff.1 h
    cases herror

theorem expand_of_not_blank (h : isBlankString suite = false) :
    expand suite registry = expandFrom suite [] registry := by
  unfold expand
  rw [h]
  rfl

variable (suite registry)

/-- A registry is refused because the name of the suite is blank, and only then for this reason.
Otherwise it is refused just if two cases have the same identifier, and the one that is told is that
of the first case that repeats an earlier one. Otherwise there is a unit for each case, in order.
Where no path holds a mark, two cases have the same identifier just if they agree in path, method
and name. -/
theorem expand_decides :
    (expand suite registry = .error .blankSuite ↔ isBlankString suite = true) ∧
    (isBlankString suite = false →
      ((∃ identifier, expand suite registry = .error (.duplicateUnit identifier)) ↔
        Twice (TestUnit.identifierOf suite) registry) ∧
      (∀ identifier, expand suite registry = .error (.duplicateUnit identifier) ↔
        IsFirstRepeat suite registry identifier) ∧
      (¬ Twice (TestUnit.identifierOf suite) registry →
        ∃ units, expand suite registry = .ok units ∧ units.length = registry.length ∧
          (∀ (i : ℕ) (testCase : TestCase), registry[i]? = some testCase →
            ∃ unit, units[i]? = some unit ∧ unit.testCase = testCase ∧
              unit.identifier = TestUnit.identifierOf suite testCase) ∧
          (units.map (·.identifier)).Nodup)) ∧
    ((∀ testCase ∈ registry, IsPlainPath testCase.path) →
      (∀ a ∈ registry, ∀ b ∈ registry,
        TestUnit.identifierOf suite a = TestUnit.identifierOf suite b ↔
          a.path = b.path ∧ a.method = b.method ∧ a.name = b.name) ∧
      (isBlankString suite = false →
        ((∃ identifier, expand suite registry = .error (.duplicateUnit identifier)) ↔
          Twice (fun testCase => (testCase.path, testCase.method, testCase.name)) registry))) := by
  refine ⟨expand_eq_blankSuite_iff, fun hsuite => ?_, fun hplain => ⟨?_, fun hsuite => ?_⟩⟩
  · rw [expand_of_not_blank hsuite]
    refine ⟨twice_iff_exists_error.symm, fun identifier => isFirstRepeat_iff.symm, fun htwice => ?_⟩
    have hnodup := not_not.1 (mt twice_iff_not_nodup.2 htwice)
    refine ⟨registry.map (TestUnit.ofCase suite), ?_, List.length_map _, ?_, ?_⟩
    · exact expandFrom_eq_ok_iff.2 ⟨hnodup, fun _ _ => List.not_mem_nil, rfl⟩
    · intro i testCase hcase
      exact ⟨.ofCase suite testCase, by rw [List.getElem?_map, hcase, Option.map_some], rfl, rfl⟩
    · rwa [List.map_map]
  · intro a ha b hb
    exact identifierOf_eq_iff (hplain a ha) (hplain b hb)
  · rw [expand_of_not_blank hsuite, ← twice_iff_exists_error]
    exact twice_identifierOf_iff hplain

/-- Three cases with brackets in paths and names. The third repeats the first. -/
def bracketedCases : List TestCase :=
  [Registry.reading "[GET]: n" "v" (.status 200), Registry.reading "n" "v[GET]:" (.status 200),
    Registry.reading "[GET]: n" "v" (.status 500)]

/-- The first two of these cases have units and all three have none. -/
theorem expand_decides_bracketed :
    isBlankString "S" = false ∧ (∀ testCase ∈ bracketedCases, IsPlainPath testCase.path) ∧
    ¬ Twice (TestUnit.identifierOf "S") (bracketedCases.take 2) ∧
    (∃ units, expand "S" (bracketedCases.take 2) = .ok units ∧ units.length = 2) ∧
    Twice (fun testCase => (testCase.path, testCase.method, testCase.name)) bracketedCases ∧
    (∃ identifier, expand "S" bracketedCases = .error (.duplicateUnit identifier)) ∧
    IsFirstRepeat "S" bracketedCases "S v[GET]: [GET]: n" ∧
    expand "S" bracketedCases = .error (.duplicateUnit "S v[GET]: [GET]: n") := by
  have hsuite : isBlankString "S" = false := by decide
  have hplain : ∀ testCase ∈ bracketedCases, IsPlainPath testCase.path := by
    simp only [bracketedCases, List.forall_mem_cons]
    refine ⟨?_, ?_, ?_, List.forall_mem_nil _⟩ <;> (intro method; cases method <;> decide)
  have htwice : ¬ Twice (TestUnit.identifierOf "S") (bracketedCases.take 2) := by
    rw [twice_iff_not_nodup]
    decide +kernel
  have hagree : Twice (fun testCase => (testCase.path, testCase.method, testCase.name))
      bracketedCases := ⟨0, 2, _, _, by decide, rfl, rfl, rfl⟩
  have hrepeat : IsFirstRepeat "S" bracketedCases "S v[GET]: [GET]: n" :=
    ⟨bracketedCases.take 2, _, [], rfl, by decide +kernel, by decide, by decide⟩
  obtain ⟨-, hfirst, -⟩ := expand_decides "S" (bracketedCases.take 2)
  obtain ⟨-, hall, hparts⟩ := expand_decides "S" bracketedCases
  obtain ⟨units, hexpand, hlength, -⟩ := (hfirst hsuite).2.2 htwice
  refine ⟨hsuite, hplain, htwice, ⟨units, hexpand, hlength⟩, hagree, ?_, hrepeat, ?_⟩
  · exact ((hparts hplain).2 hsuite).2 hagree
  · exact ((hall hsuite).2.1 _).2 hrepeat

/-- A path that holds a mark can be told for a path and the front of a name. -/
example :
    TestUnit.identifierOf "S" (Registry.reading "n" "v[GET]: x" (.status 200)) =
      TestUnit.identifierOf "S" (Registry.reading "x[GET]: n" "v" (.status 200)) := by
  decide

end RestConformance
