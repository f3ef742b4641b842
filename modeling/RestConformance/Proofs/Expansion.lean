import Mathlib.Data.List.Nodup
import RestConformance.TestCase

/-!
# Expansion of registries

A registry has units just if the name of the suite says something and no two of its cases have the
same identifier. The units are then those of the cases, in order.

## Main results

* `expandFrom_eq_ok_iff` – when the rest of a registry has units, behind identifiers seen before;
* `expand_eq_ok_iff` – when a registry has units, and which.
-/

namespace RestConformance

variable {suite : String} {registry : List TestCase} {units : List TestUnit}

/-- The first case of a rest has to have an identifier that was not seen. -/
theorem expandFrom_cons_eq_ok_iff {seen : List String} {testCase : TestCase} :
    expandFrom suite seen (testCase :: registry) = .ok units ↔
      TestUnit.identifierOf suite testCase ∉ seen ∧
      ∃ rest, expandFrom suite (TestUnit.identifierOf suite testCase :: seen) registry = .ok rest ∧
        units = TestUnit.ofCase suite testCase :: rest := by
  show (if TestUnit.identifierOf suite testCase ∈ seen then _ else _) = _ ↔ _
  by_cases hseen : TestUnit.identifierOf suite testCase ∈ seen
  · rw [if_pos hseen]
    exact ⟨nofun, fun h => absurd hseen h.1⟩
  · rw [if_neg hseen]
    show (expandFrom suite (TestUnit.identifierOf suite testCase :: seen) registry).map _ = _ ↔ _
    cases expandFrom suite (TestUnit.identifierOf suite testCase :: seen) registry with
    | error error => simp [Except.map]
    | ok rest => simp [Except.map, hseen, eq_comm]

/-- The rest of a registry has units just if its identifiers are new and all different. -/
theorem expandFrom_eq_ok_iff {seen : List String} :
    expandFrom suite seen registry = .ok units ↔
      (registry.map (TestUnit.identifierOf suite)).Nodup ∧
      (∀ identifier ∈ registry.map (TestUnit.identifierOf suite), identifier ∉ seen) ∧
      units = registry.map (TestUnit.ofCase suite) := by
  -- What a case has to differ from grows by one with each case, so the induction is for all `seen`.
  induction registry generalizing seen units with
  | nil => simp [expandFrom, eq_comm]
  | cons testCase rest ih =>
    rw [expandFrom_cons_eq_ok_iff, List.map_cons, List.nodup_cons, List.forall_mem_cons]
    constructor
    · rintro ⟨hfirst, _, hrest, rfl⟩
      obtain ⟨hnodup, hnew, rfl⟩ := ih.1 hrest
      refine ⟨⟨?_, hnodup⟩, ⟨hfirst, ?_⟩, rfl⟩
      · intro hmem
        exact hnew _ hmem (List.mem_cons_self ..)
      · intro identifier hidentifier hseen
        exact hnew identifier hidentifier (List.mem_cons_of_mem _ hseen)
    · rintro ⟨⟨hother, hnodup⟩, ⟨hfirst, hnew⟩, rfl⟩
      refine ⟨hfirst, _, ih.2 ⟨hnodup, ?_, rfl⟩, rfl⟩
      intro identifier hidentifier hseen
      rcases List.mem_cons.1 hseen with rfl | hseen
      · exact hother hidentifier
      · exact hnew identifier hidentifier hseen

/-- A registry has units just if the suite has a name and no identifier comes twice. -/
theorem expand_eq_ok_iff :
    expand suite registry = .ok units ↔
      isBlankString suite = false ∧
      (registry.map (TestUnit.identifierOf suite)).Nodup ∧
      units = registry.map (TestUnit.ofCase suite) := by
  unfold expand
  cases isBlankString suite with
  | true => simp
  | false => simp [expandFrom_eq_ok_iff]

/-- The cases of the units are those of the registry, in order. -/
theorem map_testCase_of_expand (h : expand suite registry = .ok units) :
    units.map (·.testCase) = registry := by
  obtain ⟨-, -, rfl⟩ := expand_eq_ok_iff.1 h
  rw [List.map_map]
  exact List.map_id registry

/-- Which registries have units does not depend on the order of their cases. -/
theorem expand_perm {registry' : List TestCase} (h : registry.Perm registry')
    (hexpand : expand suite registry = .ok units) :
    expand suite registry' = .ok (registry'.map (TestUnit.ofCase suite)) := by
  obtain ⟨hsuite, hnodup, -⟩ := expand_eq_ok_iff.1 hexpand
  exact expand_eq_ok_iff.2 ⟨hsuite, (h.map _).nodup_iff.1 hnodup, rfl⟩

end RestConformance
