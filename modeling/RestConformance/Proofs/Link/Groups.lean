import RestConformance.Link.Document
import RestConformance.Proofs.Text.Cutting

/-!
# Groups of inputs

The inputs of a link come in the order of their names, and those of one group need not stand
together in it: `a-b.x` comes between `a` and `a.x`. Each input is still put into the one group that
its name tells, behind the inputs that are there already.

## Main definitions

* `Link.IsGroupOf key name` – the name is what comes before the first point of the key;
* `Link.Grouped groups entries` – the groups hold the entries, each in its own, and nothing else.

## Main results

* `Link.Grouped.addTo` – one more input among the groups;
* `Link.grouped` – the groups of a link hold its inputs;
* `Link.groups_classify` – what the groups of a link are.
-/

namespace RestConformance

variable {name key : String} {input : String × String} {group : InputGroup}
  {groups : List InputGroup} {entries : List (String × String)}

/-! ### One more input -/

namespace InputGroup

/-- A group that is there after an input has come was there before, unless it is that of the input.
The group of the input holds what it held before and the input. -/
theorem mem_addTo (hrising : groups.Pairwise fun a b => a.name < b.name)
    (hmem : group ∈ addTo name input groups) :
    (group ∈ groups ∧ group.name ≠ name) ∨
      ∃ old, group = ⟨name, old ++ [input]⟩ ∧
        (⟨name, old⟩ ∈ groups ∨ old = [] ∧ ∀ other ∈ groups, other.name ≠ name) := by
  induction groups with
  | nil =>
    rw [List.mem_singleton.1 hmem]
    exact .inr ⟨[], rfl, .inr ⟨rfl, nofun⟩⟩
  | cons first rest ih =>
    obtain ⟨hfirst, hrest⟩ := List.pairwise_cons.1 hrising
    rw [addTo] at hmem
    split at hmem
    · next hbefore =>
      -- All groups come behind the one of the input, so none of them has its name.
      have hother : ∀ other ∈ first :: rest, other.name ≠ name := by
        rintro other hin rfl
        rcases List.mem_cons.1 hin with rfl | hlater
        · exact String.lt_irrefl _ hbefore
        · exact String.lt_irrefl _ (String.lt_trans hbefore (hfirst other hlater))
      rcases List.mem_cons.1 hmem with rfl | hold
      · exact .inr ⟨[], rfl, .inr ⟨rfl, hother⟩⟩
      · exact .inl ⟨hold, hother group hold⟩
    · split at hmem
      · next heq =>
        rcases List.mem_cons.1 hmem with rfl | hlater
        · exact .inr ⟨first.inputs, rfl, .inl (by rw [heq]; exact List.mem_cons_self)⟩
        · refine .inl ⟨List.mem_cons_of_mem _ hlater, ?_⟩
          rintro rfl
          exact String.lt_irrefl _ (heq ▸ hfirst group hlater)
      · next hne =>
        rcases List.mem_cons.1 hmem with rfl | hlater
        · exact .inl ⟨List.mem_cons_self, Ne.symm hne⟩
        · rcases ih hrest hlater with ⟨hold, hname⟩ | ⟨old, rfl, hold | ⟨rfl, hother⟩⟩
          · exact .inl ⟨List.mem_cons_of_mem _ hold, hname⟩
          · exact .inr ⟨old, rfl, .inl (List.mem_cons_of_mem _ hold)⟩
          · exact .inr ⟨[], rfl, .inr ⟨rfl, List.forall_mem_cons.2 ⟨Ne.symm hne, hother⟩⟩⟩

/-- The names after an input has come are those from before and the name of its group. -/
theorem exists_mem_addTo_iff (wanted : String) :
    (∃ group ∈ addTo name input groups, group.name = wanted) ↔
      wanted = name ∨ ∃ group ∈ groups, group.name = wanted := by
  induction groups with
  | nil => simp [addTo, eq_comm]
  | cons first rest ih =>
    rw [addTo]
    split
    · simp [eq_comm]
    · split
      · next heq => simp [heq, eq_comm]
      · simp only [List.exists_mem_cons_iff, ih]
        exact or_left_comm

/-- The groups stay in order. -/
theorem pairwise_addTo (hrising : groups.Pairwise fun a b => a.name < b.name) :
    (addTo name input groups).Pairwise fun a b => a.name < b.name := by
  induction groups with
  | nil => exact List.pairwise_singleton _ _
  | cons first rest ih =>
    obtain ⟨hfirst, hrest⟩ := List.pairwise_cons.1 hrising
    rw [addTo]
    split
    · next hbefore =>
      refine List.pairwise_cons.2 ⟨fun other hin => ?_, hrising⟩
      rcases List.mem_cons.1 hin with rfl | hlater
      · exact hbefore
      · exact String.lt_trans hbefore (hfirst other hlater)
    · next hnot =>
      split
      · next heq => exact List.pairwise_cons.2 ⟨fun other hin => heq ▸ hfirst other hin, hrest⟩
      · next hne =>
        have hbehind : first.name < name :=
          Std.lt_of_le_of_ne (String.not_lt.1 hnot) (Ne.symm hne)
        refine List.pairwise_cons.2 ⟨fun other hin => ?_, ih hrest⟩
        rcases (exists_mem_addTo_iff other.name).1 ⟨other, hin, rfl⟩ with heq | ⟨old, hold, heq⟩
        · exact heq ▸ hbehind
        · exact heq ▸ hfirst old hold

/-- All inputs are kept, and one more comes to them. -/
theorem perm_addTo : ((addTo name input groups).flatMap (·.inputs)).Perm
    (groups.flatMap (·.inputs) ++ [input]) := by
  induction groups with
  | nil => exact .refl _
  | cons first rest ih =>
    rw [addTo]
    split
    · exact (List.perm_append_singleton input _).symm
    · split
      · simp only [List.flatMap_cons, List.append_assoc]
        exact List.Perm.append_left _ List.perm_append_comm
      · simp only [List.flatMap_cons, List.append_assoc]
        exact List.Perm.append_left _ ih

end InputGroup

namespace Link

/-! ### Names of groups -/

/-- The name is what comes before the first point of the key, or the whole key where it has none. -/
def IsGroupOf (key name : String) : Prop :=
  '.' ∉ name.toList ∧ (key = name ∨ ∃ rest, key = name ++ "." ++ rest)

theorem groupOf_of_notMem (h : '.' ∉ key.toList) : groupOf key = key := by
  rw [groupOf, Text.splitFirst_of_notMem h]

theorem groupOf_append (h : '.' ∉ name.toList) (rest : String) :
    groupOf (name ++ "." ++ rest) = name := by
  have hcut : (name ++ "." ++ rest).toList = name.toList ++ '.' :: rest.toList := by simp
  rw [groupOf, hcut, Text.splitFirst_append h]
  exact String.ofList_toList

theorem isGroupOf_groupOf (key : String) : IsGroupOf key (groupOf key) := by
  by_cases hpoint : '.' ∈ key.toList
  · obtain ⟨before, after, hkey, hbefore⟩ := List.eq_append_cons_of_mem hpoint
    have hcut : key = String.ofList before ++ "." ++ String.ofList after := by
      apply String.toList_inj.1
      simp [hkey]
    have hname : '.' ∉ (String.ofList before).toList := by simpa using hbefore
    rw [hcut, groupOf_append hname]
    exact ⟨hname, .inr ⟨_, rfl⟩⟩
  · rw [groupOf_of_notMem hpoint]
    exact ⟨hpoint, .inl rfl⟩

/-- A key has one group. -/
theorem isGroupOf_iff : IsGroupOf key name ↔ groupOf key = name := by
  constructor
  · rintro ⟨hname, rfl | ⟨rest, rfl⟩⟩
    · exact groupOf_of_notMem hname
    · exact groupOf_append hname rest
  · rintro rfl
    exact isGroupOf_groupOf key

/-! ### All inputs -/

/-- The groups hold the entries, each in its own, and nothing else. -/
structure Grouped (groups : List InputGroup) (entries : List (String × String)) : Prop where
  rising : groups.Pairwise fun a b => a.name < b.name
  inputs_eq : ∀ group ∈ groups,
    group.inputs = entries.filter fun entry => groupOf entry.1 = group.name
  exists_mem_iff : ∀ name,
    (∃ group ∈ groups, group.name = name) ↔ ∃ entry ∈ entries, groupOf entry.1 = name
  perm : (groups.flatMap (·.inputs)).Perm entries

theorem Grouped.nil : Grouped [] [] where
  rising := .nil
  inputs_eq := nofun
  exists_mem_iff := by simp
  perm := .refl _

/-- One more input is put behind the others of its group. -/
theorem Grouped.addTo (h : Grouped groups entries) (input : String × String) :
    Grouped (InputGroup.addTo (groupOf input.1) input groups) (entries ++ [input]) where
  rising := InputGroup.pairwise_addTo h.rising
  inputs_eq := by
    intro group hmem
    rw [List.filter_append]
    rcases InputGroup.mem_addTo h.rising hmem with ⟨hold, hname⟩ | ⟨old, rfl, hold⟩
    · rw [h.inputs_eq group hold]
      simp [Ne.symm hname]
    · have hentries : old = entries.filter fun entry => groupOf entry.1 = groupOf input.1 := by
        rcases hold with hold | ⟨rfl, hother⟩
        · exact h.inputs_eq _ hold
        · refine (List.filter_eq_nil_iff.2 fun entry hentry => ?_).symm
          intro heq
          obtain ⟨other, hin, hname⟩ :=
            (h.exists_mem_iff _).2 ⟨entry, hentry, of_decide_eq_true heq⟩
          exact hother other hin hname
      simp [hentries]
  exists_mem_iff := by
    intro name
    rw [InputGroup.exists_mem_addTo_iff, h.exists_mem_iff]
    simp [or_and_right, exists_or, or_comm, eq_comm]
  perm := InputGroup.perm_addTo.trans (h.perm.append_right _)

/-- All inputs of a list are put into their groups, one after the other. -/
theorem Grouped.foldl (h : Grouped groups entries) (more : List (String × String)) :
    Grouped
      (more.foldl (fun groups input => InputGroup.addTo (groupOf input.1) input groups) groups)
      (entries ++ more) := by
  induction more generalizing groups entries with
  | nil => rwa [List.append_nil]
  | cons input rest ih =>
    rw [← List.singleton_append, ← List.append_assoc]
    exact ih (h.addTo input)

variable (link : Link)

/-- The groups of a link hold its inputs. -/
theorem grouped : Grouped link.groups link.inputs.entries :=
  Grouped.nil.foldl link.inputs.entries

/-- The groups of a link rise in name and none is empty. The inputs of each rise in name. An input
is in the group that its name tells and in no other, all of them are there once with their values,
and there are no other groups. -/
theorem groups_classify :
    (link.groups.Pairwise fun a b => a.name < b.name) ∧
    (∀ group ∈ link.groups, group.inputs ≠ []) ∧
    (∀ group ∈ link.groups, group.inputs.Pairwise fun a b => a.1 < b.1) ∧
    (∀ entry ∈ link.inputs.entries, ∀ group ∈ link.groups,
      entry ∈ group.inputs ↔ IsGroupOf entry.1 group.name) ∧
    (link.groups.flatMap (·.inputs)).Perm link.inputs.entries ∧
    (∀ name, (∃ group ∈ link.groups, group.name = name) ↔
      ∃ entry ∈ link.inputs.entries, IsGroupOf entry.1 name) := by
  have h := link.grouped
  refine ⟨h.rising, fun group hgroup hnone => ?_, fun group hgroup => ?_, ?_, h.perm, ?_⟩
  · obtain ⟨entry, hentry, hname⟩ := (h.exists_mem_iff _).1 ⟨group, hgroup, rfl⟩
    rw [h.inputs_eq group hgroup, List.filter_eq_nil_iff] at hnone
    exact hnone entry hentry (decide_eq_true hname)
  · rw [h.inputs_eq group hgroup]
    exact link.inputs.sorted.filter _
  · intro entry hentry group hgroup
    rw [h.inputs_eq group hgroup, isGroupOf_iff]
    simp [hentry]
  · intro name
    simp only [isGroupOf_iff]
    exact h.exists_mem_iff name

/-- The inputs of a group need not stand together. -/
example : (Link.groups ⟨"", "", .ofList [("a", "1"), ("a-b.x", "2"), ("a.x", "3"), (".y", "4")]⟩) =
    [⟨"", [(".y", "4")]⟩, ⟨"a", [("a", "1"), ("a.x", "3")]⟩, ⟨"a-b", [("a-b.x", "2")]⟩] := by
  decide

end Link

end RestConformance
