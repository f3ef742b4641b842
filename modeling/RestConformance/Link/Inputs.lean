/-!
# Inputs

A map from names to values that is kept in the order of the names. No name occurs twice, so equal
maps are equal lists.

## Main definitions

* `Inputs` – the maps;
* `Inputs.get?`, `Inputs.set`, `Inputs.ofList` – look-up, change and construction.
-/

namespace RestConformance

/-- Puts a value under a name into a list that is in order of its names. -/
def insertEntry (name value : String) : List (String × String) → List (String × String)
  | [] => [(name, value)]
  | (key, old) :: rest =>
    if name < key then (name, value) :: (key, old) :: rest
    else if name = key then (name, value) :: rest
    else (key, old) :: insertEntry name value rest

/-- A name in a list after an insertion was there before, or is the new one. -/
theorem key_of_mem_insertEntry {name value : String} {entries : List (String × String)}
    {entry : String × String} (h : entry ∈ insertEntry name value entries) :
    entry.1 = name ∨ entry ∈ entries := by
  induction entries with
  | nil => simp_all [insertEntry]
  | cons first rest ih =>
    obtain ⟨key, old⟩ := first
    simp only [insertEntry] at h
    split at h
    · rcases List.mem_cons.1 h with rfl | h
      · exact .inl rfl
      · exact .inr h
    · split at h
      · rcases List.mem_cons.1 h with rfl | h
        · exact .inl rfl
        · exact .inr (List.mem_cons_of_mem _ h)
      · rcases List.mem_cons.1 h with rfl | h
        · exact .inr List.mem_cons_self
        · exact (ih h).imp id (List.mem_cons_of_mem _)

/-- Insertion keeps a list in order. -/
theorem pairwise_insertEntry {name value : String} {entries : List (String × String)}
    (h : entries.Pairwise fun a b => a.1 < b.1) :
    (insertEntry name value entries).Pairwise fun a b => a.1 < b.1 := by
  induction entries with
  | nil => simp [insertEntry]
  | cons first rest ih =>
    obtain ⟨key, old⟩ := first
    obtain ⟨hfirst, hrest⟩ := List.pairwise_cons.1 h
    simp only [insertEntry]
    split
    · next hlt =>
      refine List.pairwise_cons.2 ⟨fun entry hmem => ?_, h⟩
      rcases List.mem_cons.1 hmem with rfl | hmem
      · exact hlt
      · exact String.lt_trans hlt (hfirst entry hmem)
    · next hnlt =>
      split
      · next heq => subst heq; exact List.pairwise_cons.2 ⟨hfirst, hrest⟩
      · next hne =>
        refine List.pairwise_cons.2 ⟨fun entry hmem => ?_, ih hrest⟩
        rcases key_of_mem_insertEntry hmem with heq | hmem
        · rw [heq]
          exact Decidable.byContradiction fun hge =>
            hne (String.le_antisymm (String.not_lt.1 hge) (String.not_lt.1 hnlt))
        · exact hfirst entry hmem

/-- A map from names to values in the order of the names. -/
structure Inputs where
  entries : List (String × String)
  sorted : entries.Pairwise fun a b => a.1 < b.1
  deriving DecidableEq

namespace Inputs

/-- The map without entries. -/
def empty : Inputs :=
  ⟨[], .nil⟩

/-- The value under a name. -/
def get? (inputs : Inputs) (name : String) : Option String :=
  inputs.entries.lookup name

/-- The map with a value under a name, in place of the one that was there. -/
def set (inputs : Inputs) (name value : String) : Inputs :=
  ⟨insertEntry name value inputs.entries, pairwise_insertEntry inputs.sorted⟩

/-- The map of some entries. The last entry of a name counts. -/
def ofList (entries : List (String × String)) : Inputs :=
  entries.foldl (fun inputs entry => inputs.set entry.1 entry.2) empty

instance : Inhabited Inputs := ⟨empty⟩

theorem ext {a b : Inputs} (h : a.entries = b.entries) : a = b := by
  cases a; cases b; cases h; rfl

theorem lookup_insertEntry (name value other : String) (entries : List (String × String)) :
    (insertEntry name value entries).lookup other =
      if other = name then some value else entries.lookup other := by
  induction entries with
  | nil => by_cases h : other = name <;>
      simp [insertEntry, List.lookup_cons, List.lookup_nil, h, beq_eq_false_iff_ne.2]
  | cons first rest ih =>
    obtain ⟨key, old⟩ := first
    simp only [insertEntry]
    split
    · by_cases h : other = name <;> simp [List.lookup_cons, h, beq_eq_false_iff_ne.2]
    · split
      · next heq =>
        subst heq
        by_cases h : other = name <;> simp [List.lookup_cons, h, beq_eq_false_iff_ne.2]
      · next hne =>
        simp only [List.lookup_cons, ih]
        by_cases h : other = name
        · subst h; simp [beq_eq_false_iff_ne.2 hne]
        · simp [h]

/-- A look-up after a change finds the new value under its name and the old ones elsewhere. -/
theorem get?_set (inputs : Inputs) (name value other : String) :
    (inputs.set name value).get? other = if other = name then some value else inputs.get? other :=
  lookup_insertEntry name value other inputs.entries

end Inputs

end RestConformance
