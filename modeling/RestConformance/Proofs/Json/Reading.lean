import RestConformance.Proofs.Json.Scalars

/-!
# Reading back JSON

A value is read back from its compact form and from its indented one. Both put the parts of a value
one behind the other with a comma between neighbours, and differ in the blanks around them, which do
not matter for reading. So what holds of parts with any blanks around them holds of both forms.

## Main definitions

* `Json.IsWhole value` – all numbers of a value are whole;
* `Json.separated before form parts` – parts with commas between them and blanks before each;
* `Json.texts value` – the written forms of a value.

## Main results

* `Json.readsAs_array`, `Json.readsAs_object` – values with parts are read back where their parts
  are;
* `Json.IsWhole.readsAs_write`, `Json.IsWhole.readsAs_writeIndented` – values whose numbers are
  whole are read back;
* `Json.read?_texts` – so is a whole document, in either form.
-/

namespace RestConformance.Json

variable {value : Json} {t rest : Text} {fuel : Nat}

/-- All numbers of a value are whole. -/
inductive IsWhole : Json → Prop where
  | null : IsWhole .null
  | bool (b : Bool) : IsWhole (.bool b)
  | integer (n : Int) : IsWhole (.integer n)
  | string (s : String) : IsWhole (.string s)
  | array {items : List Json} (h : ∀ item ∈ items, IsWhole item) : IsWhole (.array items)
  | object {members : List (String × Json)} (h : ∀ member ∈ members, IsWhole member.2) :
      IsWhole (.object members)

@[simp]
theorem isWhole_bool (b : Bool) : IsWhole (.bool b) :=
  .bool b

@[simp]
theorem isWhole_integer (n : Int) : IsWhole (.integer n) :=
  .integer n

@[simp]
theorem isWhole_string (s : String) : IsWhole (.string s) :=
  .string s

@[simp]
theorem isWhole_array_iff {items : List Json} :
    IsWhole (.array items) ↔ ∀ item ∈ items, IsWhole item := by
  refine ⟨fun h => ?_, .array⟩
  cases h with
  | array h => exact h

@[simp]
theorem isWhole_object_iff {members : List (String × Json)} :
    IsWhole (.object members) ↔ ∀ member ∈ members, IsWhole member.2 := by
  refine ⟨fun h => ?_, .object⟩
  cases h with
  | object h => exact h

/-! ### Arrays and objects -/

section Parts

/-- Parts with commas between them, with the same text before each. -/
def separated {α : Type} (before : Text) (form : α → Text) (parts : List α) : Text :=
  Text.join [','] (parts.map fun part => before ++ form part)

theorem separated_singleton {α : Type} (before : Text) (form : α → Text) (part : α) :
    separated before form [part] = before ++ form part :=
  rfl

theorem separated_cons_cons {α : Type} (before : Text) (form : α → Text) (part next : α)
    (more : List α) : separated before form (part :: next :: more) =
      before ++ (form part ++ ',' :: separated before form (next :: more)) := by
  show before ++ form part ++ [','] ++ separated before form (next :: more) = _
  simp

variable {before colon behind after : Text} {form : Json → Text}

theorem readItems_last (hvalue : readValue fuel t = some (value, after))
    (hafter : skipGap after = ']' :: rest) :
    readItems (fuel + 1) t = some ([value], rest) := by
  rw [readItems, hvalue]
  simp only [hafter]

theorem readItems_more {items : List Json} (hvalue : readValue fuel t = some (value, ',' :: after))
    (hmore : readItems fuel after = some (items, rest)) :
    readItems (fuel + 1) t = some (value :: items, rest) := by
  rw [readItems, hvalue]
  show (readItems fuel after).map _ = _
  rw [hmore]
  rfl

/-- Items are read back up to the bracket behind them. -/
theorem readItems_separated (hbefore : before.all isGap = true) (hbehind : behind.all isGap = true)
    {item : Json} {items : List Json} (h : ∀ value ∈ item :: items, ReadsAs (form value) value)
    (hfuel : (separated before form (item :: items)).length + 1 < fuel) :
    readItems fuel (separated before form (item :: items) ++ (behind ++ ']' :: rest)) =
      some (item :: items, rest) := by
  have hitem := h item List.mem_cons_self
  induction items generalizing item fuel with
  | nil =>
    obtain ⟨fuel, rfl⟩ := Nat.exists_eq_succ_of_ne_zero (Nat.ne_zero_of_lt hfuel)
    rw [separated_singleton, List.length_append] at hfuel
    rw [separated_singleton, List.append_assoc]
    have hend : skipGap (behind ++ ']' :: rest) = ']' :: rest := skipGap_append hbehind _
    refine readItems_last ?_ hend
    rw [readValue_append hbefore]
    exact hitem fuel _ (by omega) (closes_append hbehind (by decide) rest)
  | cons next more ih =>
    obtain ⟨fuel, rfl⟩ := Nat.exists_eq_succ_of_ne_zero (Nat.ne_zero_of_lt hfuel)
    rw [separated_cons_cons, List.length_append, List.length_append, List.length_cons] at hfuel
    rw [separated_cons_cons, List.append_assoc, List.append_assoc, List.cons_append]
    have hlater : ∀ value ∈ next :: more, ReadsAs (form value) value :=
      fun value hvalue => h value (List.mem_cons_of_mem _ hvalue)
    refine readItems_more ?_ (ih hlater (by omega) (hlater next List.mem_cons_self))
    rw [readValue_append hbefore]
    exact hitem fuel _ (by omega) (closes_cons (by decide) _)

/-- A member with blanks behind its colon. -/
def writeMember (colon : Text) (form : Json → Text) (member : String × Json) : Text :=
  writeString member.1 ++ ':' :: (colon ++ form member.2)

theorem writeString_append (name : String) (t : Text) :
    writeString name ++ t = '"' :: (name.toList.flatMap escape ++ '"' :: t) := by
  simp [writeString]

theorem readMembers_last {name : String} (hvalue : readValue fuel t = some (value, after))
    (hafter : skipGap after = '\x7d' :: rest) :
    readMembers (fuel + 1) (writeString name ++ ':' :: t) = some ([(name, value)], rest) := by
  simp only [writeString_append, readMembers, skipGap_cons (c := '"') rfl, readString_writeString,
    skipGap_cons (c := ':') rfl, hvalue, hafter, String.ofList_toList]

theorem readMembers_more {name : String} {members : List (String × Json)}
    (hvalue : readValue fuel t = some (value, ',' :: after))
    (hmore : readMembers fuel after = some (members, rest)) :
    readMembers (fuel + 1) (writeString name ++ ':' :: t) =
      some ((name, value) :: members, rest) := by
  simp only [writeString_append, readMembers, skipGap_cons (c := '"') rfl, readString_writeString,
    skipGap_cons (c := ':') rfl, hvalue, String.ofList_toList]
  show (readMembers fuel after).map _ = _
  rw [hmore]
  rfl

/-- Blanks in front of a member do not matter. -/
theorem readMembers_append (hbefore : before.all isGap = true) (t : Text) :
    readMembers fuel (before ++ t) = readMembers fuel t := by
  cases fuel with
  | zero => rfl
  | succ fuel => simp only [readMembers, skipGap_append hbefore]

/-- Members are read back up to the brace behind them. -/
theorem readMembers_separated (hbefore : before.all isGap = true) (hcolon : colon.all isGap = true)
    (hbehind : behind.all isGap = true) {member : String × Json} {members : List (String × Json)}
    (h : ∀ m ∈ member :: members, ReadsAs (form m.2) m.2)
    (hfuel : (separated before (writeMember colon form) (member :: members)).length + 1 < fuel) :
    readMembers fuel
      (separated before (writeMember colon form) (member :: members) ++
        (behind ++ '\x7d' :: rest)) =
        some (member :: members, rest) := by
  -- Fuel above the length is enough: each step takes one from it and at least a character away.
  have hmember := h member List.mem_cons_self
  induction members generalizing member fuel with
  | nil =>
    obtain ⟨fuel, rfl⟩ := Nat.exists_eq_succ_of_ne_zero (Nat.ne_zero_of_lt hfuel)
    rw [separated_singleton, writeMember, List.length_append, List.length_append, List.length_cons,
      List.length_append] at hfuel
    rw [separated_singleton, writeMember, List.append_assoc, List.append_assoc, List.cons_append,
      List.append_assoc, readMembers_append hbefore]
    have hend : skipGap (behind ++ '\x7d' :: rest) = '\x7d' :: rest := skipGap_append hbehind _
    refine readMembers_last ?_ hend
    rw [readValue_append hcolon]
    exact hmember fuel _ (by omega) (closes_append hbehind (by decide) rest)
  | cons next more ih =>
    obtain ⟨fuel, rfl⟩ := Nat.exists_eq_succ_of_ne_zero (Nat.ne_zero_of_lt hfuel)
    rw [separated_cons_cons, writeMember, List.length_append, List.length_append,
      List.length_append, List.length_cons, List.length_cons, List.length_append] at hfuel
    rw [separated_cons_cons, writeMember, List.append_assoc, List.append_assoc, List.append_assoc,
      List.cons_append, List.append_assoc, List.cons_append, readMembers_append hbefore]
    have hlater : ∀ m ∈ next :: more, ReadsAs (form m.2) m.2 :=
      fun m hm => h m (List.mem_cons_of_mem _ hm)
    refine readMembers_more ?_ (ih hlater (by omega) (hlater next List.mem_cons_self))
    rw [readValue_append hcolon]
    exact hmember fuel _ (by omega) (closes_cons (by decide) _)

theorem readValue_items {c : Char} {more : Text} {items : List Json} (hc : opens c = true)
    (ht : skipGap t = c :: more) (hitems : readItems fuel t = some (items, rest)) :
    readValue (fuel + 1) ('[' :: t) = some (.array items, rest) := by
  simp only [readValue, skipGap_cons (c := '[') rfl, ht]
  split
  · next heq =>
    rw [(List.cons.inj heq).1] at hc
    exact absurd hc (by decide)
  · rw [hitems]
    rfl

/-- An array is read back where its items are. -/
theorem readsAs_array (hbefore : before.all isGap = true) (hbehind : behind.all isGap = true)
    {items : List Json} (hopens : ∀ item ∈ items, ∃ c t, form item = c :: t ∧ opens c = true)
    (h : ∀ item ∈ items, ReadsAs (form item) item) :
    ReadsAs ('[' :: (separated before form items ++ (behind ++ [']']))) (.array items) := by
  intro fuel rest hfuel _
  obtain ⟨fuel, rfl⟩ := Nat.exists_eq_succ_of_ne_zero (Nat.ne_zero_of_lt hfuel)
  rw [List.length_cons, List.length_append, List.length_append, List.length_singleton] at hfuel
  rw [List.cons_append, List.append_assoc, List.append_assoc, List.singleton_append]
  cases items with
  | nil =>
    have hend : skipGap (behind ++ ']' :: rest) = ']' :: rest := skipGap_append hbehind _
    show readValue (fuel + 1) ('[' :: (behind ++ ']' :: rest)) = _
    simp only [readValue, skipGap_cons (c := '[') rfl, hend]
  | cons item more =>
    -- What opens the first item is no bracket that closes the array.
    obtain ⟨c, t, hitem, hc⟩ := hopens item List.mem_cons_self
    have hfirst : ∃ rest, separated before form (item :: more) = before ++ c :: rest := by
      cases more with
      | nil => exact ⟨t, by rw [separated_singleton, hitem]⟩
      | cons next more => exact ⟨_, by rw [separated_cons_cons, hitem, List.cons_append]⟩
    have hitems : readItems fuel (separated before form (item :: more) ++ (behind ++ ']' :: rest)) =
        some (item :: more, rest) := readItems_separated hbefore hbehind h (by omega)
    obtain ⟨later, hfirst⟩ := hfirst
    rw [hfirst, List.append_assoc, List.cons_append] at hitems ⊢
    have hskip : skipGap (before ++ c :: (later ++ (behind ++ ']' :: rest))) =
        c :: (later ++ (behind ++ ']' :: rest)) := by
      rw [skipGap_append hbefore, skipGap_cons (isGap_of_opens hc)]
    exact readValue_items hc hskip hitems

theorem readValue_members {more : Text} {members : List (String × Json)}
    (ht : skipGap t = '"' :: more) (hmembers : readMembers fuel t = some (members, rest)) :
    readValue (fuel + 1) ('\x7b' :: t) = some (.object members, rest) := by
  simp only [readValue, skipGap_cons (c := '\x7b') rfl, ht]
  rw [hmembers]
  rfl

/-- An object is read back where the values of its members are. -/
theorem readsAs_object (hbefore : before.all isGap = true) (hcolon : colon.all isGap = true)
    (hbehind : behind.all isGap = true) {members : List (String × Json)}
    (h : ∀ m ∈ members, ReadsAs (form m.2) m.2) :
    ReadsAs ('\x7b' :: (separated before (writeMember colon form) members ++ (behind ++ ['\x7d'])))
      (.object members) := by
  intro fuel rest hfuel _
  obtain ⟨fuel, rfl⟩ := Nat.exists_eq_succ_of_ne_zero (Nat.ne_zero_of_lt hfuel)
  rw [List.length_cons, List.length_append, List.length_append, List.length_singleton] at hfuel
  rw [List.cons_append, List.append_assoc, List.append_assoc, List.singleton_append]
  cases members with
  | nil =>
    have hend : skipGap (behind ++ '\x7d' :: rest) = '\x7d' :: rest := skipGap_append hbehind _
    show readValue (fuel + 1) ('\x7b' :: (behind ++ '\x7d' :: rest)) = _
    simp only [readValue, skipGap_cons (c := '\x7b') rfl, hend]
  | cons member more =>
    have hfirst : ∃ rest, separated before (writeMember colon form) (member :: more) =
        before ++ '"' :: rest := by
      cases more with
      | nil => exact ⟨_, by rw [separated_singleton, writeMember, writeString_append]⟩
      | cons next more =>
        exact ⟨_, by rw [separated_cons_cons, writeMember, writeString_append, List.cons_append]⟩
    have hmembers : readMembers fuel
        (separated before (writeMember colon form) (member :: more) ++ (behind ++ '\x7d' :: rest)) =
          some (member :: more, rest) :=
      readMembers_separated hbefore hcolon hbehind h (by omega)
    obtain ⟨later, hfirst⟩ := hfirst
    rw [hfirst, List.append_assoc, List.cons_append] at hmembers ⊢
    have hskip : skipGap (before ++ '"' :: (later ++ (behind ++ '\x7d' :: rest))) =
        '"' :: (later ++ (behind ++ '\x7d' :: rest)) := by
      rw [skipGap_append hbefore, skipGap_cons rfl]
    exact readValue_members hskip hmembers

end Parts

/-! ### The compact form -/

theorem writeItems_eq (items : List Json) : writeItems items = separated [] write items := by
  cases items with
  | nil => rfl
  | cons item more =>
    induction more generalizing item with
    | nil => exact List.append_nil _
    | cons next more ih =>
      rw [separated_cons_cons, ← ih next]
      rfl

theorem writeMembers_eq (members : List (String × Json)) :
    writeMembers members = separated [] (writeMember [] write) members := by
  cases members with
  | nil => rfl
  | cons member more =>
    induction more generalizing member with
    | nil => exact List.append_nil _
    | cons next more ih =>
      rw [separated_cons_cons, ← ih next]
      rfl

theorem write_array (items : List Json) :
    (Json.array items).write = '[' :: (separated [] write items ++ ([] ++ [']'])) := by
  rw [← writeItems_eq]
  rfl

theorem write_object (members : List (String × Json)) : (Json.object members).write =
    '\x7b' :: (separated [] (writeMember [] write) members ++ ([] ++ ['\x7d'])) := by
  rw [← writeMembers_eq]
  rfl

/-- A value starts with a character that opens one. -/
theorem exists_write_eq_cons (h : IsWhole value) :
    ∃ c t, value.write = c :: t ∧ opens c = true := by
  cases h with
  | null => exact ⟨_, _, rfl, by decide⟩
  | bool b => cases b <;> exact ⟨_, _, rfl, by decide⟩
  | integer n =>
    obtain ⟨c, t, hwrite, hc⟩ := exists_writeInteger_eq_cons n
    exact ⟨c, t, hwrite, hc.opens⟩
  | string s => exact ⟨_, _, rfl, by decide⟩
  | array h => exact ⟨_, _, rfl, by decide⟩
  | object h => exact ⟨_, _, rfl, by decide⟩

/-- Values whose numbers are whole are read back from their compact form. -/
theorem IsWhole.readsAs_write (h : IsWhole value) : ReadsAs value.write value := by
  induction h with
  | null => exact readsAs_null
  | bool b => exact readsAs_bool b
  | integer n => exact readsAs_integer n
  | string s => exact readsAs_string s
  | array hwhole ih =>
    rw [write_array]
    exact readsAs_array rfl rfl (fun item hitem => exists_write_eq_cons (hwhole item hitem)) ih
  | object _ ih =>
    rw [write_object]
    exact readsAs_object rfl rfl rfl ih

/-! ### The indented form -/

theorem all_newLine (level : Nat) : (newLine level).all isGap = true := by
  rw [newLine, List.all_cons, List.all_replicate]
  simp [isGap]

theorem writeIndentedItems_eq (level : Nat) (item : Json) (more : List Json) :
    newLine (level + 1) ++ item.writeIndented (level + 1) ++ writeIndentedItems level more =
      separated (newLine (level + 1)) (writeIndented (level + 1)) (item :: more) := by
  induction more generalizing item with
  | nil => exact List.append_nil _
  | cons next more ih =>
    rw [separated_cons_cons, ← ih next, writeIndentedItems]
    simp only [List.append_assoc, List.cons_append]

theorem writeIndentedMembers_eq (level : Nat) (member : String × Json)
    (more : List (String × Json)) :
    newLine (level + 1) ++ writeString member.1 ++ ':' :: ' ' ::
        member.2.writeIndented (level + 1) ++ writeIndentedMembers level more =
      separated (newLine (level + 1)) (writeMember [' '] (writeIndented (level + 1)))
        (member :: more) := by
  induction more generalizing member with
  | nil => simp [separated_singleton, writeMember, writeIndentedMembers]
  | cons next more ih =>
    rw [separated_cons_cons, ← ih next, writeIndentedMembers, writeMember]
    simp only [List.append_assoc, List.cons_append, List.nil_append]

theorem writeIndented_array (level : Nat) (item : Json) (more : List Json) :
    (Json.array (item :: more)).writeIndented level =
      '[' :: (separated (newLine (level + 1)) (writeIndented (level + 1)) (item :: more) ++
        (newLine level ++ [']'])) := by
  rw [← writeIndentedItems_eq, writeIndented]
  simp only [List.append_assoc, List.cons_append]

theorem writeIndented_object (level : Nat) (member : String × Json) (more : List (String × Json)) :
    (Json.object (member :: more)).writeIndented level =
      '\x7b' :: (separated (newLine (level + 1)) (writeMember [' '] (writeIndented (level + 1)))
        (member :: more) ++ (newLine level ++ ['\x7d'])) := by
  rw [← writeIndentedMembers_eq, writeIndented]
  simp only [List.append_assoc, List.cons_append]

theorem exists_writeIndented_eq_cons (level : Nat) (h : IsWhole value) :
    ∃ c t, value.writeIndented level = c :: t ∧ opens c = true := by
  cases h with
  | null => exact exists_write_eq_cons .null
  | bool b => exact exists_write_eq_cons (.bool b)
  | integer n => exact exists_write_eq_cons (.integer n)
  | string s => exact exists_write_eq_cons (.string s)
  | @array items h => cases items <;> exact ⟨_, _, rfl, by decide⟩
  | @object members h => cases members <;> exact ⟨_, _, rfl, by decide⟩

/-- Values whose numbers are whole are read back from their indented form, at any level. -/
theorem IsWhole.readsAs_writeIndented (h : IsWhole value) :
    ∀ level, ReadsAs (value.writeIndented level) value := by
  induction h with
  | null => exact fun _ => readsAs_null
  | bool b => exact fun _ => readsAs_bool b
  | integer n => exact fun _ => readsAs_integer n
  | string s => exact fun _ => readsAs_string s
  | @array items hwhole ih =>
    intro level
    cases items with
    | nil => exact (IsWhole.array hwhole).readsAs_write
    | cons item more =>
      rw [writeIndented_array]
      exact readsAs_array (all_newLine _) (all_newLine _)
        (fun value hvalue => exists_writeIndented_eq_cons _ (hwhole value hvalue))
        fun value hvalue => ih value hvalue _
  | @object members hwhole ih =>
    intro level
    cases members with
    | nil => exact (IsWhole.object hwhole).readsAs_write
    | cons member more =>
      rw [writeIndented_object]
      exact readsAs_object (all_newLine _) rfl (all_newLine _) fun m hm => ih m hm _

/-! ### Documents -/

/-- The written forms of a value: the compact one and the indented one. -/
def texts (value : Json) : List String :=
  [value.compact, value.indented]

theorem read?_of_readsAs (h : ReadsAs t value) : read? (String.ofList t) = some value := by
  have hread := h (t.length + 1) [] (Nat.lt_succ_self _) closes_nil
  rw [List.append_nil] at hread
  rw [read?, String.toList_ofList, hread]
  rfl

/-- A document whose numbers are whole is read back from its compact form. -/
theorem read?_compact (h : IsWhole value) : read? value.compact = some value :=
  read?_of_readsAs h.readsAs_write

/-- A document whose numbers are whole is read back from either form. -/
theorem read?_texts (h : IsWhole value) {text : String} (htext : text ∈ value.texts) :
    read? text = some value := by
  rcases List.mem_cons.1 htext with rfl | hindented
  · exact read?_compact h
  · rw [List.mem_singleton.1 hindented]
    exact read?_of_readsAs (h.readsAs_writeIndented 0)

end RestConformance.Json
