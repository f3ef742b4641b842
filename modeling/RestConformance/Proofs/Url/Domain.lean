import RestConformance.Proofs.Url.LowerCase
import RestConformance.Proofs.Url.Punycode
import RestConformance.Url.Idna.Domain

/-!
# Domain names read back

The ASCII form of a domain name is its own ASCII form, as long as it has no label whose Punycode is
too long to be read. Punycode may be written that is too long: what is limited in writing is the
length of the readable form.

## Main definitions

* `Idna.HasReadableLabels t` – no label of a name has Punycode that is too long to be read.

## Main results

* `Idna.toAscii?_of_plain` – a name of plain labels is its own ASCII form;
* `Idna.toAscii?_eq_some` – an ASCII form with readable labels is its own ASCII form;
* `Idna.toAscii?_of_unreadable` – one with another label is none.
-/

namespace RestConformance.Idna

variable {t name : Text} {c : Char} {label : Label}

/-- The Punycode of a label is not too long to be read. -/
def IsReadable (label : Text) : Prop :=
  acePrefix.isPrefixOf label = true → (label.drop 4).length ≤ longestPunycode

/-- No label of a name has Punycode that is too long to be read. -/
def HasReadableLabels (t : Text) : Prop :=
  ∀ label ∈ Text.splitAll '.' t, IsReadable label

instance (label : Text) : Decidable (IsReadable label) :=
  inferInstanceAs (Decidable (_ → _))

instance (t : Text) : Decidable (HasReadableLabels t) :=
  inferInstanceAs (Decidable (∀ label ∈ Text.splitAll '.' t, IsReadable label))

/-- The character may stand in the ASCII form of a name. -/
def IsPlain (c : Char) : Prop :=
  c.toNat < 0x80 ∧ c.isUpper = false ∧ isForbidden c = false

/-! ### Characters of labels -/

theorem isPlain_digitChar (h : Punycode.IsDigit c) : IsPlain c ∧ c ≠ '.' := by
  obtain ⟨d, hd, rfl⟩ := h
  have table : ∀ k ∈ List.range 36, ((Punycode.digitChar k).toNat < 0x80 ∧
      (Punycode.digitChar k).isUpper = false ∧ isForbidden (Punycode.digitChar k) = false) ∧
      Punycode.digitChar k ≠ '.' := by decide +kernel
  exact table d (List.mem_range.2 hd)

theorem isPlain_acePrefix (h : c ∈ acePrefix) : IsPlain c ∧ c ≠ '.' := by
  have table : ∀ c ∈ acePrefix, (c.toNat < 0x80 ∧ c.isUpper = false ∧ isForbidden c = false) ∧
      c ≠ '.' := by decide +kernel
  exact table c h

theorem isPlain_dot : IsPlain '.' :=
  ⟨by decide, by decide, by decide +kernel⟩

theorem isPlain_hyphen : IsPlain '-' ∧ '-' ≠ '.' :=
  isPlain_acePrefix (by decide)

/-- What is known of a part of a mapped and composed name. -/
structure IsMapped (t : Text) : Prop where
  lowerCase : LowerCase t
  permitted : ∀ c ∈ t, isForbidden c = false
  dotless : '.' ∉ t

theorem IsMapped.isPlain (h : IsMapped t) (hc : c ∈ t) (hascii : c.toNat < 0x80) :
    IsPlain c ∧ c ≠ '.' :=
  ⟨⟨hascii, h.lowerCase c hc, h.permitted c hc⟩, fun heq => h.dotless (heq ▸ hc)⟩

/-! ### Single labels -/

theorem ofPunycode?_eq_some {code : Text} (h : Label.ofPunycode? code = some label) :
    label.plain = acePrefix ++ code ∧ (∀ c ∈ code, c.toNat < 0x80) ∧
      Label.read? label.plain = some label ∧ IsReadable label.plain := by
  have hself := h
  unfold Label.ofPunycode? at h
  obtain ⟨hlength, h⟩ := Option.ite_none_right_eq_some.1 h
  split at h
  · next t ht =>
    obtain ⟨-, h⟩ := Option.ite_none_right_eq_some.1 h
    rw [← Option.some.inj h] at hself ⊢
    refine ⟨rfl, Punycode.ascii_of_decode? ht, ?_, fun _ => hlength⟩
    exact hself
  · cases h

/-- The plain form of a label is read as the same label, unless its Punycode is too long. -/
theorem ofReadable?_eq_some (h : Label.ofReadable? t = some label) (hascii : t.isAscii = false) :
    label.plain = acePrefix ++ Punycode.encode t ∧
      (IsReadable label.plain → Label.read? label.plain = some label) := by
  unfold Label.ofReadable? at h
  obtain ⟨hvalid, h⟩ := Option.ite_none_right_eq_some.1 h
  rw [Bool.and_eq_true, Bool.and_eq_true, beq_iff_eq] at hvalid
  obtain ⟨⟨hvalid, -⟩, hdecode⟩ := hvalid
  rw [← Option.some.inj h]
  refine ⟨rfl, fun hshort => ?_⟩
  have hlength : (Punycode.encode t).length ≤ longestPunycode := hshort rfl
  show Label.ofPunycode? (Punycode.encode t) = _
  rw [Label.ofPunycode?, if_pos hlength, hdecode]
  refine if_pos ?_
  rw [hascii, hvalid]
  rfl

theorem read?_eq_some (hmapped : IsMapped t) (h : Label.read? t = some label) :
    (∀ c ∈ label.plain, IsPlain c ∧ c ≠ '.') ∧
      (IsReadable label.plain → Label.read? label.plain = some label) := by
  have hself := h
  unfold Label.read? at h
  split at h
  · next hace =>
    obtain ⟨hplain, hcode, hread, -⟩ := ofPunycode?_eq_some h
    refine ⟨fun c hc => ?_, fun _ => hread⟩
    rw [hplain] at hc
    rcases List.mem_append.1 hc with hfront | hback
    · exact isPlain_acePrefix hfront
    · exact hmapped.isPlain (List.mem_of_mem_drop hback) (hcode c hback)
  split at h
  · next hascii =>
    rw [← Option.some.inj h] at hself ⊢
    refine ⟨fun c hc => hmapped.isPlain hc ?_, fun _ => hself⟩
    exact of_decide_eq_true (List.all_eq_true.1 hascii c hc)
  · next hascii =>
    obtain ⟨hplain, hread⟩ := ofReadable?_eq_some h (Bool.eq_false_iff.2 hascii)
    refine ⟨fun c hc => ?_, hread⟩
    rw [hplain] at hc
    rcases List.mem_append.1 hc with hfront | hback
    · exact isPlain_acePrefix hfront
    rcases Punycode.mem_encode hback with ⟨hlabel, hlow⟩ | rfl | hdigit
    · exact hmapped.isPlain hlabel hlow
    · exact isPlain_hyphen
    · exact isPlain_digitChar hdigit

theorem read?_of_not_isReadable (h : ¬IsReadable t) : Label.read? t = none := by
  obtain ⟨hace, hlong⟩ := Classical.not_imp.1 h
  rw [Label.read?, if_pos hace, Label.ofPunycode?, if_neg hlong]

/-! ### Names -/

/-- The labels of a name come from parts of its mapped form and agree in their direction. -/
theorem labels?_eq_some {labels : List Label} (h : labels? name = some labels) :
    labels ≠ [] ∧ (∀ label ∈ labels, ∃ part, IsMapped part ∧ Label.read? part = some label) ∧
      ¬(labels.any (fun l => isRightToLeft l.readable) &&
        !labels.all (fun l => respectsDirection l.readable)) = true := by
  unfold labels? at h
  split at h
  · cases h
  next mapped hmap =>
  dsimp only at h
  split at h
  · cases h
  next hpermitted =>
  split at h
  · cases h
  next found hlabels =>
  split at h
  · cases h
  next hdirection =>
  rw [Option.some.inj h] at hlabels hdirection
  have hread := mapM_eq_some_iff.1 hlabels
  refine ⟨fun hnone => ?_, fun label hlabel => ?_, hdirection⟩
  · rw [hnone, List.forall₂_nil_right_iff] at hread
    exact Text.splitAll_ne_nil _ _ hread
  · obtain ⟨place, hplace, rfl⟩ := List.mem_iff_getElem.1 hlabel
    have hbound : place < (Text.splitAll '.' (canonical mapped)).length := by
      rw [hread.length_eq]
      exact hplace
    refine ⟨_, ?_, hread.get hbound hplace⟩
    obtain ⟨hdot, hin⟩ := Text.mem_splitAll (List.getElem_mem hbound)
    have hlower := canonical_lowerCase (map?_lowerCase hmap)
    refine ⟨fun c hc => hlower c (hin c hc), fun c hc => ?_, hdot⟩
    exact Bool.eq_false_iff.2 fun hbad => hpermitted (List.any_eq_true.2 ⟨c, hin c hc, hbad⟩)

/-- The labels of a name that may stand as it is are those of its parts. -/
theorem labels?_of_plain (h : ∀ c ∈ t, IsPlain c) :
    labels? t =
      match (Text.splitAll '.' t).mapM Label.read? with
      | none => none
      | some labels =>
        if labels.any (fun l => isRightToLeft l.readable) &&
            !labels.all (fun l => respectsDirection l.readable) then none
        else some labels := by
  have hascii : ∀ c ∈ t, c.toNat < 0x80 := fun c hc => (h c hc).1
  have hmap : map? t = some t := map?_of_ascii hascii fun c hc => (h c hc).2.1
  have hpermitted : ¬t.any isForbidden = true := by
    intro hbad
    obtain ⟨c, hc, hforbidden⟩ := List.any_eq_true.1 hbad
    rw [(h c hc).2.2] at hforbidden
    exact Bool.false_ne_true hforbidden
  rw [labels?, hmap]
  dsimp only
  rewrite [canonical_of_ascii hascii, if_neg hpermitted]
  cases (Text.splitAll '.' t).mapM Label.read? <;> rfl

/-- The ASCII form of a name: what it is made of and the labels that it was made from. -/
theorem toAscii?_eq_some (h : toAscii? name = some t) :
    (∀ c ∈ t, IsPlain c) ∧ (HasReadableLabels t → toAscii? t = some t) := by
  obtain ⟨labels, hlabels, rfl⟩ := Option.map_eq_some_iff.1 h
  obtain ⟨hsome, hread, hdirection⟩ := labels?_eq_some hlabels
  have hlabel : ∀ label ∈ labels, (∀ c ∈ label.plain, IsPlain c ∧ c ≠ '.') ∧
      (IsReadable label.plain → Label.read? label.plain = some label) := by
    intro label hmem
    obtain ⟨part, hmapped, hpart⟩ := hread label hmem
    exact read?_eq_some hmapped hpart
  have hplain : ∀ c ∈ Text.join ['.'] (labels.map Label.plain), IsPlain c := by
    intro c hc
    rcases Text.mem_join hc with rfl | ⟨part, hpart, hc⟩
    · exact isPlain_dot
    · obtain ⟨label, hmem, rfl⟩ := List.mem_map.1 hpart
      exact ((hlabel label hmem).1 c hc).1
  refine ⟨hplain, fun hreadable => ?_⟩
  -- No label holds a dot, so the name is cut between its labels again.
  have hsplit : Text.splitAll '.' (Text.join ['.'] (labels.map Label.plain)) =
      labels.map Label.plain := by
    refine Text.splitAll_join (fun hnone => hsome (List.map_eq_nil_iff.1 hnone)) ?_
    intro part hpart hdot
    obtain ⟨label, hmem, rfl⟩ := List.mem_map.1 hpart
    exact ((hlabel label hmem).1 '.' hdot).2 rfl
  have hagain : (labels.map Label.plain).mapM Label.read? = some labels := by
    refine mapM_eq_some_iff.2 (List.forall₂_map_left_iff.2 (List.forall₂_same.2 ?_))
    intro label hmem
    refine (hlabel label hmem).2 (hreadable _ ?_)
    rw [hsplit]
    exact List.mem_map_of_mem hmem
  rw [toAscii?, labels?_of_plain hplain, hsplit, hagain]
  dsimp only
  rw [if_neg hdirection]
  rfl

/-- A name of plain labels without Punycode is its own ASCII form. -/
theorem toAscii?_of_plain (hplain : ∀ c ∈ t, IsPlain c)
    (hace : ∀ part ∈ Text.splitAll '.' t, acePrefix.isPrefixOf part = false) :
    toAscii? t = some t := by
  have hascii : ∀ part ∈ Text.splitAll '.' t, part.isAscii = true := by
    intro part hpart
    refine List.all_eq_true.2 fun c hc => decide_eq_true ?_
    exact (hplain c ((Text.mem_splitAll hpart).2 c hc)).1
  have hread : (Text.splitAll '.' t).mapM Label.read? =
      some ((Text.splitAll '.' t).map fun part => ⟨part, part⟩) := by
    refine mapM_eq_some_iff.2 (List.forall₂_map_right_iff.2 (List.forall₂_same.2 ?_))
    intro part hpart
    rw [Label.read?, hace part hpart, if_neg Bool.false_ne_true, if_pos (hascii part hpart)]
  have hdirection : ((Text.splitAll '.' t).map fun part => (⟨part, part⟩ : Label)).any
      (fun l => isRightToLeft l.readable) = false := by
    rw [List.any_map, List.any_eq_false]
    intro part hpart hright
    obtain ⟨c, hc, hclass⟩ := List.any_eq_true.1 hright
    -- No script that is written from right to left starts within ASCII.
    have hlow : c.toNat < 0x80 := of_decide_eq_true (List.all_eq_true.1 (hascii part hpart) c hc)
    have hblock : isInRightToLeftBlock c = false := by
      rw [isInRightToLeftBlock, Bool.or_eq_false_iff, Bool.and_eq_false_iff]
      exact ⟨.inl (decide_eq_false (by omega)), decide_eq_false (by omega)⟩
    rw [hblock] at hclass
    exact Bool.false_ne_true hclass
  rw [toAscii?, labels?_of_plain hplain, hread]
  dsimp only
  rw [hdirection, Bool.false_and, if_neg Bool.false_ne_true, Option.map_some, List.map_map]
  show some (Text.join ['.'] ((Text.splitAll '.' t).map id)) = some t
  rw [List.map_id, Text.join_splitAll]

/-- A name with a label whose Punycode is too long has no ASCII form. -/
theorem toAscii?_of_unreadable (hplain : ∀ c ∈ t, IsPlain c) (h : ¬HasReadableLabels t) :
    toAscii? t = none := by
  unfold HasReadableLabels at h
  push Not at h
  obtain ⟨part, hpart, hlong⟩ := h
  have hnone : (Text.splitAll '.' t).mapM Label.read? = none := by
    rw [Option.eq_none_iff_forall_ne_some]
    intro labels hlabels
    have hread := mapM_eq_some_iff.1 hlabels
    obtain ⟨place, hplace, rfl⟩ := List.mem_iff_getElem.1 hpart
    have hfound := hread.get hplace (hread.length_eq ▸ hplace)
    rw [List.get_eq_getElem, read?_of_not_isReadable hlong] at hfound
    cases hfound
  rw [toAscii?, labels?_of_plain hplain, hnone]
  rfl

end RestConformance.Idna
