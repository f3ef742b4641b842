import RestConformance.Proofs.Url.Ascending
import RestConformance.Proofs.Url.Authority

/-!
# Names of ideographs

Ideographs stand for themselves in domain names and change no neighbour. So a label of ascending
ideographs is accepted up to the length that readable forms are limited to.

## Main definitions

* `Idna.IsIdeographic t` – a label of ascending ideographs of a length that is accepted.

## Main results

* `Idna.toAscii?_ideographic` – the ASCII form of such a label;
* `Url.readAuthority_ideographic` – such a label is read as the host of an address.
-/

namespace RestConformance

open Punycode (IsAscending encode)

variable {t : Text} {c : Char}

namespace Idna

/-- A label of ascending ideographs of a length that is accepted. -/
structure IsIdeographic (t : Text) : Prop where
  ne_nil : t ≠ []
  ideographs : ∀ c ∈ t, isIdeograph c = true
  pairwise : t.Pairwise (·.toNat < ·.toNat)
  length_le : t.length ≤ longestReadable

theorem toNat_of_isIdeograph (h : isIdeograph c = true) : 0x4E00 ≤ c.toNat ∧ c.toNat ≤ 0x9FFF := by
  rw [isIdeograph, Bool.and_eq_true, decide_eq_true_eq, decide_eq_true_eq] at h
  exact h

/-- Ideographs are no characters of ASCII. -/
theorem ne_of_isIdeograph (h : isIdeograph c = true) {d : Char} (hd : d.toNat < 0x80) : c ≠ d := by
  rintro rfl
  have hlow := (toNat_of_isIdeograph h).1
  omega

theorem IsIdeographic.notMem (h : IsIdeographic t) {d : Char} (hd : d.toNat < 0x80) : d ∉ t :=
  fun hmem => ne_of_isIdeograph (h.ideographs d hmem) hd rfl

theorem IsIdeographic.isAscending (h : IsIdeographic t) : IsAscending t where
  extended := fun c hc => by
    have hlow := (toNat_of_isIdeograph (h.ideographs c hc)).1
    omega
  pairwise := h.pairwise

/-! ### The readable form -/

theorem mapChar?_ideograph (h : isIdeograph c = true) : mapChar? c = some [c] := by
  have hlow := (toNat_of_isIdeograph h).1
  rw [mapChar?, if_neg (by omega), mapExtended?, h, Bool.true_or, if_pos rfl]

theorem isForbidden_ideograph (h : isIdeograph c = true) : isForbidden c = false := by
  have hlow := (toNat_of_isIdeograph h).1
  have table : ∀ d ∈ "#%/:<>?@[\\]^|".toList, d.toNat < 0x80 := by decide +kernel
  rw [isForbidden, Bool.or_eq_false_iff, Bool.or_eq_false_iff]
  refine ⟨⟨decide_eq_false (by omega), beq_eq_false_iff_ne.2 (by omega)⟩, ?_⟩
  refine Bool.eq_false_iff.2 fun hlisted => ?_
  exact ne_of_isIdeograph h (table c (List.contains_iff_mem.1 hlisted)) rfl

theorem map?_ideographic (h : IsIdeographic t) : map? t = some t := by
  have hchars : t.mapM mapChar? = some (t.map fun c => [c]) := by
    refine mapM_eq_some_iff.2 (List.forall₂_map_right_iff.2 (List.forall₂_same.2 fun c hc => ?_))
    exact mapChar?_ideograph (h.ideographs c hc)
  rw [map?, hchars, Option.map_some]
  exact congrArg some (List.flatMap_singleton' t)

theorem canonical_ideographic (h : IsIdeographic t) : canonical t = t := by
  refine if_pos (List.all_eq_true.2 fun c hc => ?_)
  rw [isSettled, h.ideographs c hc, Bool.or_true]

/-- There are no joiners among ideographs. -/
theorem joinersFit_ideographs (h : ∀ c ∈ t, isIdeograph c = true) (before : Text) :
    joinersFit before t = true := by
  induction t generalizing before with
  | nil => rfl
  | cons c rest ih =>
    have hbounds := toNat_of_isIdeograph (h c List.mem_cons_self)
    have hjoiner : c ≠ '\u200D' ∧ c ≠ '\u200C' := by
      refine ⟨?_, ?_⟩ <;> rintro rfl <;> exact absurd hbounds.1 (by decide)
    unfold joinersFit
    dsimp only
    rw [if_neg hjoiner.1, if_neg hjoiner.2, ih fun d hd => h d (List.mem_cons_of_mem c hd)]
    rfl

theorem isPrefixOf_ideographic (h : IsIdeographic t) : acePrefix.isPrefixOf t = false := by
  refine Bool.eq_false_iff.2 fun hprefix => ?_
  obtain ⟨rest, rfl⟩ := List.isPrefixOf_iff_prefix.1 hprefix
  exact h.notMem (d := 'x') (by decide) List.mem_cons_self

theorem isValidLabel_ideographic (h : IsIdeographic t) : isValidLabel t = true := by
  have hmark : t.head?.any isMark = false := by
    obtain ⟨c, rest, rfl⟩ := List.exists_cons_of_ne_nil h.ne_nil
    rw [List.head?_cons, Option.any_some, isMark, h.ideographs c List.mem_cons_self]
    rfl
  have hself : t.all (fun c => mapChar? c == some [c]) = true := by
    refine List.all_eq_true.2 fun c hc => ?_
    rw [mapChar?_ideograph (h.ideographs c hc), beq_self_eq_true]
  rw [isValidLabel, isPrefixOf_ideographic h, hmark, hself, canonical_ideographic h,
    beq_self_eq_true, joinersFit_ideographs h.ideographs]
  rfl

theorem isRightToLeft_ideographic (h : IsIdeographic t) : isRightToLeft t = false := by
  refine List.any_eq_false.2 fun c hc => ?_
  have hbounds := toNat_of_isIdeograph (h.ideographs c hc)
  -- The scripts from right to left have blocks below the ideographs and above them.
  have hblock : isInRightToLeftBlock c = false := by
    rw [isInRightToLeftBlock, Bool.or_eq_false_iff, Bool.and_eq_false_iff]
    exact ⟨.inr (decide_eq_false (by omega)), decide_eq_false (by omega)⟩
  rw [hblock, Bool.false_and]
  exact Bool.false_ne_true

/-! ### The plain form -/

theorem read?_ideographic (h : IsIdeographic t) :
    Label.read? t = some ⟨t, acePrefix ++ encode t⟩ := by
  have hascii : t.isAscii = false := by
    obtain ⟨c, rest, rfl⟩ := List.exists_cons_of_ne_nil h.ne_nil
    refine List.all_eq_false.2 ⟨c, List.mem_cons_self, ?_⟩
    have hlow := (toNat_of_isIdeograph (h.ideographs c List.mem_cons_self)).1
    rw [decide_eq_true_eq]
    omega
  rw [Label.read?, isPrefixOf_ideographic h, hascii, if_neg Bool.false_ne_true,
    if_neg Bool.false_ne_true, Label.ofReadable?]
  refine if_pos ?_
  rw [isValidLabel_ideographic h, Punycode.decode?_encode_ascending h.isAscending,
    decide_eq_true h.length_le, beq_self_eq_true]
  rfl

/-- The ASCII form of a label of ascending ideographs. -/
theorem toAscii?_ideographic (h : IsIdeographic t) : toAscii? t = some (acePrefix ++ encode t) := by
  have hforbidden : ¬t.any isForbidden = true := by
    rw [List.any_eq_true]
    rintro ⟨c, hc, hbad⟩
    rw [isForbidden_ideograph (h.ideographs c hc)] at hbad
    exact Bool.false_ne_true hbad
  have hsplit : Text.splitAll '.' t = [t] := Text.splitAll_of_notMem (h.notMem (by decide))
  have hlabels : labels? t = some [⟨t, acePrefix ++ encode t⟩] := by
    rw [labels?, map?_ideographic h]
    dsimp only
    rw [canonical_ideographic h, if_neg hforbidden, hsplit, List.mapM_cons, List.mapM_nil,
      read?_ideographic h]
    show (if _ then _ else _) = _
    rw [List.any_cons, isRightToLeft_ideographic h]
    rfl
  rw [toAscii?, hlabels]
  rfl

theorem notMem_encode_ideographic (h : IsIdeographic t) : '.' ∉ acePrefix ++ encode t := by
  intro hmem
  rcases List.mem_append.1 hmem with hfront | hback
  · exact absurd hfront (by decide)
  rcases Punycode.mem_encode hback with ⟨hlabel, -⟩ | hhyphen | hdigit
  · exact h.notMem (by decide) hlabel
  · exact absurd hhyphen (by decide)
  · exact (isPlain_digitChar hdigit).2 rfl

end Idna

namespace Url

open Idna (IsIdeographic acePrefix)

theorem Host.read_ideographic (h : IsIdeographic t) :
    Host.read t = .ok (.name (acePrefix ++ encode t)) := by
  have hdecode := Percent.decode?_decode_of_notMem (h.notMem (d := '%') (by decide))
  have hsplit : Text.splitAll '.' (acePrefix ++ encode t) = [acePrefix ++ encode t] :=
    Text.splitAll_of_notMem (Idna.notMem_encode_ideographic h)
  have hnumber : Ipv4.endsInNumber (acePrefix ++ encode t) = false := by
    rw [Ipv4.endsInNumber, Ipv4.parts, hsplit]
    rfl
  have hascii : Host.ofAscii (acePrefix ++ encode t) = .ok (.name (acePrefix ++ encode t)) := by
    rw [Host.ofAscii, hnumber]
    rfl
  unfold Host.read
  split
  · exact absurd List.mem_cons_self (h.notMem (d := '[') (by decide))
  · rw [hdecode, Option.bind_some, Idna.toAscii?_ideographic h]
    exact hascii

/-- A label of ascending ideographs is read as the host of an address of the web. -/
theorem readAuthority_ideographic {scheme : Scheme} (hspecial : scheme.isSpecial = true)
    (followed : Bool) (h : IsIdeographic t) :
    readAuthority scheme followed t =
      .ok (⟨[], none, some (.name (acePrefix ++ encode t)), none⟩, []) := by
  have huser : splitUser t = (none, t) := by
    rw [splitUser, Text.splitLast_of_notMem (h.notMem (by decide))]
  have hplain : ∀ c ∈ t, c ≠ ':' ∧ c ≠ '[' ∧ c ≠ ']' := fun c hc =>
    ⟨Idna.ne_of_isIdeograph (h.ideographs c hc) (by decide),
      Idna.ne_of_isIdeograph (h.ideographs c hc) (by decide),
      Idna.ne_of_isIdeograph (h.ideographs c hc) (by decide)⟩
  have hport : splitPort false t = (t, none) := by
    have hwhole := splitPort_plain hplain []
    rwa [List.append_nil, splitPort, List.append_nil] at hwhole
  have hhost : readHost scheme t = .ok (some (.name (acePrefix ++ encode t))) := by
    rw [readHost, if_pos hspecial, if_neg fun hnone => h.ne_nil (List.isEmpty_iff.1 hnone),
      Host.read_ideographic h]
    rfl
  have hnamed : ¬((none : Option Text) = some [] ∧ t.isEmpty = true ∧ followed = true) := by
    rintro ⟨hnone, -⟩
    cases hnone
  rw [readAuthority_special hspecial, huser, if_neg hnamed, readPlace, hport, hhost]
  rfl

end Url

end RestConformance
