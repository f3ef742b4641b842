import Mathlib.Data.List.DropRight
import RestConformance.Text.Basic

/-!
# Cutting texts

What the cuts of a text give where it is known which part holds the separator and which does not,
and what trimming leaves of a text that is put together.

## Main definitions

* `Text.IsTrimmed p t` – neither end of the text is a character of the class.

## Main results

* `Text.splitFirst_append`, `Text.splitLast_append`, `Text.splitAll_append` – cuts at a separator
  that one of the parts does not hold;
* `Text.splitAll_join` – parts without the separator read back from the text that joins them;
* `Text.trimRight_append_cons` – trimming at the right stops at a character that stays;
* `Text.trimLeft_append_of_all`, `Text.trimRight_append_of_all` – characters of the class are
  trimmed off, however many there are;
* `Text.exists_trimBoth`, `Text.trimBoth_append` – what trimming at both ends drops, and what it
  leaves;
* `Text.mem_splitAll_trimLeft`, `Text.mem_splitAll_trimRight` – trimming separators makes no new
  parts.
-/

namespace RestConformance

namespace Text

variable {separator : Char} {a b t : Text}

/-! ### The first and the last separator -/

theorem splitFirst_of_notMem (h : separator ∉ t) : splitFirst separator t = none := by
  induction t with
  | nil => rfl
  | cons c rest ih =>
    obtain ⟨hc, hrest⟩ := List.ne_and_not_mem_of_not_mem_cons h
    rw [splitFirst, if_neg (Ne.symm hc), ih hrest]
    rfl

theorem notMem_of_splitFirst (h : splitFirst separator t = none) : separator ∉ t := by
  intro hmem
  induction t with
  | nil => cases hmem
  | cons c rest ih =>
    rw [splitFirst] at h
    split at h
    · cases h
    · next hc =>
      refine ih (Option.map_eq_none_iff.1 h) ?_
      exact (List.mem_cons.1 hmem).resolve_left (Ne.symm hc)

theorem splitFirst_append (h : separator ∉ a) (b : Text) :
    splitFirst separator (a ++ separator :: b) = some (a, b) := by
  induction a with
  | nil => rw [List.nil_append, splitFirst, if_pos rfl]
  | cons c rest ih =>
    obtain ⟨hc, hrest⟩ := List.ne_and_not_mem_of_not_mem_cons h
    rw [List.cons_append, splitFirst, if_neg (Ne.symm hc), ih hrest]
    rfl

theorem splitLast_of_notMem (h : separator ∉ t) : splitLast separator t = none := by
  induction t with
  | nil => rfl
  | cons c rest ih =>
    obtain ⟨hc, hrest⟩ := List.ne_and_not_mem_of_not_mem_cons h
    rw [splitLast, ih hrest]
    exact if_neg (Ne.symm hc)

theorem splitLast_append (a : Text) (h : separator ∉ b) :
    splitLast separator (a ++ separator :: b) = some (a, b) := by
  induction a with
  | nil =>
    rw [List.nil_append, splitLast, splitLast_of_notMem h]
    exact if_pos rfl
  | cons c rest ih => rw [List.cons_append, splitLast, ih]

/-! ### All separators -/

theorem splitAll_cons_of_ne {c : Char} (hc : c ≠ separator) (t : Text) :
    ∃ part parts, splitAll separator t = part :: parts ∧
      splitAll separator (c :: t) = (c :: part) :: parts := by
  obtain ⟨part, parts, hparts⟩ := List.exists_cons_of_ne_nil (splitAll_ne_nil separator t)
  refine ⟨part, parts, hparts, ?_⟩
  rw [splitAll, if_neg hc, hparts]

theorem splitAll_of_notMem (h : separator ∉ t) : splitAll separator t = [t] := by
  induction t with
  | nil => rfl
  | cons c rest ih =>
    obtain ⟨hc, hrest⟩ := List.ne_and_not_mem_of_not_mem_cons h
    rw [splitAll, if_neg (Ne.symm hc), ih hrest]

theorem splitAll_append (h : separator ∉ a) (b : Text) :
    splitAll separator (a ++ separator :: b) = a :: splitAll separator b := by
  induction a with
  | nil => rw [List.nil_append, splitAll, if_pos rfl]
  | cons c rest ih =>
    obtain ⟨hc, hrest⟩ := List.ne_and_not_mem_of_not_mem_cons h
    rw [List.cons_append, splitAll, if_neg (Ne.symm hc), ih hrest]

/-- Parts without the separator read back from the text that joins them. -/
theorem splitAll_join {parts : List Text} (hparts : parts ≠ [])
    (h : ∀ part ∈ parts, separator ∉ part) :
    splitAll separator (join [separator] parts) = parts := by
  induction parts with
  | nil => exact absurd rfl hparts
  | cons part rest ih =>
    have hpart := h part List.mem_cons_self
    cases rest with
    | nil => exact splitAll_of_notMem hpart
    | cons next more =>
      have hmore := ih (List.cons_ne_nil _ _) fun p hp => h p (List.mem_cons_of_mem _ hp)
      show splitAll separator (part ++ [separator] ++ join [separator] (next :: more)) = _
      rw [List.append_assoc, List.singleton_append, splitAll_append hpart, hmore]

/-- The parts of a text hold no separator, and nothing that the text does not hold. -/
theorem mem_splitAll {part : Text} (h : part ∈ splitAll separator t) :
    separator ∉ part ∧ ∀ c ∈ part, c ∈ t := by
  induction t generalizing part with
  | nil =>
    rw [List.mem_singleton.1 h]
    exact ⟨List.not_mem_nil, nofun⟩
  | cons c rest ih =>
    by_cases hc : c = separator
    · rw [splitAll, if_pos hc] at h
      rcases List.mem_cons.1 h with rfl | hlater
      · exact ⟨List.not_mem_nil, nofun⟩
      · exact ⟨(ih hlater).1, fun d hd => List.mem_cons_of_mem _ ((ih hlater).2 d hd)⟩
    · obtain ⟨first, parts, hparts, hsplit⟩ := splitAll_cons_of_ne hc rest
      rw [hsplit] at h
      rcases List.mem_cons.1 h with rfl | hlater
      · obtain ⟨hfirst, hin⟩ := ih (hparts ▸ List.mem_cons_self)
        refine ⟨List.not_mem_cons_of_ne_of_not_mem (Ne.symm hc) hfirst, fun d hd => ?_⟩
        rcases List.mem_cons.1 hd with rfl | hmore
        · exact List.mem_cons_self
        · exact List.mem_cons_of_mem _ (hin d hmore)
      · obtain ⟨hpart, hin⟩ := ih (hparts ▸ List.mem_cons_of_mem _ hlater)
        exact ⟨hpart, fun d hd => List.mem_cons_of_mem _ (hin d hd)⟩

theorem mem_join {c : Char} {parts : List Text} (h : c ∈ join [separator] parts) :
    c = separator ∨ ∃ part ∈ parts, c ∈ part := by
  induction parts with
  | nil => exact absurd h List.not_mem_nil
  | cons part rest ih =>
    cases rest with
    | nil => exact .inr ⟨part, List.mem_cons_self, h⟩
    | cons next more =>
      have hsplit : c ∈ part ++ [separator] ++ join [separator] (next :: more) := h
      rw [List.append_assoc, List.mem_append, List.mem_append, List.mem_singleton] at hsplit
      rcases hsplit with hpart | hseparator | hmore
      · exact .inr ⟨part, List.mem_cons_self, hpart⟩
      · exact .inl hseparator
      · rcases ih hmore with hseparator | ⟨p, hp, hc⟩
        · exact .inl hseparator
        · exact .inr ⟨p, List.mem_cons_of_mem _ hp, hc⟩

/-! ### Trimming -/

section Trimming

variable {p : Char → Bool} {c : Char}

/-- Trimming at the right stops at a character that stays. -/
theorem trimRight_append_cons (hc : p c = false) (a b : Text) :
    trimRight p (a ++ c :: b) = a ++ c :: trimRight p b := by
  have hreverse : (a ++ c :: b).reverse = b.reverse ++ c :: a.reverse := by simp
  rw [trimRight, trimRight, hreverse, List.dropWhile_append]
  split
  · next hnone =>
    rw [List.isEmpty_iff] at hnone
    rw [hnone, List.dropWhile_cons_of_neg (by rw [hc]; exact Bool.false_ne_true)]
    simp
  · simp

/-- Trimming at the right does not reach beyond a character that stays. -/
theorem trimRight_append (ha : ∃ front c, a = front ++ [c] ∧ p c = false) (b : Text) :
    trimRight p (a ++ b) = a ++ trimRight p b := by
  obtain ⟨front, c, rfl, hc⟩ := ha
  rw [List.append_assoc, List.singleton_append, trimRight_append_cons hc, List.append_assoc,
    List.singleton_append]

theorem trimLeft_append_of_all (ha : a.all p = true) (b : Text) :
    trimLeft p (a ++ b) = trimLeft p b :=
  List.dropWhile_append_of_pos (List.all_eq_true.1 ha)

theorem trimRight_append_of_all (a : Text) (hb : b.all p = true) :
    trimRight p (a ++ b) = trimRight p a := by
  have hreverse : b.reverse.all p = true := by rwa [List.all_reverse]
  rw [trimRight, List.reverse_append]
  exact congrArg List.reverse (trimLeft_append_of_all hreverse _)

theorem trimLeft_eq_self (h : ∀ c, t.head? = some c → p c = false) : trimLeft p t = t := by
  cases t with
  | nil => rfl
  | cons c rest => exact List.dropWhile_cons_of_neg (by simp [h c rfl])

theorem trimRight_eq_self (h : ∀ c, t.getLast? = some c → p c = false) : trimRight p t = t := by
  have hreverse : trimLeft p t.reverse = t.reverse := by
    apply trimLeft_eq_self
    rwa [List.head?_reverse]
  rw [trimRight]
  exact (congrArg List.reverse hreverse).trans (List.reverse_reverse t)

theorem splitAll_append_separator (separator : Char) (a b : Text) :
    splitAll separator (a ++ separator :: b) = splitAll separator a ++ splitAll separator b := by
  induction a with
  | nil => exact if_pos rfl
  | cons c rest ih =>
    by_cases hc : c = separator
    · rw [List.cons_append, splitAll, if_pos hc, ih, splitAll, if_pos hc]
      rfl
    · obtain ⟨part, parts, hparts, hsplit⟩ := splitAll_cons_of_ne hc rest
      rw [List.cons_append, hsplit, splitAll, if_neg hc, ih, hparts]
      rfl

/-- Trimming separators at the left makes no new parts. -/
theorem mem_splitAll_trimLeft {part : Text}
    (h : part ∈ splitAll separator (trimLeft (· == separator) t)) :
    part ∈ splitAll separator t := by
  induction t with
  | nil => exact h
  | cons c rest ih =>
    rw [trimLeft, List.dropWhile_cons] at h
    split at h
    · next hc =>
      rw [splitAll, if_pos (beq_iff_eq.1 hc)]
      exact List.mem_cons_of_mem _ (ih h)
    · exact h

/-- Trimming separators at the right makes no new parts. -/
theorem mem_splitAll_trimRight {part : Text}
    (h : part ∈ splitAll separator (trimRight (· == separator) t)) :
    part ∈ splitAll separator t := by
  have hwhole : trimRight (· == separator) t ++ t.rtakeWhile (· == separator) = t :=
    List.rdropWhile_append_rtakeWhile
  cases hcut : t.rtakeWhile (· == separator) with
  | nil =>
    rw [hcut, List.append_nil] at hwhole
    rwa [hwhole] at h
  | cons c rest =>
    have hmem : c ∈ t.rtakeWhile (· == separator) := by
      rw [hcut]
      exact List.mem_cons_self
    have hc : c = separator := beq_iff_eq.1 (List.mem_rtakeWhile_imp (p := (· == separator)) hmem)
    rw [hcut, hc] at hwhole
    rw [← hwhole, splitAll_append_separator]
    exact List.mem_append_left _ h

variable {before mid after : Text}

/-- Neither end of the text is trimmed. -/
def IsTrimmed (p : Char → Bool) (t : Text) : Prop :=
  (∀ c, t.head? = some c → p c = false) ∧ ∀ c, t.getLast? = some c → p c = false

theorem exists_trimLeft (p : Char → Bool) (t : Text) : ∃ before, t = before ++ trimLeft p t ∧
    before.all p = true ∧ ∀ c, (trimLeft p t).head? = some c → p c = false := by
  refine ⟨t.takeWhile p, List.takeWhile_append_dropWhile.symm, List.all_takeWhile, fun c hc => ?_⟩
  have hnot := List.head?_dropWhile_not p t
  rw [trimLeft] at hc
  simpa [hc] using hnot

theorem exists_trimRight (p : Char → Bool) (t : Text) : ∃ after, t = trimRight p t ++ after ∧
    after.all p = true ∧ ∀ c, (trimRight p t).getLast? = some c → p c = false := by
  obtain ⟨before, ht, hbefore, hhead⟩ := exists_trimLeft p t.reverse
  refine ⟨before.reverse, ?_, by rwa [List.all_reverse], ?_⟩
  · rw [trimRight, ← List.reverse_append]
    exact List.reverse_eq_iff.1 ht
  · intro c hc
    apply hhead
    rwa [trimRight, List.getLast?_reverse] at hc

/-- Trimming drops characters of the class at both ends, until there is another one. -/
theorem exists_trimBoth (p : Char → Bool) (t : Text) : ∃ before after,
    t = before ++ trimBoth p t ++ after ∧ before.all p = true ∧ after.all p = true ∧
      IsTrimmed p (trimBoth p t) := by
  obtain ⟨before, ht, hbefore, hhead⟩ := exists_trimLeft p t
  obtain ⟨after, hmid, hafter, hlast⟩ := exists_trimRight p (trimLeft p t)
  refine ⟨before, after, ?_, hbefore, hafter, ?_, hlast⟩
  · rw [List.append_assoc]
    exact ht.trans (congrArg (before ++ ·) hmid)
  · intro c hc
    apply hhead
    rw [hmid, List.head?_append]
    exact congrArg (Option.or · after.head?) hc

/-- What is put around a trimmed text is trimmed off again. -/
theorem trimBoth_append (hbefore : before.all p = true) (hafter : after.all p = true)
    (hmid : mid ≠ []) (h : IsTrimmed p mid) : trimBoth p (before ++ mid ++ after) = mid := by
  have hstart : ∀ c, (mid ++ after).head? = some c → p c = false := by
    obtain ⟨c, rest, rfl⟩ := List.exists_cons_of_ne_nil hmid
    exact h.1
  rw [trimBoth, List.append_assoc, trimLeft_append_of_all hbefore, trimLeft_eq_self hstart,
    trimRight_append_of_all mid hafter, trimRight_eq_self h.2]

/-- A text trims to nothing exactly when all its characters are trimmed. -/
theorem trimBoth_eq_nil_iff (p : Char → Bool) (t : Text) :
    trimBoth p t = [] ↔ t.all p = true := by
  constructor
  · intro hnone
    obtain ⟨before, after, ht, hbefore, hafter, -⟩ := exists_trimBoth p t
    rw [hnone, List.append_nil] at ht
    rw [ht, List.all_append, hbefore, hafter]
    rfl
  · intro hall
    have hleft : trimLeft p t = [] := List.dropWhile_eq_nil_iff.2 (List.all_eq_true.1 hall)
    rw [trimBoth, hleft]
    rfl

end Trimming

end Text

/-- A string is blank exactly when trimming leaves nothing of it. -/
theorem isBlankString_iff_trimBlanks (s : String) :
    isBlankString s = true ↔ trimBlanks s = "" := by
  rw [isBlankString, ← Text.trimBoth_eq_nil_iff, trimBlanks, ← String.toList_inj,
    String.toList_ofList]
  rfl

/-- A string without blanks at its ends is trimmed already. -/
theorem trimBlanks_of_isTrimmed {t : Text} (hsome : t ≠ []) (h : Text.IsTrimmed isBlank t) :
    trimBlanks (String.ofList t) = String.ofList t := by
  have htrim : Text.trimBoth isBlank ([] ++ t ++ []) = t := Text.trimBoth_append rfl rfl hsome h
  rw [List.nil_append, List.append_nil] at htrim
  rw [trimBlanks, String.toList_ofList, htrim]

end RestConformance
