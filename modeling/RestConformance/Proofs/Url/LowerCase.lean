import Mathlib.Data.List.Forall2
import RestConformance.Url.Idna.Composition
import RestConformance.Url.Idna.Mapping

/-!
# Mapped names are in lower case

No capital letter is left in a name that is mapped and composed, and a name in small letters and
other characters of ASCII is mapped to itself.

## Main results

* `Idna.map?_lowerCase` – what a name is mapped to holds no capital letter;
* `Idna.canonical_lowerCase` – nor does its composed form;
* `Idna.map?_of_ascii` – a name without them in ASCII is mapped to itself.
-/

namespace RestConformance

/-- A list of computations succeeds where each of them does, in order. -/
theorem mapM_eq_some_iff {α β : Type} {f : α → Option β} {items : List α} {results : List β} :
    items.mapM f = some results ↔ List.Forall₂ (fun a b => f a = some b) items results := by
  induction items generalizing results with
  | nil => cases results <;> simp
  | cons a rest ih =>
    rw [List.mapM_cons]
    cases hf : f a with
    | none => cases results <;> simp [hf]
    | some b =>
      cases hrest : rest.mapM f with
      | none => cases results <;> simp [← ih, hrest]
      | some bs => cases results <;> simp [← ih, hrest, hf]

namespace Idna

/-- There is no capital letter in the text. -/
def LowerCase (t : Text) : Prop :=
  ∀ c ∈ t, c.isUpper = false

variable {t : Text} {c : Char}

/-! ### Single characters -/

theorem isUpper_iff : c.isUpper = true ↔ 0x41 ≤ c.toNat ∧ c.toNat ≤ 0x5A :=
  decide_eq_true_iff

theorem isUpper_eq_false (h : c.toNat < 0x41 ∨ 0x5A < c.toNat) : c.isUpper = false := by
  rw [Bool.eq_false_iff]
  intro hupper
  have hbounds := isUpper_iff.1 hupper
  omega

theorem toNat_ofNat {n : Nat} (h : n.isValidChar) : (Char.ofNat n).toNat = n := by
  rw [Char.ofNat, dif_pos h]
  rfl

/-- A number that is no code point stands for the first one, which is no capital letter either. -/
theorem isUpper_ofNat {n : Nat} (h : n < 0x41 ∨ 0x5A < n) : (Char.ofNat n).isUpper = false := by
  by_cases hvalid : n.isValidChar
  · refine isUpper_eq_false ?_
    rw [toNat_ofNat hvalid]
    exact h
  · rw [Char.ofNat, dif_neg hvalid]
    decide

theorem isUpper_ofNat_add {m : Nat} (h : 0x5A < m) (n : Nat) :
    (Char.ofNat (m + n)).isUpper = false :=
  isUpper_ofNat (.inr (Nat.lt_of_lt_of_le h (Nat.le_add_right m n)))

theorem toLower_of_not_isUpper (h : c.isUpper = false) : c.toLower = c := by
  refine dif_neg fun hcapital => ?_
  have hupper : c.isUpper = true := isUpper_iff.2 hcapital
  rw [h] at hupper
  exact Bool.false_ne_true hupper

theorem isUpper_toLower (c : Char) : c.toLower.isUpper = false := by
  cases h : c.isUpper with
  | false => rw [toLower_of_not_isUpper h, h]
  | true =>
    have table : ∀ n ∈ List.range 26, (Char.ofNat (0x41 + n)).toLower.isUpper = false := by decide
    have hbounds := isUpper_iff.1 h
    have hsum : 0x41 + (c.toNat - 0x41) = c.toNat := by omega
    have hrow := table (c.toNat - 0x41) (List.mem_range.2 (by omega))
    rwa [hsum, Char.ofNat_toNat] at hrow

/-! ### The mapping -/

theorem MovedRun.lowerCase (run : MovedRun) (hholds : run.holds c.toNat = true) :
    (Char.ofNat (run.target + (c.toNat - run.first))).isUpper = false := by
  rw [holds, Bool.and_eq_true, Bool.and_eq_true, decide_eq_true_eq, decide_eq_true_eq] at hholds
  have hcapital := run.no_capital
  exact isUpper_ofNat (by omega)

theorem Replacement.lowerCase (replacement : Replacement) : LowerCase replacement.targets := by
  intro c hc
  have h := List.all_eq_true.1 replacement.no_capital c hc
  rwa [Bool.not_eq_true'] at h

theorem mapChar?_lowerCase (h : mapChar? c = some t) : LowerCase t := by
  intro d hd
  unfold mapChar? at h
  split at h
  · rw [← Option.some.inj h, List.mem_singleton] at hd
    rw [hd]
    exact isUpper_toLower c
  · next hextended =>
    unfold mapExtended? at h
    split at h
    · rw [← Option.some.inj h, List.mem_singleton] at hd
      rw [hd]
      exact isUpper_eq_false (by omega)
    split at h
    · rw [← Option.some.inj h] at hd
      exact absurd hd List.not_mem_nil
    split at h
    · next run hrun =>
      rw [← Option.some.inj h, List.mem_singleton] at hd
      have hholds := List.find?_some hrun
      rw [hd]
      exact run.lowerCase hholds
    · obtain ⟨replacement, -, rfl⟩ := Option.map_eq_some_iff.1 h
      exact replacement.lowerCase d hd

/-- What a name is mapped to holds no capital letter. -/
theorem map?_lowerCase {name : Text} (h : map? name = some t) : LowerCase t := by
  obtain ⟨parts, hparts, rfl⟩ := Option.map_eq_some_iff.1 h
  have hall := mapM_eq_some_iff.1 hparts
  intro c hc
  obtain ⟨part, hpart, hmem⟩ := List.mem_flatten.1 hc
  clear h hparts hc
  induction hall with
  | nil => exact absurd hpart List.not_mem_nil
  | cons hfirst _ ih =>
    rcases List.mem_cons.1 hpart with rfl | hlater
    · exact mapChar?_lowerCase hfirst c hmem
    · exact ih hlater

/-- A name without capital letters in ASCII is mapped to itself. -/
theorem map?_of_ascii (hascii : ∀ c ∈ t, c.toNat < 0x80) (hlower : LowerCase t) :
    map? t = some t := by
  have hchars : t.mapM mapChar? = some (t.map fun c => [c]) := by
    refine mapM_eq_some_iff.2 (List.forall₂_map_right_iff.2 (List.forall₂_same.2 fun c hc => ?_))
    rw [mapChar?, if_pos (hascii c hc), toLower_of_not_isUpper (hlower c hc)]
  rw [map?, hchars, Option.map_some]
  exact congrArg some (List.flatMap_singleton' t)

/-! ### The composed form -/

theorem Composition.lowerCase (row : Composition) :
    (Char.ofNat row.composed).isUpper = false ∧ (Char.ofNat row.first).isUpper = false ∧
      (Char.ofNat row.second).isUpper = false := by
  have h := row.no_capital
  simpa using h

theorem decomposeTo_lowerCase (depth : Nat) (h : c.isUpper = false) :
    LowerCase (decomposeTo depth c) := by
  induction depth generalizing c with
  | zero =>
    intro d hd
    rw [decomposeTo, List.mem_singleton] at hd
    rw [hd]
    exact h
  | succ depth ih =>
    rw [decomposeTo]
    intro d hd
    cases hrow : compositions.find? (·.composed == c.toNat) with
    | some row =>
      rw [hrow] at hd
      -- Of the two characters only the first one is taken apart again.
      obtain ⟨-, hfirst, hsecond⟩ := row.lowerCase
      rcases List.mem_append.1 hd with hfront | hlast
      · exact ih hfirst d hfront
      · rw [List.mem_singleton.1 hlast]
        exact hsecond
    | none =>
      rw [hrow] at hd
      rw [List.mem_singleton.1 hd]
      exact h

theorem syllableParts?_lowerCase (h : syllableParts? c = some t) : LowerCase t := by
  unfold syllableParts? at h
  split at h
  · dsimp only at h
    split at h <;> rw [← Option.some.inj h] <;> intro d hd
    · simp only [List.mem_cons, List.not_mem_nil, or_false] at hd
      rcases hd with hd | hd <;> rw [hd] <;> exact isUpper_ofNat_add (by decide) _
    · simp only [List.cons_append, List.nil_append, List.mem_cons, List.not_mem_nil,
        or_false] at hd
      rcases hd with hd | hd | hd <;> rw [hd] <;> exact isUpper_ofNat_add (by decide) _
  · cases h

theorem decompose_lowerCase (h : c.isUpper = false) : LowerCase (decompose c) := by
  unfold decompose
  split
  · intro d hd
    rw [List.mem_singleton.1 hd]
    exact h
  split
  · next parts hparts => exact syllableParts?_lowerCase hparts
  · exact decomposeTo_lowerCase 3 h

theorem mem_insertMark {d : Char} (h : d ∈ insertMark c t) : d = c ∨ d ∈ t := by
  induction t with
  | nil => exact .inl (List.mem_singleton.1 h)
  | cons e before ih =>
    rw [insertMark] at h
    split at h
    · rcases List.mem_cons.1 h with rfl | hlater
      · exact .inr List.mem_cons_self
      · exact (ih hlater).imp_right (List.mem_cons_of_mem e)
    · exact List.mem_cons.1 h

theorem mem_order (h : c ∈ order t) : c ∈ t := by
  -- Each character is put in among those before it, which are kept in reverse.
  have hfold : ∀ (more reversed : Text), c ∈ more.foldl (fun reversed c =>
      if combiningClass c = 0 then c :: reversed else insertMark c reversed) reversed →
      c ∈ reversed ∨ c ∈ more := by
    intro more
    induction more with
    | nil => exact fun _ hc => .inl hc
    | cons d rest ih =>
      intro reversed hc
      rcases ih _ hc with hreversed | hrest
      · dsimp only at hreversed
        have hplaced : c = d ∨ c ∈ reversed := by
          by_cases hclass : combiningClass d = 0
          · rw [if_pos hclass] at hreversed
            exact List.mem_cons.1 hreversed
          · rw [if_neg hclass] at hreversed
            exact mem_insertMark hreversed
        rcases hplaced with rfl | hold
        · exact .inr List.mem_cons_self
        · exact .inl hold
      · exact .inr (List.mem_cons_of_mem d hrest)
  rcases hfold t [] (List.mem_reverse.1 h) with hnone | hc
  · exact absurd hnone List.not_mem_nil
  · exact hc

theorem pair?_lowerCase {first second joined : Char} (h : pair? first second = some joined) :
    joined.isUpper = false := by
  unfold pair? at h
  split at h
  · next c hc =>
    rw [← Option.some.inj h]
    unfold syllable? at hc
    dsimp only at hc
    split at hc
    · rw [← Option.some.inj hc]
      exact isUpper_ofNat_add (by decide) _
    split at hc
    · next hsyllable =>
      rw [← Option.some.inj hc]
      exact isUpper_ofNat (.inr (Nat.lt_of_lt_of_le (by decide)
        (Nat.le_trans hsyllable.1 (Nat.le_add_right _ _))))
    · exact absurd hc nofun
  · obtain ⟨row, -, rfl⟩ := Option.map_eq_some_iff.1 h
    exact row.lowerCase.1

theorem composeFrom_lowerCase {starter : Char} {marks : Text} (hstarter : starter.isUpper = false)
    (hmarks : LowerCase marks) (ht : LowerCase t) : LowerCase (composeFrom starter marks t) := by
  induction t generalizing starter marks with
  | nil =>
    intro d hd
    rcases List.mem_cons.1 hd with rfl | hd
    · exact hstarter
    · exact hmarks d hd
  | cons c rest ih =>
    have hnone : LowerCase [] := fun _ hd => absurd hd List.not_mem_nil
    have hc := ht c List.mem_cons_self
    have hrest : LowerCase rest := fun d hd => ht d (List.mem_cons_of_mem c hd)
    rw [composeFrom]
    -- The starter takes `c` in, or `c` is the next starter, or it waits with the marks.
    split
    · next joined hjoined =>
      have hpair := (Option.ite_none_right_eq_some.1 hjoined).2
      exact ih (pair?_lowerCase hpair) hmarks hrest
    split
    · intro d hd
      rcases List.mem_append.1 hd with hfront | hback
      · rcases List.mem_cons.1 hfront with rfl | hfront
        · exact hstarter
        · exact hmarks d hfront
      · exact ih hc hnone hrest d hback
    · refine ih hstarter (fun d hd => ?_) hrest
      rcases List.mem_append.1 hd with hd | hd
      · exact hmarks d hd
      · rw [List.mem_singleton.1 hd]
        exact hc

theorem compose_lowerCase (h : LowerCase t) : LowerCase (compose t) := by
  intro d hd
  unfold compose at hd
  rcases List.mem_append.1 hd with hfront | hback
  · exact h d (List.takeWhile_subset _ hfront)
  · split at hback
    · exact absurd hback List.not_mem_nil
    · next _ c rest hrest =>
      have hin : ∀ e ∈ c :: rest, e.isUpper = false := by
        intro e he
        rw [← hrest] at he
        exact h e ((List.dropWhile_suffix _).subset he)
      refine composeFrom_lowerCase (hin c List.mem_cons_self)
        (fun _ he => absurd he List.not_mem_nil) ?_ d hback
      exact fun e he => hin e (List.mem_cons_of_mem c he)

/-- The composed form of a text without capital letters holds none. -/
theorem canonical_lowerCase (h : LowerCase t) : LowerCase (canonical t) := by
  unfold canonical
  split
  · exact h
  · refine compose_lowerCase fun c hc => ?_
    obtain ⟨d, hd, hc⟩ := List.mem_flatMap.1 (mem_order hc)
    exact decompose_lowerCase (h d hd) c hc

theorem canonical_of_ascii (h : ∀ c ∈ t, c.toNat < 0x80) : canonical t = t := by
  refine if_pos (List.all_eq_true.2 fun c hc => ?_)
  rw [isSettled, Bool.or_eq_true, decide_eq_true_eq]
  exact .inl (h c hc)

end Idna

end RestConformance
