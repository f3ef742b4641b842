import Mathlib.Data.List.Infix
import RestConformance.Text.Basic

/-!
# Occurrences of texts

Where a text occurs in another one that is put together with separators. An occurrence that holds a
separator lies around the separators of the whole, and one that holds none lies between them.

## Main results

* `Text.contains_iff` – the search finds the runs of consecutive characters and nothing else;
* `Text.infix_append_separator_iff` – an occurrence with a separator, at the first one or behind it;
* `Text.infix_separated_iff` – an occurrence without a separator, before it or behind it.
-/

namespace RestConformance.Text

variable {separator : Char} {hay needle before after run rest : Text}

theorem contains_iff : contains hay needle = true ↔ needle <:+: hay := by
  induction hay with
  | nil => simp [contains]
  | cons c rest ih =>
    simp [contains, ih, List.infix_cons_iff]

/-- A text that ends in a character ends in no text without it, except the empty one. -/
theorem not_suffix_concat {c : Char} (hsome : needle ≠ []) (hc : c ∉ needle) :
    ¬needle <:+ run ++ [c] := by
  intro hsuffix
  rcases List.suffix_concat_iff.1 hsuffix with hnone | ⟨front, hfront, -⟩
  · exact hsome hnone
  · simp [hfront] at hc

/-- An occurrence of a text with a separator lies around the first separator of the whole, or it
lies behind that. -/
theorem infix_append_separator_iff (hbefore : separator ∉ before) (hrun : separator ∉ run) :
    before ++ separator :: after <:+: run ++ separator :: rest ↔
      before <:+ run ∧ after <+: rest ∨ before ++ separator :: after <:+: rest := by
  have hat : before ++ separator :: after <+: separator :: rest ↔ before = [] ∧ after <+: rest := by
    cases before with
    | nil => simp
    | cons c more =>
      have hc : c ≠ separator := fun hc => hbefore (by simp [hc])
      simp [List.cons_prefix_cons, hc]
  constructor
  · intro hoccurs
    rcases List.infix_append_iff.1 hoccurs with hin | hbehind | ⟨left, right, heq, hleft, hright⟩
    · exact absurd (hin.subset (by simp)) hrun
    · rcases List.infix_cons_iff.1 hbehind with hprefix | hrest
      · obtain ⟨rfl, hafter⟩ := hat.1 hprefix
        exact .inl ⟨List.nil_suffix, hafter⟩
      · exact .inr hrest
    -- What lies in the run holds no separator, so the cut is where the first one is.
    · rcases List.append_eq_append_iff.1 heq with ⟨more, rfl, hmore⟩ | ⟨more, rfl, rfl⟩
      · cases more with
        | nil =>
          obtain rfl : separator :: after = right := hmore
          exact .inl ⟨by simpa using hleft, (List.cons_prefix_cons.1 hright).2⟩
        | cons c more =>
          obtain ⟨rfl, -⟩ := List.cons.inj hmore
          exact absurd (hleft.subset (by simp)) hrun
      · cases more with
        | nil => exact .inl ⟨by simpa using hleft, (List.cons_prefix_cons.1 hright).2⟩
        | cons c more =>
          obtain ⟨rfl, -⟩ := List.cons_prefix_cons.1 hright
          exact absurd (by simp) hbefore
  · rintro (⟨hsuffix, hprefix⟩ | hrest)
    · refine List.infix_append_iff.2 (.inr (.inr ⟨before, separator :: after, rfl, hsuffix, ?_⟩))
      exact List.cons_prefix_cons.2 ⟨rfl, hprefix⟩
    · exact hrest.trans ((List.suffix_cons _ _).trans (List.suffix_append _ _)).isInfix

/-- A text without a separator occurs before it or behind it. -/
theorem infix_separated_iff (hneedle : separator ∉ needle) :
    needle <:+: run ++ separator :: rest ↔ needle <:+: run ∨ needle <:+: rest := by
  constructor
  · intro hoccurs
    rcases List.infix_append_iff.1 hoccurs with hin | hbehind | ⟨left, right, rfl, hleft, hright⟩
    · exact .inl hin
    · rcases List.infix_cons_iff.1 hbehind with hprefix | hrest
      · rcases List.prefix_cons_iff.1 hprefix with rfl | ⟨more, rfl, -⟩
        · exact .inl List.nil_infix
        · simp at hneedle
      · exact .inr hrest
    · rcases List.prefix_cons_iff.1 hright with rfl | ⟨more, rfl, -⟩
      · exact .inl (by simpa using hleft.isInfix)
      · simp at hneedle
  · rintro (hin | hrest)
    · exact hin.trans (List.prefix_append _ _).isInfix
    · exact hrest.trans ((List.suffix_cons _ _).trans (List.suffix_append _ _)).isInfix

end RestConformance.Text
