import RestConformance.Http.Request
import RestConformance.Proofs.Text.Cutting

/-!
# Joining addresses and paths

A path is put behind an address with one slash between the two, however many there are where they
meet. So these slashes do not matter, and of several paths it does not matter which two are joined
first, not even if the one in the middle holds nothing but slashes.

## Main definitions

* `Http.slashes n` – a text of slashes;
* `Http.IsJoin base path text` – a path behind an address.

## Main results

* `Http.resolvePathText_seam` – any slashes where an address and a path meet become one;
* `Http.resolvePathText_assoc` – it does not matter which two of three texts are joined first;
* `Http.isJoin_iff` – how an address and a path are joined;
* `Http.resolvePath_joins` – what joining does to any address and any path.
-/

namespace RestConformance.Http

variable {front back left right : Text}

/-! ### Texts -/

/-- Any slashes where an address and a path meet become one. -/
theorem resolvePathText_seam (hfront : ∀ c, front.getLast? = some c → isSeparator c = false)
    (hleft : left.all isSeparator = true) (hright : right.all isSeparator = true)
    (hback : ∀ c, back.head? = some c → isSeparator c = false) :
    resolvePathText (front ++ left) (right ++ back) = front ++ '/' :: back := by
  rw [resolvePathText, Text.trimRight_append_of_all front hleft, Text.trimRight_eq_self hfront,
    Text.trimLeft_append_of_all hright, Text.trimLeft_eq_self hback]

theorem resolvePathText_append (hleft : left.all isSeparator = true)
    (hright : right.all isSeparator = true) (base path : Text) :
    resolvePathText (base ++ left) (right ++ path) = resolvePathText base path := by
  rw [resolvePathText, Text.trimRight_append_of_all base hleft, Text.trimLeft_append_of_all hright]
  rfl

/-- It does not matter which two of three texts are joined first. -/
theorem resolvePathText_assoc (base path more : Text) :
    resolvePathText (resolvePathText base path) more =
      resolvePathText base (resolvePathText path more) := by
  obtain ⟨left, hbase, hleft, hfront⟩ := Text.exists_trimRight isSeparator base
  obtain ⟨right, hmore, hright, hback⟩ := Text.exists_trimLeft isSeparator more
  obtain ⟨before, after, hpath, hbefore, hafter, hends⟩ := Text.exists_trimBoth isSeparator path
  generalize Text.trimRight isSeparator base = front at hbase hfront
  generalize Text.trimLeft isSeparator more = back at hmore hback
  generalize Text.trimBoth isSeparator path = mid at hpath hends
  subst hbase hmore hpath
  have hslash : ['/'].all isSeparator = true := rfl
  by_cases hmid : mid = []
  · -- A path of slashes leaves one slash behind the address, and one in front of what follows.
    subst hmid
    have hall : (before ++ after).all isSeparator = true := by
      rw [List.all_append, hbefore, hafter]
      rfl
    have hfirst : resolvePathText (front ++ left) (before ++ after ++ []) = front ++ ['/'] :=
      resolvePathText_seam hfront hleft hall nofun
    have hlast : resolvePathText ([] ++ (before ++ after)) (right ++ back) = ['/'] ++ back :=
      resolvePathText_seam nofun hall hright hback
    rw [List.append_nil] at hfirst ⊢
    rw [List.nil_append] at hlast
    rw [hfirst, hlast, resolvePathText_seam hfront hslash hright hback,
      resolvePathText_seam hfront hleft hslash hback]
  · -- Otherwise the slashes at the ends of the path do not meet.
    have hstart : ∀ rest c, (mid ++ rest).head? = some c → isSeparator c = false := by
      obtain ⟨c, more, rfl⟩ := List.exists_cons_of_ne_nil hmid
      intro rest
      exact hends.1
    have hend : ∀ rest c, (rest ++ mid).getLast? = some c → isSeparator c = false := by
      intro rest
      rw [List.getLast?_append_of_ne_nil _ hmid]
      exact hends.2
    have hfirst : resolvePathText (front ++ left) (before ++ mid ++ after) =
        front ++ '/' :: mid ++ after := by
      rw [List.append_assoc before, resolvePathText_seam hfront hleft hbefore (hstart after),
        List.append_assoc, List.cons_append]
    have hlast : resolvePathText (before ++ mid ++ after) (right ++ back) =
        before ++ (mid ++ '/' :: back) := by
      rw [resolvePathText_seam (hend before) hafter hright hback, List.append_assoc]
    have hwhole : ∀ c, (front ++ '/' :: mid).getLast? = some c → isSeparator c = false := by
      intro c hc
      apply hend (front ++ ['/'])
      rwa [List.append_assoc, List.singleton_append]
    rw [hfirst, hlast, resolvePathText_seam hwhole hafter hright hback,
      resolvePathText_seam hfront hleft hbefore (hstart _), List.append_assoc, List.cons_append]

/-! ### Strings -/

/-- A text of slashes. -/
def slashes (n : Nat) : String :=
  String.ofList (List.replicate n '/')

theorem all_slashes (n : Nat) : (slashes n).toList.all isSeparator = true := by
  rw [slashes, String.toList_ofList, List.all_replicate]
  simp [isSeparator]

theorem eq_slashes (h : left.all isSeparator = true) :
    String.ofList left = slashes left.length := by
  refine congrArg String.ofList (List.eq_replicate_iff.2 ⟨rfl, fun c hc => ?_⟩)
  exact beq_iff_eq.1 (List.all_eq_true.1 h c hc)

/-- The text is the path behind the address, with exactly one slash where the two meet. The slashes
at the end of the address and at the start of the path do not count, however many there are. -/
def IsJoin (base path text : String) : Prop :=
  ∃ front back left right, base = front ++ slashes left ∧ path = slashes right ++ back ∧
    front.toList.getLast? ≠ some '/' ∧ back.toList.head? ≠ some '/' ∧ text = front ++ "/" ++ back

theorem isJoin_resolvePath (base path : String) : IsJoin base path (resolvePath base path) := by
  obtain ⟨left, hbase, hleft, hfront⟩ := Text.exists_trimRight isSeparator base.toList
  obtain ⟨right, hpath, hright, hback⟩ := Text.exists_trimLeft isSeparator path.toList
  refine ⟨String.ofList (Text.trimRight isSeparator base.toList),
    String.ofList (Text.trimLeft isSeparator path.toList), left.length, right.length,
    ?_, ?_, ?_, ?_, ?_⟩
  · rw [← eq_slashes hleft, ← String.ofList_append, ← hbase, String.ofList_toList]
  · rw [← eq_slashes hright, ← String.ofList_append, ← hpath, String.ofList_toList]
  · rw [String.toList_ofList]
    intro hslash
    exact absurd (hfront '/' hslash) (by decide)
  · rw [String.toList_ofList]
    intro hslash
    exact absurd (hback '/' hslash) (by decide)
  · apply String.toList_inj.1
    simp [resolvePath, resolvePathText]

/-- What is joined has a slash in it, so it is not blank. -/
theorem isBlankString_resolvePath (base path : String) :
    isBlankString (resolvePath base path) = false := by
  rw [isBlankString, resolvePath, String.toList_ofList, List.all_eq_false]
  exact ⟨'/', List.mem_append_right _ List.mem_cons_self, by decide⟩

/-- There is one way only to put a path behind an address. -/
theorem isJoin_iff {base path text : String} :
    IsJoin base path text ↔ text = resolvePath base path := by
  constructor
  · rintro ⟨front, back, left, right, rfl, rfl, hfront, hback, rfl⟩
    have hend : ∀ c, front.toList.getLast? = some c → isSeparator c = false := fun c hc =>
      beq_eq_false_iff_ne.2 fun heq => hfront (heq ▸ hc)
    have hstart : ∀ c, back.toList.head? = some c → isSeparator c = false := fun c hc =>
      beq_eq_false_iff_ne.2 fun heq => hback (heq ▸ hc)
    rw [resolvePath, String.toList_append, String.toList_append,
      resolvePathText_seam hend (all_slashes left) (all_slashes right) hstart, ← String.toList_inj]
    simp
  · rintro rfl
    exact isJoin_resolvePath base path

/-- An address and a path are joined by one slash behind the address without the slashes at its end
and in front of the path without those at its start. Slashes that are put there do not matter, and
neither does which two of three are joined first. -/
theorem resolvePath_joins (base path : String) :
    (∃ front back left right, base = front ++ slashes left ∧ path = slashes right ++ back ∧
      front.toList.getLast? ≠ some '/' ∧ back.toList.head? ≠ some '/' ∧
      resolvePath base path = front ++ "/" ++ back) ∧
    (∀ left right, resolvePath (base ++ slashes left) (slashes right ++ path) =
      resolvePath base path) ∧
    ∀ more, resolvePath (resolvePath base path) more =
      resolvePath base (resolvePath path more) := by
  refine ⟨isJoin_resolvePath base path, fun left right => ?_, fun more => ?_⟩
  · rw [resolvePath, String.toList_append, String.toList_append,
      resolvePathText_append (all_slashes left) (all_slashes right)]
    rfl
  · simp only [resolvePath, String.toList_ofList, resolvePathText_assoc]

/-- A path of slashes between two others is dropped. -/
example : resolvePath (resolvePath "http://srv//" "//") "/v1//" = "http://srv/v1//" := by
  decide

end RestConformance.Http
