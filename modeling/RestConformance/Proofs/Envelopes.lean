import Mathlib.Data.List.Infix
import RestConformance.Assertion
import RestConformance.Proofs.Json.Strings
import RestConformance.Proofs.Text.Occurrences

/-!
# Error envelopes

The signature of an error is looked for in the text of its envelope, which is not read as a
document. Where the envelope is an object of strings, its fragments occur just in the members that
have the name and the value: a quote in a string is written behind a backslash, so what a string
says is never taken for the structure around it.

## Main definitions

* `Json.ofStrings members` – the object of some strings under their names;
* `HasMember members ending start` – a member by the end of its name and the start of its value.

## Main results

* `Json.fragment_infix_iff` – a fragment occurs in an object just if there is such a member;
* `Capture.assertServerError_members` – which envelopes have a signature.
-/

namespace RestConformance

namespace Json

variable {c : Char} {ending start key value run rest t : Text}

/-- What is written as it stands starts the written form of a string just if it starts the
string. -/
theorem prefix_escaped_iff (hstart : IsUnescaped start) :
    start <+: value.flatMap escape ++ '"' :: rest ↔ start <+: value := by
  induction start generalizing value with
  | nil => simp
  | cons c start ih =>
    have hc := hstart c List.mem_cons_self
    cases value with
    | nil =>
      have hquote : c ≠ '"' := by
        rintro rfl
        simp [isEscaped] at hc
      simp [List.cons_prefix_cons, hquote]
    | cons d value =>
      have ih := @ih value fun e he => hstart e (List.mem_cons_of_mem _ he)
      cases hd : isEscaped d with
      | false => simp [escape_eq_self hd, List.cons_prefix_cons, ih]
      | true =>
        -- An escape starts with a backslash, which is escaped itself.
        obtain ⟨code, hcode⟩ := exists_escape hd
        have hbackslash : c ≠ '\\' := by
          rintro rfl
          simp [isEscaped] at hc
        have hne : c ≠ d := by
          rintro rfl
          simp [hc] at hd
        simp [hcode, List.cons_prefix_cons, hbackslash, hne]

/-! ### Fragments -/

/-- A text without the characters that an object is structured by. -/
structure IsWord (t : Text) : Prop where
  ne_nil : t ≠ []
  notMem : ∀ c ∈ ['"', '\\', ':', ',', '\x7b'], c ∉ t

/-- The end of a name, and the start of the string that stands under it. -/
def fragment (ending start : Text) : Text :=
  ending ++ '"' :: ':' :: '"' :: start

theorem IsWord.quote_notMem (h : IsWord ending) : '"' ∉ ending :=
  h.notMem _ (by decide)

/-- No word ends in a character that an object is structured by. -/
theorem IsWord.not_suffix (h : IsWord ending) (run : Text)
    (hc : c ∈ ['"', '\\', ':', ',', '\x7b']) : ¬ending <:+ run ++ [c] :=
  Text.not_suffix_concat h.ne_nil (h.notMem c hc)

theorem not_fragment_infix (h : '"' ∉ t) : ¬fragment ending start <:+: t := by
  intro hoccurs
  exact h (hoccurs.subset (by simp [fragment]))

/-- Nothing in a string is taken for a fragment. -/
theorem fragment_infix_escaped_iff (hending : IsWord ending) (hrun : '"' ∉ run)
    (hrest : rest.head? ≠ some ':') :
    fragment ending start <:+: run ++ (value.flatMap escape ++ '"' :: rest) ↔
      fragment ending start <:+: rest := by
  -- Each quote of the string comes behind a backslash, and the last one is not followed by a colon.
  induction value generalizing run with
  | nil =>
    have hcolon : ¬ ':' :: '"' :: start <+: rest := by
      rintro ⟨more, rfl⟩
      simp at hrest
    show fragment ending start <:+: run ++ '"' :: rest ↔ _
    rw [fragment, Text.infix_append_separator_iff hending.quote_notMem hrun]
    simp [hcolon]
  | cons c value ih =>
    by_cases hc : c = '"'
    · subst hc
      have hsplit : run ++ (('"' :: value).flatMap escape ++ '"' :: rest) =
          (run ++ ['\\']) ++ '"' :: ([] ++ (value.flatMap escape ++ '"' :: rest)) := by
        simp [escape]
      have hbackslash : '"' ∉ run ++ ['\\'] := by simp [hrun]
      have hnot : ¬ending <:+ run ++ ['\\'] := hending.not_suffix run (by decide)
      rw [hsplit, fragment, Text.infix_append_separator_iff hending.quote_notMem hbackslash,
        ← fragment, ih List.not_mem_nil]
      simp [hnot]
    · have hsplit : run ++ ((c :: value).flatMap escape ++ '"' :: rest) =
          (run ++ escape c) ++ (value.flatMap escape ++ '"' :: rest) := by
        simp
      have hrun : '"' ∉ run ++ escape c := by simp [hrun, quote_notMem_escape hc]
      rw [hsplit, ih hrun]

end Json

/-- There is a member whose name has an ending and whose value has a start. -/
def HasMember (members : List (String × String)) (ending start : String) : Prop :=
  ∃ m ∈ members, ending.toList <:+ m.1.toList ∧ start.toList <+: m.2.toList

instance (members : List (String × String)) (ending start : String) :
    Decidable (HasMember members ending start) :=
  inferInstanceAs (Decidable (∃ m ∈ members, _ ∧ _))

namespace Json

variable {members : List (String × String)} {name content ending start : String} {c : Char}
  {rest : Text}

/-- The object of some strings under their names. -/
def ofStrings (members : List (String × String)) : Json :=
  .object (members.map fun m => (m.1, .string m.2))

/-- The written form of what stands behind a member. -/
def writeEnd (members : List (String × String)) : Text :=
  writeMoreMembers (members.map fun m => (m.1, .string m.2)) ++ ['\x7d']

theorem write_string (content : String) : (Json.string content).write = writeString content := by
  rw [write]
  rfl

theorem head?_writeEnd : (writeEnd members).head? ≠ some ':' := by
  cases members <;> simp [writeEnd, writeMoreMembers]

section Members

variable (hending : IsWord ending.toList) (hstart : IsUnescaped start.toList)

include hending hstart

/-- A fragment occurs in a member or behind it. -/
theorem fragment_infix_member_iff (hname : IsUnescaped name.toList) (hc : c ∈ [',', '\x7b'])
    (hrest : rest.head? ≠ some ':') :
    fragment ending.toList start.toList <:+:
        c :: (writeString name ++ ':' :: (writeString content ++ rest)) ↔
      ending.toList <:+ name.toList ∧ start.toList <+: content.toList ∨
        fragment ending.toList start.toList <:+: rest := by
  have hc : c ∈ ['"', '\\', ':', ',', '\x7b'] ∧ '"' ∉ [c] := by
    rcases List.mem_pair.1 hc with rfl | rfl <;> decide
  have hopening : ¬ending.toList <:+ [c] := hending.not_suffix [] hc.1
  have hcolon : ¬ending.toList <:+ [':'] := hending.not_suffix [] (by decide)
  have hsplit : c :: (writeString name ++ ':' :: (writeString content ++ rest)) =
      [c] ++ '"' :: (name.toList ++ '"' :: ([':'] ++ '"' ::
        ([] ++ (content.toList.flatMap escape ++ '"' :: rest)))) := by
    simp [writeString, hname.flatMap_escape]
  -- The quotes of the member, one after the other: only the second one closes a name.
  rw [hsplit, fragment, Text.infix_append_separator_iff hending.quote_notMem hc.2,
    Text.infix_append_separator_iff hending.quote_notMem hname.quote_notMem,
    Text.infix_append_separator_iff hending.quote_notMem (by decide), ← fragment,
    fragment_infix_escaped_iff hending List.not_mem_nil hrest]
  simp [hopening, hcolon, List.cons_prefix_cons, prefix_escaped_iff hstart]

theorem fragment_infix_end_iff (hnames : ∀ m ∈ members, IsUnescaped m.1.toList) :
    fragment ending.toList start.toList <:+: writeEnd members ↔
      HasMember members ending start := by
  induction members with
  | nil =>
    have hnone : ¬fragment ending.toList start.toList <:+: writeEnd [] :=
      not_fragment_infix (by decide)
    simp [hnone, HasMember]
  | cons m rest ih =>
    have hwrite : writeEnd (m :: rest) =
        ',' :: (writeString m.1 ++ ':' :: (writeString m.2 ++ writeEnd rest)) := by
      simp [writeEnd, writeMoreMembers, write_string]
    rw [hwrite, fragment_infix_member_iff hending hstart (hnames m List.mem_cons_self) (by decide)
      head?_writeEnd, ih fun n hn => hnames n (List.mem_cons_of_mem _ hn)]
    simp [HasMember]

/-- A fragment occurs in the text of an object just if there is such a member. -/
theorem fragment_infix_iff (hnames : ∀ m ∈ members, IsUnescaped m.1.toList) :
    fragment ending.toList start.toList <:+: (ofStrings members).write ↔
      HasMember members ending start := by
  cases members with
  | nil =>
    have hnone : ¬fragment ending.toList start.toList <:+: (ofStrings []).write :=
      not_fragment_infix (by decide)
    simp [hnone, HasMember]
  | cons m rest =>
    have hwrite : (ofStrings (m :: rest)).write =
        '\x7b' :: (writeString m.1 ++ ':' :: (writeString m.2 ++ writeEnd rest)) := by
      rw [ofStrings, List.map_cons, write]
      simp [writeEnd, writeMembers, write_string]
    rw [hwrite, fragment_infix_member_iff hending hstart (hnames m List.mem_cons_self) (by decide)
      head?_writeEnd, fragment_infix_end_iff hending hstart fun n hn =>
        hnames n (List.mem_cons_of_mem _ hn)]
    simp [HasMember]

end Members

end Json

namespace Capture

open Json

variable {members : List (String × String)} {className code : String} {status : UInt16}

/-- Nothing but a member counts for a fragment in the text of an object. -/
theorem occursIn_compact_iff {ending start opening : String} (hending : IsWord ending.toList)
    (hstart : IsUnescaped start.toList) (hnames : ∀ m ∈ members, IsUnescaped m.1.toList)
    (hopening : opening = ending ++ "\":\"") :
    occursIn (opening ++ start) (compact (ofStrings members)) = true ↔
      HasMember members ending start := by
  have hfragment : (opening ++ start).toList = fragment ending.toList start.toList := by
    simp [hopening, fragment]
  rw [occursIn, Text.contains_iff, hfragment, compact, String.toList_ofList,
    fragment_infix_iff hending hstart hnames]

theorem assertServerError_eq (capture : Capture) (className code : String) :
    capture.assertServerError className code =
      if occursIn ("error-code-class\":\"" ++ className) capture.errorText then
        if occursIn ("error-code\":\"" ++ code) capture.errorText then .ok ()
        else .error (.missingErrorFragment ("error-code\":\"" ++ code))
      else .error (.missingErrorFragment ("error-code-class\":\"" ++ className)) := by
  unfold assertServerError assertSignature assertErrorFragment
  by_cases hfirst :
      occursIn (ErrorSignature.classFragment ⟨className, code⟩) capture.errorText = true
  · rw [if_pos hfirst]
    exact (if_pos hfirst).symm
  · rw [if_neg hfirst]
    exact (if_neg hfirst).symm

/-- The signature of an error is found just in the members: one for the class, one for the code.
Nothing that another member says makes up for one of them. -/
theorem assertServerError_members (hstatus : 400 ≤ status)
    (hnames : ∀ m ∈ members, IsUnescaped m.1.toList) (hclass : IsUnescaped className.toList)
    (hcode : IsUnescaped code.toList) :
    let verdict :=
      (Capture.ofBody status (compact (ofStrings members))).assertServerError className code
    (verdict = .ok () ↔
      HasMember members "error-code-class" className ∧ HasMember members "error-code" code) ∧
    (¬HasMember members "error-code-class" className →
      verdict = .error (.missingErrorFragment ("error-code-class\":\"" ++ className))) ∧
    (HasMember members "error-code-class" className → ¬HasMember members "error-code" code →
      verdict = .error (.missingErrorFragment ("error-code\":\"" ++ code))) := by
  intro verdict
  have htext : (Capture.ofBody status (compact (ofStrings members))).errorText =
      compact (ofStrings members) := by
    simp [ofBody, isErrorStatus, errorThreshold, hstatus]
  have hverdict := assertServerError_eq
    (Capture.ofBody status (compact (ofStrings members))) className code
  have hfirst : occursIn ("error-code-class\":\"" ++ className) (compact (ofStrings members)) =
      true ↔ HasMember members "error-code-class" className :=
    occursIn_compact_iff ⟨by decide, by decide⟩ hclass hnames (by decide)
  have hsecond : occursIn ("error-code\":\"" ++ code) (compact (ofStrings members)) = true ↔
      HasMember members "error-code" code :=
    occursIn_compact_iff ⟨by decide, by decide⟩ hcode hnames (by decide)
  rw [htext] at hverdict
  rw [← hfirst, ← hsecond, show verdict = _ from hverdict]
  split_ifs with hclassFound hcodeFound
  · exact ⟨by simp [hclassFound, hcodeFound], by simp [hclassFound], by simp [hcodeFound]⟩
  · exact ⟨by simp [hcodeFound], by simp [hclassFound], fun _ _ => rfl⟩
  · exact ⟨by simp [hclassFound], fun _ => rfl, by simp [hclassFound]⟩

/-- An envelope whose message quotes the envelope of another code. -/
def quotingEnvelope : List (String × String) :=
  [("message", "caused by \x7b\"error-code\":\"SERVER_0006\",\"error-code-class\":\"Driver\"\x7d"),
    ("error-code", "SERVER_0002"), ("error-code-class", "ServerError")]

/-- The code in the message is not taken for that of the envelope. -/
theorem assertServerError_members_of_quote :
    (400 : UInt16) ≤ 500 ∧
    (Capture.ofBody 500 (compact (ofStrings quotingEnvelope))).assertServerError "ServerError"
      "SERVER_0006" = .error (.missingErrorFragment ("error-code\":\"" ++ "SERVER_0006")) := by
  have hstatus : (400 : UInt16) ≤ 500 := by decide
  have hverdict := @assertServerError_members quotingEnvelope "ServerError" "SERVER_0006" 500
    hstatus (by decide) (by decide) (by decide)
  exact ⟨hstatus, hverdict.2.2 (by decide) (by decide)⟩

end Capture

end RestConformance
