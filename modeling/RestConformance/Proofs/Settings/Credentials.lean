import Mathlib.Data.List.Forall2
import RestConformance.Proofs.Settings.Grammar
import RestConformance.Proofs.Text.Cutting
import RestConformance.Proofs.Text.Utf8

/-!
# Credentials over time

Which credentials the requests of a run get while the files around it change. The source is made
once, and each request asks it anew.

## Main definitions

* `Settings.answersOver settings start history` – what the source answers when it is asked once in
  each state of the files;
* `TokenFileAnswer path content answer` – what a token file with that content comes to;
* `Settings.Chosen lookup files answer` – what the variables and the files of one moment come to.

## Main results

* `tokenFileAnswer_iff` – how a token file is read;
* `Settings.answersOver_eq_iff` – each answer is the one that the variables and the files of its own
  moment come to.
-/

namespace RestConformance

variable {path : String} {content : Except FileProblem Bytes}
  {answer : Except CredentialError Credentials}

/-! ### Token files -/

/-- What a token file comes to. Its token has no blanks at its ends; there may be some around it. -/
inductive TokenFileAnswer (path : String) :
    Except FileProblem Bytes → Except CredentialError Credentials → Prop where
  /-- The file holds a token. -/
  | token {before token after : Text} : token ≠ [] → Text.IsTrimmed isBlank token →
    before.all isBlank = true → after.all isBlank = true →
      TokenFileAnswer path (.ok (Utf8.encode (before ++ token ++ after)))
        (.ok (.bearer (String.ofList token)))
  | blank {text : Text} : text.all isBlank = true →
    TokenFileAnswer path (.ok (Utf8.encode text)) (.error ⟨path ++ ": token file is empty"⟩)
  | garbled {bytes : Bytes} : (∀ text, bytes ≠ Utf8.encode text) →
    TokenFileAnswer path (.ok bytes) (.error ⟨path ++ ": stream did not contain valid UTF-8"⟩)
  | unreadable (problem : FileProblem) :
    TokenFileAnswer path (.error problem) (.error ⟨path ++ ": " ++ problem.message⟩)

theorem ofTokenFile_encode (path : String) (text : Text) :
    Credentials.ofTokenFile path (.ok (Utf8.encode text)) =
      if text.all isBlank then .error ⟨path ++ ": token file is empty"⟩
      else .ok (.bearer (String.ofList (Text.trimBoth isBlank text))) := by
  simp [Credentials.ofTokenFile, Utf8.decodeString?, Utf8.decode?_encode, isBlankString, trimBlanks]

theorem ofTokenFile_garbled {bytes : Bytes} (h : ∀ text, bytes ≠ Utf8.encode text) :
    Credentials.ofTokenFile path (.ok bytes) =
      .error ⟨path ++ ": stream did not contain valid UTF-8"⟩ := by
  have hnone : Utf8.decode? bytes = none := by
    rw [Option.eq_none_iff_forall_ne_some]
    intro text hread
    exact h text (Utf8.decode?_eq_some_iff.1 hread)
  simp [Credentials.ofTokenFile, Utf8.decodeString?, hnone]

theorem tokenFileAnswer_iff :
    TokenFileAnswer path content answer ↔ Credentials.ofTokenFile path content = answer := by
  constructor
  · intro h
    cases h with
    | @token before token after hsome htrimmed hbefore hafter =>
      have hnotBlank : ¬(before ++ token ++ after).all isBlank = true := by
        obtain ⟨c, rest, rfl⟩ := List.exists_cons_of_ne_nil hsome
        simp [htrimmed.1 c rfl]
      rw [ofTokenFile_encode, if_neg hnotBlank,
        Text.trimBoth_append hbefore hafter hsome htrimmed]
    | blank hblank => rw [ofTokenFile_encode, if_pos hblank]
    | garbled hgarbled => exact ofTokenFile_garbled hgarbled
    | unreadable problem => rfl
  · rintro rfl
    cases content with
    | error problem => exact .unreadable problem
    | ok bytes =>
      by_cases htext : ∃ text, bytes = Utf8.encode text
      · obtain ⟨text, rfl⟩ := htext
        rw [ofTokenFile_encode]
        split
        · next hblank => exact .blank hblank
        · next hnotBlank =>
          obtain ⟨before, after, hwhole, hbefore, hafter, htrimmed⟩ :=
            Text.exists_trimBoth isBlank text
          have hsome : Text.trimBoth isBlank text ≠ [] :=
            fun hnone => hnotBlank ((Text.trimBoth_eq_nil_iff isBlank text).1 hnone)
          have htoken : TokenFileAnswer path _ _ := .token hsome htrimmed hbefore hafter
          rwa [← hwhole] at htoken
      · have hgarbled : ∀ text, bytes ≠ Utf8.encode text := fun text heq => htext ⟨text, heq⟩
        rw [ofTokenFile_garbled hgarbled]
        exact .garbled hgarbled

namespace Settings

/-- The files of one moment. -/
abbrev Files := String → Except FileProblem Bytes

/-- The source of settings among files that change. -/
def source (settings : Settings) : CredentialSource (StateM Files) :=
  settings.credentialSource fun path => return (← get) path

/-- What the source of settings answers when it is asked once in each state of the files. -/
def answersOver (settings : Settings) (start : Files) (history : List Files) :
    List (Except CredentialError Credentials) :=
  ((history.mapM fun files => do set files; settings.source).run start).1

variable {lookup : String → Option String} {settings : Settings} {user : String} {files : Files}

/-- The user of some variables. -/
inductive IsUser (lookup : String → Option String) : String → Prop where
  | named {user : String} : lookup Variable.user.name = some user → IsUser lookup user
  /-- Nobody is named, and the system knows a user. -/
  | system {user : String} : lookup Variable.user.name = none →
    lookup Variable.systemUser.name = some user → isBlankString user = false → IsUser lookup user
  | standard : lookup Variable.user.name = none →
    (∀ user, lookup Variable.systemUser.name = some user → isBlankString user = true) →
      IsUser lookup "restprobe"

/-- No token is given, or a blank one. -/
def LacksToken (lookup : String → Option String) : Prop :=
  ∀ token, lookup Variable.bearerToken.name = some token → isBlankString token = true

/-- The credentials that variables and the files of one moment come to. -/
inductive Chosen (lookup : String → Option String) (files : Files) :
    Except CredentialError Credentials → Prop where
  /-- A token that is given goes before all else. -/
  | token {token : String} : lookup Variable.bearerToken.name = some token →
    isBlankString token = false → Chosen lookup files (.ok (.bearer token))
  /-- Nothing stands in for a token file, whatever it comes to. -/
  | file {path : String} {answer : Except CredentialError Credentials} : LacksToken lookup →
    lookup Variable.bearerTokenFile.name = some path →
      TokenFileAnswer path (files path) answer → Chosen lookup files answer
  | password {user password : String} : LacksToken lookup →
    lookup Variable.bearerTokenFile.name = none →
      lookup Variable.password.name = some password → password ≠ "" → IsUser lookup user →
        Chosen lookup files (.ok (.basic user password))
  | user {user : String} : LacksToken lookup → lookup Variable.bearerTokenFile.name = none →
    (∀ password, lookup Variable.password.name = some password → password = "") →
      IsUser lookup user → Chosen lookup files (.ok (.pseudoUser user))

/-! ### One moment -/

/-- What settings come to with the files of one moment. -/
def answerWith (settings : Settings) (files : Files) : Except CredentialError Credentials :=
  match settings.bearerToken, settings.bearerTokenFile with
  | none, some path => Credentials.ofTokenFile path (files path)
  | _, _ => .ok settings.credentials

section Reading

variable (h : IsReadFrom lookup settings)

include h

theorem IsReadFrom.bearerToken_eq_some_iff {token : String} : settings.bearerToken = some token ↔
    lookup Variable.bearerToken.name = some token ∧ isBlankString token = false := by
  simp [h.bearerToken, Option.filter_eq_some_iff]

theorem IsReadFrom.bearerToken_eq_none_iff : settings.bearerToken = none ↔ LacksToken lookup := by
  simp [h.bearerToken, LacksToken]

theorem IsReadFrom.password_eq_some_iff {password : String} : settings.password = some password ↔
    lookup Variable.password.name = some password ∧ password ≠ "" := by
  simp [h.password, Option.filter_eq_some_iff]

theorem IsReadFrom.password_eq_none_iff : settings.password = none ↔
    ∀ password, lookup Variable.password.name = some password → password = "" := by
  simp [h.password]

theorem IsReadFrom.isUser_iff : IsUser lookup user ↔ settings.user = user := by
  rw [h.user]
  constructor
  · intro huser
    cases huser with
    | named hnamed => simp [hnamed]
    | system hnone hsystem hfits => simp [hnone, hsystem, Option.filter, hfits]
    | standard hnone hblank =>
      have hfilter : (lookup Variable.systemUser.name).filter (!isBlankString ·) = none := by
        simpa using hblank
      rw [hnone, hfilter]
      rfl
  · rintro rfl
    cases hnamed : lookup Variable.user.name with
    | some user => exact .named hnamed
    | none =>
      cases hsystem : (lookup Variable.systemUser.name).filter (!isBlankString ·) with
      | some user =>
        obtain ⟨hset, hfits⟩ := Option.filter_eq_some_iff.1 hsystem
        exact .system hnamed hset (by simpa using hfits)
      | none => exact .standard hnamed (by simpa using hsystem)

theorem IsReadFrom.chosen_iff :
    Chosen lookup files answer ↔ settings.answerWith files = answer := by
  constructor
  · intro hchosen
    cases hchosen with
    | token htoken hfits =>
      rw [answerWith, credentials, h.bearerToken_eq_some_iff.2 ⟨htoken, hfits⟩]
    | file hlacks hpath hfile =>
      rw [answerWith, h.bearerToken_eq_none_iff.2 hlacks, h.bearerTokenFile, hpath]
      exact tokenFileAnswer_iff.1 hfile
    | password hlacks hnoFile hpassword hsome huser =>
      rw [answerWith, credentials, h.bearerToken_eq_none_iff.2 hlacks, h.bearerTokenFile, hnoFile,
        h.password_eq_some_iff.2 ⟨hpassword, hsome⟩, h.isUser_iff.1 huser]
    | user hlacks hnoFile hnoPassword huser =>
      rw [answerWith, credentials, h.bearerToken_eq_none_iff.2 hlacks, h.bearerTokenFile, hnoFile,
        h.password_eq_none_iff.2 hnoPassword, h.isUser_iff.1 huser]
  · -- The settings are looked at in the order in which one goes before the other.
    rintro rfl
    cases htoken : settings.bearerToken with
    | some token =>
      obtain ⟨hset, hfits⟩ := h.bearerToken_eq_some_iff.1 htoken
      rw [answerWith, credentials, htoken]
      exact .token hset hfits
    | none =>
      have hlacks := h.bearerToken_eq_none_iff.1 htoken
      cases hfile : settings.bearerTokenFile with
      | some path =>
        rw [answerWith, htoken, hfile]
        exact .file hlacks (h.bearerTokenFile.symm.trans hfile) (tokenFileAnswer_iff.2 rfl)
      | none =>
        have hnoFile := h.bearerTokenFile.symm.trans hfile
        have huser := h.isUser_iff.2 rfl
        cases hpassword : settings.password with
        | some password =>
          obtain ⟨hset, hsome⟩ := h.password_eq_some_iff.1 hpassword
          rw [answerWith, credentials, htoken, hfile, hpassword]
          exact .password hlacks hnoFile hset hsome huser
        | none =>
          rw [answerWith, credentials, htoken, hfile, hpassword]
          exact .user hlacks hnoFile (h.password_eq_none_iff.1 hpassword) huser

end Reading

/-! ### Over time -/

/-- Asking the source changes nothing, and only the files of the moment count. -/
theorem run_source (settings : Settings) (files : Files) :
    settings.source.run files = (settings.answerWith files, files) := by
  unfold source credentialSource answerWith
  cases settings.bearerToken with
  | some token => rfl
  | none => cases settings.bearerTokenFile <;> rfl

theorem answersOver_eq_map (settings : Settings) (start : Files) (history : List Files) :
    settings.answersOver start history = history.map settings.answerWith := by
  induction history generalizing start with
  | nil => rfl
  | cons files rest ih =>
    have hstep : (do set files; settings.source : StateM Files _).run start =
        (settings.answerWith files, files) := run_source settings files
    rw [List.map_cons, ← ih files, answersOver, answersOver, List.mapM_cons, StateT.run_bind, hstep]
    rfl

/-- The credentials of each request are those that the variables and the files of its own moment
come to. -/
theorem answersOver_eq_iff (h : read lookup = .ok settings) (start : Files) (history : List Files)
    (answers : List (Except CredentialError Credentials)) :
    settings.answersOver start history = answers ↔
      List.Forall₂ (Chosen lookup) history answers := by
  have hchosen : Chosen lookup = fun files answer => settings.answerWith files = answer := by
    ext files answer
    exact (read_eq_ok_iff.1 h).chosen_iff
  rw [answersOver_eq_map, hchosen, ← List.forall₂_eq_eq_eq, List.forall₂_map_left_iff]

/-- Variables with a token file and a password. -/
def fileOverPassword (name : String) : Option String :=
  if name = Variable.bearerTokenFile.name then some "token"
  else if name = Variable.password.name then some "secret"
  else none

/-- A token is used once its file can be read, and no longer when the file is spoiled. The password
never is. -/
theorem answersOver_eq_iff_recovering :
    ∃ settings, Settings.read fileOverPassword = .ok settings ∧
      settings.answersOver (fun _ => .error .missing)
        [fun _ => .error .directory, fun _ => .ok (Utf8.encodeString " renewed\n"),
          fun _ => .ok [0xFF]] =
        [.error ⟨"token: Is a directory (os error 21)"⟩, .ok (.bearer "renewed"),
          .error ⟨"token: stream did not contain valid UTF-8"⟩] := by
  have hsound : ∀ v, IsSound fileOverPassword v := by
    intro v value hvalue
    cases v with
    | bearerTokenFile =>
      obtain rfl := Option.some.inj hvalue
      exact ⟨'t', by decide, by decide⟩
    | password => trivial
    | _ => cases hvalue
  obtain ⟨settings, hread⟩ := exists_read_iff.2 hsound
  refine ⟨settings, hread, (answersOver_eq_iff hread _ _ _).2 ?_⟩
  have hgarbled : ∀ text, [0xFF] ≠ Utf8.encode text := by
    intro text heq
    have hsome := Utf8.decode?_eq_some_iff.2 heq
    rw [Utf8.decode?] at hsome
    cases hsome
  have htrimmed : Text.IsTrimmed isBlank "renewed".toList := by
    constructor <;> rintro c ⟨⟩ <;> rfl
  have hrenewed : TokenFileAnswer "token"
      (.ok (Utf8.encode ([' '] ++ "renewed".toList ++ ['\n']))) (.ok (.bearer "renewed")) :=
    .token (by decide) htrimmed (by decide) (by decide)
  have hlacks : LacksToken fileOverPassword := by
    intro token htoken
    cases htoken
  refine .cons (.file hlacks rfl (.unreadable .directory)) (.cons ?_ (.cons ?_ .nil))
  · exact .file hlacks rfl hrenewed
  · exact .file hlacks rfl (.garbled hgarbled)

end Settings

end RestConformance
