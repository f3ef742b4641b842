import Mathlib.Data.Nat.Digits.Defs
import Mathlib.Tactic.SplitIfs
import RestConformance.Proofs.Settings.Reading
import RestConformance.Proofs.Text.Digits

/-!
# The grammar of settings

Which values of variables can be used, and what is told of those that cannot. Variables are looked
at one after another, and the first value that cannot be used decides.

## Main definitions

* `Decimal.worth digits` – the number that digits stand for, by their places;
* `Settings.IsUsable v value` – what a variable may be set to;
* `Settings.FirstFault lookup vs e` – the first of these variables that is set to something else is
  the one that the error tells of;
* `Settings.Inspects lookup vs x` – the computation fails on the first such variable, and on nothing
  else.

## Main results

* `Settings.inspects_read` – that is what reading settings does;
* `Settings.read_decides` – which variables give settings, and what is told where they do not.
-/

namespace RestConformance

/-! ### Numbers -/

namespace Decimal

variable {t : Text} {c : Char} {d n : Nat}

/-- The number that digits stand for. The last one counts the ones. -/
def worth (digits : Text) : Nat :=
  Nat.ofDigits 10 (digits.reverse.map fun c => c.toNat - '0'.toNat)

theorem worth_concat (digits : Text) (c : Char) :
    worth (digits ++ [c]) = 10 * worth digits + (c.toNat - '0'.toNat) := by
  simp [worth, Nat.ofDigits_cons, Nat.add_comm]

theorem value?_eq_some_iff :
    value? c = some d ↔ c.isDigit = true ∧ c.toNat - '0'.toNat = d := by
  have hdigit : ('0' ≤ c ∧ c ≤ '9') ↔ c.isDigit = true := by
    simp [Char.isDigit, Char.le_def]
  simp [value?, hdigit]

theorem extend?_eq_some_iff :
    extend? 0 t = some n ↔ (∀ c ∈ t, c.isDigit = true) ∧ worth t = n := by
  -- The last digit is the one that is added last, so the text is taken apart from its end.
  induction t using List.reverseRecOn generalizing n with
  | nil => simp [extend?, worth]
  | append_singleton front c ih =>
    have hlast : ∀ m, extend? m [c] = (value? c).map (10 * m + ·) := by
      intro m
      rw [extend?]
      cases value? c <;> rfl
    simp only [extend?_append, Option.bind_eq_some_iff, ih, hlast, Option.map_eq_some_iff,
      value?_eq_some_iff, worth_concat, List.forall_mem_append, List.forall_mem_singleton]
    grind

theorem number?_eq_some_iff :
    number? t = some n ↔ t ≠ [] ∧ (∀ c ∈ t, c.isDigit = true) ∧ worth t = n := by
  cases t with
  | nil => simp [number?]
  | cons c rest => simp [number?, extend?_eq_some_iff]

end Decimal

namespace Settings

/-- The text is a number in decimal, with a plus sign before its digits or without. -/
def WritesNumber (t : Text) (n : Nat) : Prop :=
  ∃ digits, (t = digits ∨ t = '+' :: digits) ∧ digits ≠ [] ∧
    (∀ c ∈ digits, c.isDigit = true) ∧ Decimal.worth digits = n

theorem readNumber?_eq_some_iff {t : Text} {n : Nat} :
    readNumber? t = some n ↔ WritesNumber t n := by
  unfold readNumber? WritesNumber
  split
  · next digits =>
    rw [Decimal.number?_eq_some_iff]
    constructor
    · intro h
      exact ⟨digits, .inr rfl, h⟩
    · rintro ⟨_, rfl | heq, h⟩
      -- A plus sign is no digit.
      · exact absurd (h.2.1 '+' List.mem_cons_self) (by decide)
      · rwa [(List.cons.inj heq).2]
  · next hplus =>
    rw [Decimal.number?_eq_some_iff]
    constructor
    · intro h
      exact ⟨t, .inl rfl, h⟩
    · rintro ⟨digits, rfl | rfl, h⟩
      · exact h
      · exact absurd rfl (hplus digits)

/-- Zeros before a number do not count. -/
example : WritesNumber "+007".toList 7 :=
  ⟨"007".toList, .inr rfl, by decide, by decide, by decide⟩

/-! ### Single variables -/

variable {lookup : String → Option String} {v : Variable} {vs rest : List Variable} {e : Error}
  {α β : Type} {x : Except Error α}

/-- What a variable may be set to. -/
def IsUsable : Variable → String → Prop
  | .baseUrl, value => ∃ url, Url.parse (trimBlanks value) = .ok url ∧
      (url.scheme = .http ∨ url.scheme = .https)
  | .timeout, value => ∃ n, WritesNumber (trimBlanks value).toList n ∧ 1 ≤ n ∧ n < UInt64.size
  | .user, value | .bearerTokenFile, value | .suite, value => ∃ c ∈ value.toList, isBlank c = false
  | .systemUser, _ | .password, _ | .bearerToken, _ => True

/-- What is told of a variable that is set to something else. -/
def complaint : Variable → String → Error
  | .baseUrl, value => .invalidBaseUrl value
  | .timeout, value => .invalidTimeout value
  | v, _ => .blank v

/-- The variable is not set, or it is set to something that can be used. -/
def IsSound (lookup : String → Option String) (v : Variable) : Prop :=
  ∀ value, lookup v.name = some value → IsUsable v value

/-- The error tells of the first of some variables that is set to something that cannot be used. -/
inductive FirstFault (lookup : String → Option String) : List Variable → Error → Prop where
  /-- It is the first one of all. -/
  | here {v : Variable} {rest : List Variable} {value : String} :
    lookup v.name = some value → ¬IsUsable v value →
      FirstFault lookup (v :: rest) (complaint v value)
  /-- It comes behind one that can be used. -/
  | later {v : Variable} {rest : List Variable} {e : Error} :
    IsSound lookup v → FirstFault lookup rest e → FirstFault lookup (v :: rest) e

theorem firstFault_cons_iff :
    FirstFault lookup (v :: rest) e ↔
      FirstFault lookup [v] e ∨ IsSound lookup v ∧ FirstFault lookup rest e := by
  constructor
  · intro h
    cases h with
    | here hvalue hfault => exact .inl (.here hvalue hfault)
    | later hsound hrest => exact .inr ⟨hsound, hrest⟩
  · rintro (h | ⟨hsound, hrest⟩)
    · cases h with
      | here hvalue hfault => exact .here hvalue hfault
      | later _ hnone => cases hnone
    · exact .later hsound hrest

/-- There is a fault unless all variables are sound. -/
theorem exists_firstFault_iff : (∃ e, FirstFault lookup vs e) ↔ ¬∀ v ∈ vs, IsSound lookup v := by
  induction vs with
  | nil =>
    simp only [List.not_mem_nil, false_implies, implies_true, not_true_eq_false, iff_false]
    rintro ⟨e, ⟨⟩⟩
  | cons v rest ih =>
    constructor
    · rintro ⟨e, h⟩ hall
      cases h with
      | here hvalue hfault => exact hfault (hall v List.mem_cons_self _ hvalue)
      | later _ hrest => exact ih.1 ⟨e, hrest⟩ fun w hw => hall w (List.mem_cons_of_mem v hw)
    · intro hall
      by_cases hsound : IsSound lookup v
      · have hrest : ¬∀ w ∈ rest, IsSound lookup w := by
          intro h
          exact hall (List.forall_mem_cons.2 ⟨hsound, h⟩)
        obtain ⟨e, he⟩ := ih.2 hrest
        exact ⟨e, .later hsound he⟩
      · unfold IsSound at hsound
        push Not at hsound
        obtain ⟨value, hvalue, hfault⟩ := hsound
        exact ⟨_, .here hvalue hfault⟩

/-! ### Steps of the reader -/

/-- The computation fails on the first variable that is set to something that cannot be used, and
on nothing else. -/
def Inspects (lookup : String → Option String) (vs : List Variable) (x : Except Error α) : Prop :=
  ∀ e, x = .error e ↔ FirstFault lookup vs e

theorem Inspects.pure (a : α) : Inspects lookup [] (Pure.pure a : Except Error α) := by
  intro e
  constructor
  · rintro ⟨⟩
  · rintro ⟨⟩

theorem Inspects.isSound {a : α} (h : Inspects lookup [v] x) (hx : x = .ok a) :
    IsSound lookup v := by
  by_contra hfault
  have hsome : ∃ e, FirstFault lookup [v] e :=
    exists_firstFault_iff.2 fun hall => hfault (hall v List.mem_cons_self)
  obtain ⟨e, he⟩ := hsome
  rw [← h e, hx] at he
  cases he

/-- One variable after the other: the second step is reached where the first variable is sound. -/
theorem Inspects.bind {f : α → Except Error β} (hx : Inspects lookup [v] x)
    (hf : ∀ a, Inspects lookup rest (f a)) : Inspects lookup (v :: rest) (x >>= f) := by
  intro e
  rw [bind_eq_error_iff, firstFault_cons_iff, hx e]
  constructor
  · rintro (hfirst | ⟨a, ha, hlater⟩)
    · exact .inl hfirst
    · exact .inr ⟨hx.isSound ha, (hf a e).1 hlater⟩
  · rintro (hfirst | ⟨hsound, hlater⟩)
    · exact .inl hfirst
    · cases hresult : x with
      | error d =>
        obtain h := (hx d).1 hresult
        cases h with
        | here hvalue hfault => exact absurd (hsound _ hvalue) hfault
        | later _ hnone => cases hnone
      | ok a => exact .inr ⟨a, rfl, (hf a e).2 hlater⟩

/-- A step that reads the value of a variable, if it is set. Reading gives something just if the
value can be used. -/
theorem inspects_value (read : String → Except Error β)
    (hread : ∀ value, (∃ b, read value = .ok b) ↔ IsUsable v value)
    (hcomplaint : ∀ value e, read value = .error e → e = complaint v value)
    (hnone : lookup v.name = none → ∃ a, x = .ok a)
    (hsome : ∀ value, lookup v.name = some value → ∀ e, x = .error e ↔ read value = .error e) :
    Inspects lookup [v] x := by
  intro e
  constructor
  · intro hx
    cases hvalue : lookup v.name with
    | none =>
      obtain ⟨a, ha⟩ := hnone hvalue
      rw [ha] at hx
      cases hx
    | some value =>
      have herror := (hsome value hvalue e).1 hx
      obtain rfl := hcomplaint value e herror
      refine .here hvalue fun husable => ?_
      obtain ⟨b, hb⟩ := (hread value).2 husable
      rw [hb] at herror
      cases herror
  · intro h
    cases h with
    | @here _ _ value hvalue hfault =>
      rw [hsome value hvalue]
      cases hresult : read value with
      | error d => rw [hcomplaint value d hresult]
      | ok b => exact absurd ((hread value).1 ⟨b, hresult⟩) hfault
    | later _ hrest => cases hrest

/-! ### The five steps -/

theorem isUsable_baseUrl_iff {value : String} :
    (∃ base, readBaseUrl value = .ok base) ↔ IsUsable .baseUrl value := by
  simp only [readBaseUrl_eq_ok_iff, IsUsable]
  constructor
  · rintro ⟨_, url, hparse, hscheme, -⟩
    exact ⟨url, hparse, hscheme⟩
  · rintro ⟨url, hparse, hscheme⟩
    exact ⟨_, url, hparse, hscheme, rfl⟩

/-- The name `localhost` is read as it stands. -/
theorem read_localhost :
    Url.Host.read "localhost".toList = .ok (.name "localhost".toList) := by
  have hplain : ∀ c ∈ "localhost".toList, Idna.IsPlain c := by
    unfold Idna.IsPlain
    decide +kernel
  rw [Url.Host.read_of_plain hplain, Idna.toAscii?_of_plain hplain (by decide +kernel)]
  decide +kernel

/-- The address that is used where none is given can be used. -/
theorem isUsable_standard : IsUsable .baseUrl standard.baseUrl := by
  let host : Url.Host := .name "localhost".toList
  let a : Url.Authority := ⟨[], none, some host, some 12000⟩
  have ha : a.IsRead .http host := by
    refine ⟨rfl, ⟨_, read_localhost⟩, ?_, nofun, nofun⟩
    rintro n ⟨⟩
    decide
  have hreadable : host.IsReadable := by decide +kernel
  have hparse := Url.parseText_write rfl ha "sqoop/".toList
  rw [if_pos hreadable] at hparse
  exact ⟨_, hparse, .inl rfl⟩

theorem inspects_baseUrl :
    Inspects lookup [.baseUrl]
      (readBaseUrl ((lookup Variable.baseUrl.name).getD standard.baseUrl)) := by
  refine inspects_value readBaseUrl (fun _ => isUsable_baseUrl_iff)
    (fun _ _ => readBaseUrl_eq_error) ?_ ?_
  · intro hnone
    rw [hnone]
    exact isUsable_baseUrl_iff.2 isUsable_standard
  · intro value hvalue e
    rw [hvalue, Option.getD_some]

/-- The three names must not be blank. -/
theorem inspects_notBlank (hv : v = .user ∨ v = .bearerTokenFile ∨ v = .suite) :
    Inspects lookup [v] (notBlank v (lookup v.name)) := by
  refine inspects_value (fun value => notBlank v (some value)) ?_ ?_ ?_ ?_
  · intro value
    have husable : IsUsable v value ↔ isBlankString value = false := by
      rcases hv with rfl | rfl | rfl <;> simp [IsUsable, isBlankString]
    simp [notBlank_eq_ok_iff, husable]
  · intro value e h
    rw [notBlank_eq_error h]
    rcases hv with rfl | rfl | rfl <;> rfl
  · intro hnone
    rw [hnone]
    exact ⟨none, rfl⟩
  · intro value hvalue e
    rw [hvalue]

theorem inspects_timeout :
    Inspects lookup [.timeout] ((lookup Variable.timeout.name).mapM readTimeout) := by
  refine inspects_value readTimeout ?_ (fun _ _ => readTimeout_eq_error) ?_ ?_
  · intro value
    simp only [readTimeout_eq_ok_iff, readNumber?_eq_some_iff, IsUsable]
    constructor
    · rintro ⟨ms, hwrites, hpositive⟩
      exact ⟨ms.toNat, hwrites, hpositive, ms.toNat_lt⟩
    · rintro ⟨n, hwrites, hpositive, hbound⟩
      refine ⟨UInt64.ofNat n, ?_⟩
      rw [UInt64.toNat_ofNat_of_lt' hbound]
      exact ⟨hwrites, hpositive⟩
  · intro hnone
    rw [hnone]
    exact ⟨none, rfl⟩
  · intro value hvalue e
    rw [hvalue]
    show (some <$> readTimeout value) = .error e ↔ _
    cases readTimeout value <;> simp

/-! ### Main results -/

/-- The variables whose values are inspected, in this order. -/
def inspected : List Variable :=
  [.baseUrl, .user, .bearerTokenFile, .timeout, .suite]

theorem isSound_of_notMem (h : v ∉ inspected) : IsSound lookup v := by
  intro value _
  cases v with
  | systemUser | password | bearerToken => trivial
  | _ => exact absurd (by decide) h

/-- Reading settings fails on the first variable that cannot be used, and on nothing else. -/
theorem inspects_read : Inspects lookup inspected (read lookup) :=
  inspects_baseUrl.bind fun _ =>
    (inspects_notBlank (.inl rfl)).bind fun _ =>
      (inspects_notBlank (.inr (.inl rfl))).bind fun _ =>
        inspects_timeout.bind fun _ =>
          (inspects_notBlank (.inr (.inr rfl))).bind fun _ => .pure _

theorem exists_read_iff : (∃ settings, read lookup = .ok settings) ↔ ∀ v, IsSound lookup v := by
  have hall : (∀ v, IsSound lookup v) ↔ ∀ v ∈ inspected, IsSound lookup v := by
    constructor
    · intro h v _
      exact h v
    · intro h v
      by_cases hv : v ∈ inspected
      · exact h v hv
      · exact isSound_of_notMem hv
  rw [hall, ← not_iff_not, ← exists_firstFault_iff]
  cases hread : read lookup with
  | error e =>
    simp only [reduceCtorEq, exists_false, not_false_eq_true, true_iff]
    exact ⟨e, (inspects_read e).1 hread⟩
  | ok settings =>
    simp only [Except.ok.injEq, exists_eq', not_true_eq_false, false_iff]
    rintro ⟨e, he⟩
    rw [← inspects_read e, hread] at he
    cases he

/-- The time of settings is the number that its variable writes. -/
theorem timeoutMs_of_read {settings : Settings} (h : read lookup = .ok settings) :
    (lookup Variable.timeout.name = none → settings.timeoutMs = none) ∧
      ∀ value, lookup Variable.timeout.name = some value →
        ∃ ms, settings.timeoutMs = some ms ∧ WritesNumber (trimBlanks value).toList ms.toNat := by
  have hread := read_eq_ok_iff.1 h
  refine ⟨hread.timeout_of_none, fun value hvalue => ?_⟩
  obtain ⟨ms, hms, htimeout⟩ := hread.timeout_of_some hvalue
  exact ⟨ms, hms, readNumber?_eq_some_iff.1 (readTimeout_eq_ok_iff.1 htimeout).1⟩

/-- Variables give settings just if each of them is not set or can be used, and the time is then the
number that is written there. Where they give none, the error tells of the first that cannot be
used; the user of the system, the password and the token never are among these. -/
theorem read_decides (lookup : String → Option String) :
    ((∃ settings, read lookup = .ok settings) ↔ ∀ v, IsSound lookup v) ∧
      (∀ settings, read lookup = .ok settings →
        (lookup Variable.timeout.name = none → settings.timeoutMs = none) ∧
          ∀ value, lookup Variable.timeout.name = some value →
            ∃ ms, settings.timeoutMs = some ms ∧
              WritesNumber (trimBlanks value).toList ms.toNat) ∧
      ∀ e, read lookup = .error e ↔ FirstFault lookup inspected e := by
  refine ⟨exists_read_iff, fun settings h => timeoutMs_of_read h, inspects_read⟩

/-- Variables of which the user is blank and the time is not positive. -/
def twiceWrong (name : String) : Option String :=
  if name = Variable.user.name then some "\t"
  else if name = Variable.timeout.name then some " +00 "
  else none

/-- The user comes first, so the time is not told of. -/
theorem read_decides_twice_wrong :
    FirstFault twiceWrong inspected (complaint .user "\t") ∧
      Settings.read twiceWrong = .error (.blank .user) := by
  have hfault : FirstFault twiceWrong inspected (complaint .user "\t") := by
    have hblank : ¬IsUsable .user "\t" := by
      rintro ⟨c, hc, hvisible⟩
      obtain rfl := List.mem_singleton.1 hc
      cases hvisible
    exact .later nofun (.here rfl hblank)
  exact ⟨hfault, ((read_decides twiceWrong).2.2 _).2 hfault⟩

end Settings

end RestConformance
