import RestConformance.Credentials
import RestConformance.Proofs.Json.Reading
import RestConformance.Proofs.Link.Payload
import RestConformance.Report.Json

/-!
# Reading back records

The reports of units, captures, credentials and links are read back from their JSON forms, whatever
their texts hold. The tags of the forms nest: the outcome of a unit has its status beside its
detail, and where an assertion failed the detail has its kind among its fields. They are never mixed
up. A reason stays a string where it reads like an assertion that failed.

## Main definitions

* `Json.Recovers toJson ofJson?` – all values of a type are read back from their forms and the texts
  of these.

## Main results

* `AssertionFailure.ofNumberedJson?_toJson`, `UnitOutcome.ofJson?_toJson` – what nests is read back;
* `UnitReport.recovers`, `Capture.recovers`, `Credentials.recovers`, `Link.recovers` – so are the
  records;
* `Json.records_recovered` – the forms of the records and what they show.
-/

namespace RestConformance

namespace Json

/-- All values of a type are read back from their forms and the texts of these. -/
def Recovers {α : Type} (toJson : α → Json) (ofJson? : Json → Option α) : Prop :=
  ∀ a, (∀ text ∈ (toJson a).texts, read? text = some (toJson a)) ∧ ofJson? (toJson a) = some a

theorem Recovers.of_isWhole {α : Type} {toJson : α → Json} {ofJson? : Json → Option α}
    (hwhole : ∀ a, (toJson a).IsWhole) (h : ∀ a, ofJson? (toJson a) = some a) :
    Recovers toJson ofJson? :=
  fun a => ⟨fun _ htext => read?_texts (hwhole a) htext, h a⟩

/-! ### Numbers and maps -/

theorem natural?_of_lt {n bound : Nat} (h : n < bound) : natural? bound (.integer n) = some n := by
  simp [natural?, h]

theorem word16?_toNat (n : UInt16) : word16? (.integer n.toNat) = some n := by
  rw [word16?, natural?_of_lt n.toNat_lt, Option.map_some, UInt16.ofNat_toNat]

theorem word64?_toNat (n : UInt64) : word64? (.integer n.toNat) = some n := by
  rw [word64?, natural?_of_lt n.toNat_lt, Option.map_some, UInt64.ofNat_toNat]

theorem strings?_map (entries : List (String × String)) :
    strings? (.object (entries.map fun entry => (entry.1, .string entry.2))) = some entries := by
  have hentry : (fun member : String × Json => member.2.string?.map (member.1, ·)) ∘
      (fun entry : String × String => (entry.1, Json.string entry.2)) = pure := rfl
  show List.mapM (fun member : String × Json => member.2.string?.map (member.1, ·))
    (entries.map _) = _
  rw [List.mapM_map, hentry, List.mapM_pure]
  exact congrArg some (List.map_id _)

end Json

open Json (Recovers word16?_toNat word64?_toNat)

/-! ### Captures, credentials and links -/

theorem Capture.recovers : Recovers Capture.toJson Capture.ofJson? := by
  apply Recovers.of_isWhole
  · intro capture
    simp [Capture.toJson]
  · intro capture
    have hread : Capture.ofJson? capture.toJson =
        (Json.word16? (.integer capture.status.toNat)).bind fun status =>
          some ⟨status, capture.successText, capture.errorText⟩ := rfl
    rw [hread, word16?_toNat]
    rfl

theorem Credentials.recovers : Recovers Credentials.toJson Credentials.ofJson? := by
  apply Recovers.of_isWhole
  · intro credentials
    cases credentials <;> simp [Credentials.toJson]
  · intro credentials
    cases credentials <;> rfl

theorem Link.recovers : Recovers Link.toJson Link.ofJson? := by
  apply Recovers.of_isWhole
  · intro link
    simp only [Link.toJson, Json.isWhole_object_iff, Json.isWhole_string, List.forall_mem_cons,
      List.forall_mem_map, List.not_mem_nil, implies_true, and_true, false_implies]
  · intro link
    have hread : Link.ofJson? link.toJson =
        (Json.strings? (.object (link.inputs.entries.map fun entry =>
          (entry.1, .string entry.2)))).bind fun entries =>
            some ⟨link.name, link.connectorName, .ofList entries⟩ := rfl
    rw [hread, Json.strings?_map, Option.bind_some, Inputs.ofList_of_perm (.refl _)]

/-! ### Reports of units -/

namespace AssertionFailure

variable (failure : AssertionFailure)

theorem isWhole_toJson : failure.toJson.IsWhole := by
  cases failure <;> simp [toJson]

/-- A failure is read back where its kind may be given by number. -/
theorem ofNumberedJson?_toJson : ofNumberedJson? failure.toJson = some failure := by
  cases failure with
  | statusMismatch expected actual =>
    have hread : ofNumberedJson? (statusMismatch expected actual).toJson =
        (Json.word16? (.integer expected.toNat)).bind fun expected =>
          (Json.word16? (.integer actual.toNat)).bind fun actual =>
            some (statusMismatch expected actual) := rfl
    rw [hread, word16?_toNat, word16?_toNat]
    rfl
  | missingErrorFragment fragment => rfl
  | missingSubstring needle => rfl

theorem lookup_kind : ∃ members, failure.toJson = .object members ∧
    Json.lookup "kind" members = some (.string failure.kind) := by
  cases failure <;> exact ⟨_, rfl, rfl⟩

end AssertionFailure

namespace UnitOutcome

variable (outcome : UnitOutcome)

theorem isWhole_toJson : outcome.toJson.IsWhole := by
  cases outcome with
  | passed => simp [toJson]
  | failed failure => simp [toJson, failure.isWhole_toJson]
  | fatal reason => simp [toJson]

theorem ofJson?_toJson : ofJson? outcome.toJson = some outcome := by
  cases outcome with
  | passed => rfl
  | failed failure =>
    have hread : ofJson? (failed failure).toJson =
        (AssertionFailure.ofNumberedJson? failure.toJson).bind fun failure =>
          some (failed failure) := rfl
    rw [hread, failure.ofNumberedJson?_toJson]
    rfl
  | fatal reason => rfl

/-- A reason stays a reason where it is the text of a failure. -/
example (failure : AssertionFailure) : ofJson? (fatal failure.toJson.compact).toJson =
    some (fatal failure.toJson.compact) :=
  rfl

end UnitOutcome

namespace UnitReport

variable (report : UnitReport)

theorem recovers : Recovers toJson ofJson? := by
  apply Recovers.of_isWhole
  · rintro ⟨identifier, outcome, durationMs, teardownError⟩
    cases teardownError <;> simp [toJson, outcome.isWhole_toJson]
  · rintro ⟨identifier, outcome, durationMs, teardownError⟩
    have hread : ofJson? (toJson ⟨identifier, outcome, durationMs, teardownError⟩) =
        (UnitOutcome.ofJson? outcome.toJson).bind fun outcome =>
          (Json.word64? (.integer durationMs.toNat)).bind fun durationMs =>
            some ⟨identifier, outcome, durationMs, teardownError⟩ := by
      cases teardownError <;> rfl
    rw [hread, outcome.ofJson?_toJson, word64?_toNat]
    rfl

theorem member?_outcome : report.toJson.member? "outcome" = some report.outcome.toJson := by
  obtain ⟨identifier, outcome, durationMs, teardownError⟩ := report
  cases teardownError <;> rfl

theorem member?_teardownError :
    report.toJson.member? "teardown_error" = report.teardownError.map Json.string := by
  obtain ⟨identifier, outcome, durationMs, teardownError⟩ := report
  cases teardownError <;> rfl

end UnitReport

/-- Reports of units, captures, credentials and links are read back from their forms and from the
texts of these. In the form of a report the status is the word for the kind of the outcome. There is
no detail where the unit passed; where an assertion failed it is an object that holds the kind of
the failure, and where the unit was given up it is the reason as a string, whatever the reason reads
like. What went wrong in taking down the fixture is there exactly where something did. -/
theorem Json.records_recovered :
    Recovers UnitReport.toJson UnitReport.ofJson? ∧ Recovers Capture.toJson Capture.ofJson? ∧
    Recovers Credentials.toJson Credentials.ofJson? ∧ Recovers Link.toJson Link.ofJson? ∧
    ∀ report : UnitReport,
      let outcome := report.toJson.member? "outcome"
      let status := outcome.bind (Json.member? "status")
      let detail := outcome.bind (Json.member? "detail")
      (status = some (.string "passed") ↔ report.outcome = .passed) ∧
      (status = some (.string "failed") ↔ ∃ failure, report.outcome = .failed failure) ∧
      (status = some (.string "fatal") ↔ ∃ reason, report.outcome = .fatal reason) ∧
      (detail = none ↔ report.outcome = .passed) ∧
      (∀ failure, report.outcome = .failed failure → ∃ members, detail = some (.object members) ∧
        Json.lookup "kind" members = some (.string failure.kind)) ∧
      (∀ reason, report.outcome = .fatal reason → detail = some (.string reason)) ∧
      report.toJson.member? "teardown_error" = report.teardownError.map Json.string := by
  refine ⟨UnitReport.recovers, Capture.recovers, Credentials.recovers, Link.recovers, ?_⟩
  intro report
  rw [report.member?_outcome, report.member?_teardownError]
  cases report.outcome with
  | passed => simp [UnitOutcome.toJson, Json.member?, Json.lookup]
  | failed failure =>
    simpa [UnitOutcome.toJson, Json.member?, Json.lookup] using failure.lookup_kind
  | fatal reason => simp [UnitOutcome.toJson, Json.member?, Json.lookup]

/-- The report of a unit that was given up for a reason that reads like a failed assertion. -/
def UnitReport.misleading : UnitReport :=
  ⟨"S version[GET]: Says \"no\"", .fatal (AssertionFailure.statusMismatch 200 500).toJson.compact,
    0xFFFFFFFFFFFFFFFF, some "C:\\temp\n"⟩

theorem Json.records_recovered_misleading :
    let report := UnitReport.misleading
    Json.read? report.toJson.indented = some report.toJson ∧
      UnitReport.ofJson? report.toJson = some report ∧
      (report.toJson.member? "outcome").bind (Json.member? "detail") =
        some (.string (AssertionFailure.statusMismatch 200 500).toJson.compact) := by
  obtain ⟨hreports, -, -, -, hshown⟩ := Json.records_recovered
  obtain ⟨htexts, hreport⟩ := hreports UnitReport.misleading
  obtain ⟨-, -, -, -, -, hreason, -⟩ := hshown UnitReport.misleading
  exact ⟨htexts _ (List.mem_cons_of_mem _ List.mem_cons_self), hreport, hreason _ rfl⟩

end RestConformance
