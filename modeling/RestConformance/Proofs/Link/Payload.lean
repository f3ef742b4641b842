import Mathlib.Data.List.Nodup
import RestConformance.Proofs.Json.Reading
import RestConformance.Proofs.Link.Groups
import RestConformance.Proofs.Text.Utf8
import RestConformance.Suite.FixtureClient

/-!
# Posted links

The document that a link is saved with says all that there is to say of the link. Its text is read
back as the document, and the document gives back the name, the connector and the inputs: they are
spread over the groups, but none is lost and none comes twice.

## Main definitions

* `Link.contents? document` – what a document says of a link;
* `Link.posted answer base link` – the requests that saving a link sends.

## Main results

* `Inputs.ofList_of_perm` – inputs are the same map in whichever order they come;
* `Inputs.eq_of_get?` – a map is known by what is found in it;
* `Link.contents?_document` – what the document of a link says;
* `Link.posted_recovers` – the link is recovered from the bytes that are posted.
-/

namespace RestConformance

/-! ### Inputs in any order -/

namespace Inputs

variable {name value : String} {entries pairs : List (String × String)}

theorem perm_insertEntry (h : name ∉ entries.map Prod.fst) :
    (insertEntry name value entries).Perm ((name, value) :: entries) := by
  induction entries with
  | nil => exact .refl _
  | cons first rest ih =>
    obtain ⟨key, old⟩ := first
    rw [List.map_cons, List.mem_cons, not_or] at h
    rw [insertEntry]
    split
    · exact .refl _
    · rw [if_neg h.1]
      exact ((ih h.2).cons _).trans (.swap _ _ _)

theorem perm_foldl_set (inputs : Inputs) (h : ((inputs.entries ++ pairs).map Prod.fst).Nodup) :
    (pairs.foldl (fun inputs entry => inputs.set entry.1 entry.2) inputs).entries.Perm
      (inputs.entries ++ pairs) := by
  induction pairs generalizing inputs with
  | nil => rw [List.append_nil]; exact .refl _
  | cons entry rest ih =>
    have hnew : entry.1 ∉ inputs.entries.map Prod.fst := by
      rw [List.map_append, List.map_cons] at h
      exact fun hmem => (List.nodup_cons.1 (List.nodup_middle.1 h)).1 (List.mem_append_left _ hmem)
    have hset : (inputs.set entry.1 entry.2).entries.Perm (entry :: inputs.entries) :=
      perm_insertEntry hnew
    have hperm : ((inputs.set entry.1 entry.2).entries ++ rest).Perm
        (inputs.entries ++ entry :: rest) :=
      (hset.append_right rest).trans List.perm_middle.symm
    exact (ih _ ((hperm.map _).nodup_iff.2 h)).trans hperm

theorem nodup_keys (inputs : Inputs) : (inputs.entries.map Prod.fst).Nodup := by
  refine List.pairwise_map.2 (inputs.sorted.imp fun hlt heq => ?_)
  rw [heq] at hlt
  exact String.lt_irrefl _ hlt

/-- Inputs are the same map in whichever order they come. -/
theorem ofList_of_perm {inputs : Inputs} (h : pairs.Perm inputs.entries) :
    ofList pairs = inputs := by
  have hnodup : (pairs.map Prod.fst).Nodup := (h.map _).nodup_iff.2 inputs.nodup_keys
  have hperm : (ofList pairs).entries.Perm inputs.entries := (perm_foldl_set empty hnodup).trans h
  refine ext (hperm.eq_of_pairwise (fun a b _ _ hab hba => ?_) (ofList pairs).sorted inputs.sorted)
  exact absurd (String.lt_trans hab hba) (String.lt_irrefl _)

theorem mem_entries_iff (inputs : Inputs) :
    (name, value) ∈ inputs.entries ↔ inputs.get? name = some value := by
  rw [get?, List.lookup_eq_some_iff]
  constructor
  · intro hmem
    obtain ⟨before, after, hsplit⟩ := List.append_of_mem hmem
    refine ⟨before, after, hsplit, fun entry hentry => bne_iff_ne.2 fun heq => ?_⟩
    have hnodup := inputs.nodup_keys
    rw [hsplit, List.map_append, List.map_cons] at hnodup
    refine (List.nodup_cons.1 (List.nodup_middle.1 hnodup)).1 (List.mem_append_left _ ?_)
    exact List.mem_map.2 ⟨entry, hentry, heq.symm⟩
  · rintro ⟨before, after, hsplit, -⟩
    rw [hsplit]
    exact List.mem_append_right _ List.mem_cons_self

/-- Inputs are the same map if the same is found under each name. -/
theorem eq_of_get? {a b : Inputs} (h : ∀ name, a.get? name = b.get? name) : a = b := by
  have hperm : a.entries.Perm b.entries := by
    refine (List.perm_ext_iff_of_nodup (.of_map _ a.nodup_keys) (.of_map _ b.nodup_keys)).2 ?_
    intro entry
    rw [mem_entries_iff, mem_entries_iff, h]
  exact (ofList_of_perm (.refl _)).symm.trans (ofList_of_perm hperm)

end Inputs

/-! ### Reading documents -/

namespace Json

/-- The items that an array holds. -/
def items? : Json → Option (List Json)
  | .array items => some items
  | _ => none

/-- The string that a member of an object is. -/
def text? (name : String) (value : Json) : Option String :=
  (value.member? name).bind string?

end Json

namespace InputGroup

/-- What a document says of an input. -/
def pair? (input : Json) : Option (String × String) :=
  return (← input.text? "name", ← input.text? "value")

/-- What a document says of the inputs of a group. -/
def inputs? (group : Json) : Option (List (String × String)) := do
  (← (← group.member? "inputs").items?).mapM pair?

theorem inputs?_toJson (group : InputGroup) : inputs? group.toJson = some group.inputs := by
  have hmember : group.toJson.member? "inputs" = some (.array (group.inputs.map fun entry =>
      .object [("name", .string entry.1), ("value", .string entry.2)])) := rfl
  have hentry : (pair? ∘ fun entry : String × String =>
      Json.object [("name", .string entry.1), ("value", .string entry.2)]) = pure := rfl
  rw [inputs?, hmember]
  show List.mapM pair? (group.inputs.map _) = _
  rw [List.mapM_map, hentry, List.mapM_pure]
  exact congrArg some (List.map_id _)

theorem isWhole_toJson (group : InputGroup) : group.toJson.IsWhole := by
  simp only [toJson, Json.isWhole_object_iff, Json.isWhole_array_iff, Json.isWhole_string,
    List.forall_mem_cons, List.forall_mem_map, List.not_mem_nil, implies_true, and_true,
    false_implies]

end InputGroup

namespace Link

/-- What a document says of a link: its name, its connector and the inputs of all groups. -/
def contents? (document : Json) : Option (String × String × List (String × String)) := do
  let link ← document.member? "link"
  let groups ← (← (← link.member? "link-config-values").member? "configs").items?
  return (← link.text? "name", ← link.text? "connector-name",
    (← groups.mapM InputGroup.inputs?).flatten)

variable (link : Link)

theorem contents?_document : contents? link.document =
    some (link.name, link.connectorName, link.groups.flatMap (·.inputs)) := by
  have hgroups : (link.groups.map InputGroup.toJson).mapM InputGroup.inputs? =
      some (link.groups.map (·.inputs)) := by
    have hinputs : InputGroup.inputs? ∘ InputGroup.toJson = fun group => pure group.inputs :=
      funext InputGroup.inputs?_toJson
    rw [List.mapM_map, hinputs]
    exact List.mapM_pure
  -- All members are found under the names that they are written under.
  have hfound : contents? link.document =
      ((link.groups.map InputGroup.toJson).mapM InputGroup.inputs?).bind fun inputs =>
        some (link.name, link.connectorName, inputs.flatten) := rfl
  rw [hfound, hgroups, Option.bind_some, List.flatMap_def]

theorem isWhole_document : link.document.IsWhole := by
  simp [document, InputGroup.isWhole_toJson]

/-- The document is read back from the bytes that a link is saved with. -/
theorem read?_payload :
    (Utf8.decodeString? link.payload).bind Json.read? = some link.document := by
  have htext : Utf8.decodeString? link.payload = some link.document.compact := by
    rw [Utf8.decodeString?, payload, Utf8.encodeString, Utf8.decode?_encode, Option.map_some,
      String.ofList_toList, payloadText]
  rw [htext, Option.bind_some, Json.read?_compact link.isWhole_document]

/-! ### Posted bytes -/

/-- The requests that saving a link sends, if the executor answers by `answer`. -/
def posted (answer : Http.Request → Outcome Http.Failure Capture) (base : String) :
    List Http.Request :=
  let execute : Executor (StateM (List Http.Request)) := fun request =>
    modifyGet fun requests => (answer request, requests ++ [request])
  ((restFixtureClient execute (fun _ => pure ()) base).save link |>.run []).2

theorem ofList_groups : Inputs.ofList (link.groups.flatMap (·.inputs)) = link.inputs :=
  Inputs.ofList_of_perm link.grouped.perm

theorem payload_injective : Function.Injective payload := by
  intro a b heq
  have hdocument : some a.document = some b.document := by
    rw [← read?_payload, heq, read?_payload]
  have hcontents : contents? a.document = contents? b.document :=
    congrArg contents? (Option.some.inj hdocument)
  rw [contents?_document, contents?_document, Option.some.injEq, Prod.mk.injEq,
    Prod.mk.injEq] at hcontents
  obtain ⟨hname, hconnector, hpairs⟩ := hcontents
  have hinputs : a.inputs = b.inputs := by
    rw [← a.ofList_groups, hpairs, b.ofList_groups]
  cases a
  cases b
  simp_all

/-- Saving a link posts its bytes, once and whatever the answer is. They are the text of a document
that gives back the name, the connector and all inputs, none of them twice, and no other link has
the same bytes. -/
theorem posted_recovers (answer : Http.Request → Outcome Http.Failure Capture) (base : String) :
    link.posted answer base =
      [⟨.post, Http.resolvePath base "v1/link", some link.payload⟩] ∧
    (∃ document pairs, (Utf8.decodeString? link.payload).bind Json.read? = some document ∧
      contents? document = some (link.name, link.connectorName, pairs) ∧
      (pairs.map Prod.fst).Nodup ∧ Inputs.ofList pairs = link.inputs) ∧
    ∀ other : Link, other.payload = link.payload ↔ other = link := by
  refine ⟨rfl, ⟨link.document, link.groups.flatMap (·.inputs), link.read?_payload,
    link.contents?_document, ?_, link.ofList_groups⟩, fun other => payload_injective.eq_iff⟩
  exact (link.grouped.perm.map _).nodup_iff.2 link.inputs.nodup_keys

end Link

end RestConformance
