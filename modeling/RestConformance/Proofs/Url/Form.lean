import RestConformance.Proofs.Text.Cutting
import RestConformance.Proofs.Url.Escapes
import RestConformance.Proofs.Url.Web
import RestConformance.Url.Basic

/-!
# Form encoding read back

A component reads back whatever characters it has, and its written form holds neither of the signs
that pairs are cut at. So a pair that is put behind a query is read as one more pair, and all that
was read of the query before is read again, however odd the query is.

## Main results

* `Form.decode_encode` – a component reads back;
* `Form.pairs_append` – a query with one more pair at its end is read as its pairs and this one;
* `Url.IsWeb.addPair` – an address of the web stays one when its query gets a pair.
-/

namespace RestConformance

namespace Form

variable {b : UInt8} {c : Char} {t : Text} {bytes : Bytes}

/-! ### Components -/

/-- What a character of a component is read as before escapes are. -/
def unplus (c : Char) : Char :=
  if c = '+' then ' ' else c

/-- No sign of a percent-encoded byte is a plus. -/
theorem map_unplus_encodeByte (b : UInt8) :
    (Percent.encodeByte b).map unplus = Percent.encodeByte b := by
  have hsigns : ∀ c ∈ Percent.signs, unplus c = c := by decide
  conv_rhs => rw [← List.map_id (Percent.encodeByte b)]
  exact List.map_congr_left fun c hc => hsigns c (Percent.mem_encodeByte hc)

/-- A byte that stands for itself is that of a character which is neither a plus nor a percent
sign. -/
theorem unplus_of_isPlain (h : isPlain b = true) :
    unplus (Char.ofNat b.toNat) = Char.ofNat b.toNat ∧ Char.ofNat b.toNat ≠ '%' ∧
      String.utf8EncodeChar (Char.ofNat b.toNat) = [b] := by
  have table : ∀ b : UInt8, isPlain b = true →
      unplus (Char.ofNat b.toNat) = Char.ofNat b.toNat ∧ Char.ofNat b.toNat ≠ '%' ∧
        String.utf8EncodeChar (Char.ofNat b.toNat) = [b] :=
    Utf8.forall_byte (by decide +kernel)
  exact table b h

/-- The written form of a byte is read as this byte, whatever follows. -/
theorem decodes_encodeByte (h : Percent.Decodes t bytes) (b : UInt8) :
    Percent.Decodes ((encodeByte b).map unplus ++ t) (b :: bytes) := by
  unfold encodeByte
  split
  · next hplain =>
    obtain ⟨hplus, hsign, hbyte⟩ := unplus_of_isPlain hplain
    have hstep := Percent.Decodes.char (fun heq => absurd heq hsign) h
    rw [hbyte] at hstep
    rw [List.map_singleton, hplus]
    exact hstep
  · split
    · next hspace =>
      rw [beq_iff_eq.1 hspace]
      exact .char (c := ' ') (fun heq => absurd heq (by decide)) h
    · rw [map_unplus_encodeByte]
      have hstep := h.encodeBytes [b]
      rwa [List.flatMap_singleton] at hstep

theorem decodes_encodeBytes (bytes : Bytes) :
    Percent.Decodes ((bytes.flatMap encodeByte).map unplus) bytes := by
  induction bytes with
  | nil => exact .nil
  | cons b rest ih =>
    rw [List.flatMap_cons, List.map_append]
    exact decodes_encodeByte ih b

/-- A component reads back. -/
theorem decode_encode (t : Text) : decode (encode t) = t := by
  show Utf8.decodeLossy (Percent.decode ((encode t).map unplus)) = t
  rw [encode, (decodes_encodeBytes (Utf8.encode t)).decode_eq, Utf8.decodeLossy_encode]

/-- The written form of a component holds no sign that queries are cut at, and nothing that is
encoded in them. -/
theorem mem_encode (h : c ∈ encode t) :
    c ≠ '&' ∧ c ≠ '=' ∧ Percent.specialQuery c = false := by
  have hplain : ∀ b : UInt8, isPlain b = true →
      Char.ofNat b.toNat ≠ '&' ∧ Char.ofNat b.toNat ≠ '=' ∧
        Percent.specialQuery (Char.ofNat b.toNat) = false :=
    Utf8.forall_byte (by decide +kernel)
  have hsigns : ∀ c ∈ '+' :: Percent.signs,
      c ≠ '&' ∧ c ≠ '=' ∧ Percent.specialQuery c = false := by
    decide
  obtain ⟨b, -, hc⟩ := List.mem_flatMap.1 h
  unfold encodeByte at hc
  split at hc
  · next hself =>
    rw [List.mem_singleton.1 hc]
    exact hplain b hself
  · split at hc
    · rw [List.mem_singleton.1 hc]
      exact hsigns '+' List.mem_cons_self
    · exact hsigns c (List.mem_cons_of_mem _ (Percent.mem_encodeByte hc))

/-! ### Pairs -/

variable (name value : Text)

theorem pair_encode : pair (encode name ++ '=' :: encode value) = (name, value) := by
  have hname : '=' ∉ encode name := fun hmem => (mem_encode hmem).2.1 rfl
  rw [pair, Text.splitFirst_append hname]
  dsimp only
  rw [decode_encode, decode_encode]

theorem pairs_encode : pairs (encode name ++ '=' :: encode value) = [(name, value)] := by
  have hwhole : '&' ∉ encode name ++ '=' :: encode value := by
    intro hmem
    rcases List.mem_append.1 hmem with hin | hin
    · exact (mem_encode hin).1 rfl
    · exact (mem_encode ((List.mem_cons.1 hin).resolve_left (by decide))).1 rfl
  have hsome : (encode name ++ '=' :: encode value).isEmpty = false := by simp
  rw [pairs, Text.splitAll_of_notMem hwhole, List.filter_cons_of_pos (by simp), List.filter_nil,
    List.map_singleton, pair_encode]

/-- What stands on either side of a separator is read on its own. -/
theorem pairs_append_separator (first second : Text) :
    pairs (first ++ '&' :: second) = pairs first ++ pairs second := by
  rw [pairs, Text.splitAll_append_separator, List.filter_append, List.map_append]
  rfl

/-- A query with one more pair at its end is read as its pairs and this one. -/
theorem pairs_append (query : Text) :
    pairs (append query name value) = pairs query ++ [(name, value)] := by
  have hpair := pairs_encode name value
  unfold append
  -- Only where something is written already is there a separator, and it may follow another one.
  cases query with
  | nil => exact hpair
  | cons c rest =>
    rw [List.isEmpty_cons, if_neg Bool.false_ne_true, List.append_assoc, List.append_assoc,
      List.singleton_append, pairs_append_separator, hpair]

end Form

namespace Url

variable {u : Url} {a : Authority} {host : Host} (name value : Text)

theorem pairs_addPair (u : Url) : (u.addPair name value).pairs = u.pairs ++ [(name, value)] := by
  show Form.pairs (Form.append (u.query.getD []) name value) = _
  rw [Form.pairs_append, pairs]
  cases u.query <;> rfl

/-- An address of the web stays one when its query gets a pair. -/
theorem IsWeb.addPair (h : u.IsWeb a host) : (u.addPair name value).IsWeb a host where
  http := h.http
  authority_eq := h.authority_eq
  authority := h.authority
  path := h.path
  query := by
    intro q hq c hc
    obtain rfl := Option.some.inj hq
    have hold : ∀ c ∈ u.query.getD [], Percent.specialQuery c = false := by
      cases hquery : u.query with
      | none => exact nofun
      | some old => exact h.query old hquery
    rw [Form.append, List.mem_append, List.mem_append, List.mem_append, List.mem_cons] at hc
    rcases hc with ((hc | hc) | hc) | rfl | hc
    · exact hold c hc
    · split at hc
      · cases hc
      · rw [List.mem_singleton.1 hc]
        decide
    · exact (Form.mem_encode hc).2.2
    · decide
    · exact (Form.mem_encode hc).2.2
  fragment := h.fragment

end Url

end RestConformance
