import RestConformance.Proofs.Text.Cutting
import RestConformance.Proofs.Url.Punycode

/-!
# Punycode of ascending labels

A label beyond ASCII whose code points ascend is written and read from its start to its end: each
number takes the insertion machine from one code point right to the next. So such a label reads
back, and the length of its Punycode can be told from the distances between its code points.

## Main definitions

* `Punycode.IsAscending t` – the code points of a label lie beyond ASCII and ascend;
* `Punycode.writeDistances` – the digits of the distances between ascending code points.

## Main results

* `Punycode.encode_ascending` – the Punycode of such a label are those digits;
* `Punycode.decode?_encode_ascending` – such a label reads back;
* `Punycode.length_encode_ascending` – distances of 30 and more take three digits, but for the first
  thirty.
-/

namespace RestConformance.Punycode

variable {t before after : Text} {bias n : Nat}

/-- The code points of a label lie beyond ASCII and ascend. -/
structure IsAscending (t : Text) : Prop where
  extended : ∀ c ∈ t, 0x80 ≤ c.toNat
  pairwise : t.Pairwise (·.toNat < ·.toNat)

/-- The digits of the distances from `n` over the code points of a list, where `placed` characters
stand before the first of them. -/
def writeDistances (bias n placed : Nat) : List Nat → Text
  | [] => []
  | m :: rest =>
    let delta := (m - n) * (placed + 1)
    writeNumber bias 36 delta ++
      writeDistances (adapt delta (placed + 1) (placed == 0)) m (placed + 1) rest

/-! ### Writing -/

/-- Characters below the one that is being placed are counted. -/
theorem foldl_pass_below (h : ∀ c ∈ t, c.toNat < n) (basic : Nat) (w : Writer) :
    t.foldl (Writer.pass basic n) w = { w with delta := w.delta + t.length } := by
  induction t generalizing w with
  | nil => rfl
  | cons c rest ih =>
    have hpass : w.pass basic n c = { w with delta := w.delta + 1 } :=
      if_pos (h c List.mem_cons_self)
    rw [List.foldl_cons, hpass, ih fun d hd => h d (List.mem_cons_of_mem c hd), List.length_cons]
    dsimp only
    rw [Nat.add_assoc, Nat.add_comm 1]

theorem foldl_pass_above (h : ∀ c ∈ t, n < c.toNat) (basic : Nat) (w : Writer) :
    t.foldl (Writer.pass basic n) w = w := by
  induction t with
  | nil => rfl
  | cons c rest ih =>
    have hc := h c List.mem_cons_self
    have hpass : w.pass basic n c = w := by
      rw [Writer.pass, if_neg (by omega), if_neg (by omega)]
    rw [List.foldl_cons, hpass, ih fun d hd => h d (List.mem_cons_of_mem c hd)]

/-- A character is written where it stands behind all that are placed. -/
theorem foldl_pass_split {c : Char} (hbefore : ∀ d ∈ before, d.toNat < c.toNat)
    (hafter : ∀ d ∈ after, c.toNat < d.toNat) (basic : Nat) (w : Writer) :
    (before ++ c :: after).foldl (Writer.pass basic c.toNat) w =
      { written := w.written ++ writeNumber w.bias 36 (w.delta + before.length)
        delta := 0
        bias := adapt (w.delta + before.length) (w.placed + 1) (w.placed == basic)
        placed := w.placed + 1 } := by
  have hpass : ∀ v : Writer, v.pass basic c.toNat c =
      { written := v.written ++ writeNumber v.bias 36 v.delta
        delta := 0
        bias := adapt v.delta (v.placed + 1) (v.placed == basic)
        placed := v.placed + 1 } := by
    intro v
    rw [Writer.pass, if_neg (Nat.lt_irrefl _), if_pos rfl]
  rw [List.foldl_append, List.foldl_cons, foldl_pass_below hbefore, hpass,
    foldl_pass_above hafter]

/-- The writer stands at the code point `base + walked`, and has counted the states from `base` to
there. -/
theorem place_ascending {base walked : Nat} {w : Writer}
    (hsorted : (before ++ after).Pairwise (·.toNat < ·.toNat))
    (hrest : ∀ c ∈ after, base + walked ≤ c.toNat) (hplaced : w.placed = before.length)
    (hdelta : w.delta + before.length = walked * (before.length + 1)) :
    (place (before ++ after) 0 (after.map Char.toNat) (base + walked) w).written =
      w.written ++ writeDistances w.bias base before.length (after.map Char.toNat) := by
  induction after generalizing before base walked w with
  | nil => exact (List.append_nil _).symm
  | cons c after ih =>
    -- What is placed lies below `c`, so a pass counts all of it and nothing behind `c`.
    obtain ⟨-, hafter, hcross⟩ := List.pairwise_append.1 hsorted
    have hbelow : ∀ d ∈ before, d.toNat < c.toNat := fun d hd => hcross d hd c List.mem_cons_self
    have habove := (List.pairwise_cons.1 hafter).1
    have hc := hrest c List.mem_cons_self
    have hnumber : w.delta + (c.toNat - (base + walked)) * (w.placed + 1) + before.length =
        (c.toNat - base) * (before.length + 1) := by
      have hsplit : c.toNat - base = (c.toNat - (base + walked)) + walked := by omega
      rw [hsplit, Nat.add_mul, hplaced, ← hdelta]
      omega
    have hagain : (before ++ [c]) ++ after = before ++ c :: after := by simp
    have hlength : (before ++ [c]).length = before.length + 1 := List.length_append
    have hlater : ∀ v : Writer, v.placed = before.length + 1 → v.delta = 1 →
        (place (before ++ c :: after) 0 (after.map Char.toNat) (c.toNat + 1) v).written =
          v.written ++
            writeDistances v.bias c.toNat (before.length + 1) (after.map Char.toNat) := by
      intro v hv hone
      rw [← hagain, ← hlength]
      refine ih ?_ habove (hv.trans hlength.symm) ?_
      · rw [hagain]
        exact hsorted
      · omega
    rw [List.map_cons, place, foldl_pass_split hbelow habove]
    dsimp only
    rw [hnumber, hplaced, hlater _ rfl rfl, writeDistances, List.append_assoc]

theorem insert_below {points : List Nat} (h : ∀ m ∈ points, n < m) :
    insert n points = n :: points := by
  cases points with
  | nil => rfl
  | cons m rest => exact if_pos (h m List.mem_cons_self)

/-- The code points of an ascending label are in order already. -/
theorem extended_ascending (h : IsAscending t) : extended t = t.map Char.toNat := by
  have hall : t.filter (fun c => 0x80 ≤ c.toNat) = t :=
    List.filter_eq_self.2 fun c hc => decide_eq_true (h.extended c hc)
  rw [extended, hall]
  have hsorted := h.pairwise
  clear h hall
  induction t with
  | nil => rfl
  | cons c rest ih =>
    obtain ⟨hc, hrest⟩ := List.pairwise_cons.1 hsorted
    rw [List.map_cons, List.foldr_cons, ih hrest]
    refine insert_below fun m hm => ?_
    obtain ⟨d, hd, rfl⟩ := List.mem_map.1 hm
    exact hc d hd

/-- The Punycode of an ascending label are the digits of the distances in it. -/
theorem encode_ascending (h : IsAscending t) :
    encode t = writeDistances 72 0x80 0 (t.map Char.toNat) := by
  have hbasic : t.filter (fun c => c.toNat < 0x80) = [] := by
    rw [List.filter_eq_nil_iff]
    intro c hc hlow
    exact absurd (of_decide_eq_true hlow) (Nat.not_lt.2 (h.extended c hc))
  rw [encode, hbasic, extended_ascending h]
  show (place ([] ++ t) 0 (t.map Char.toNat) (0x80 + 0) ⟨[], 0, 72, ([] : Text).length⟩).written =
    [] ++ writeDistances 72 0x80 ([] : Text).length (t.map Char.toNat)
  exact place_ascending h.pairwise h.extended rfl rfl

/-! ### Reading -/

theorem writeNumber_ne_nil (bias k n : Nat) : writeNumber bias k n ≠ [] := by
  rw [writeNumber]
  split <;> exact List.cons_ne_nil _ _

theorem isScalar_toNat (c : Char) : isScalar c.toNat = true := by
  have hvalid := c.valid
  rw [isScalar, Bool.or_eq_true, Bool.and_eq_true, decide_eq_true_eq, decide_eq_true_eq,
    decide_eq_true_eq]
  rcases hvalid with hlow | ⟨hlow, hhigh⟩
  · exact .inl hlow
  · exact .inr ⟨hlow, hhigh⟩

/-- A number is read, and the character that it writes is placed. -/
theorem readPlaces_writeNumber {i count delta position : Nat} {c : Char} {placed : Text}
    (hcount : count = placed.length + 1) (hpoint : n + (i + delta) / count = c.toNat)
    (hposition : (i + delta) % count = position) (rest : Text) :
    readPlaces bias n i placed (writeNumber bias 36 delta ++ rest) =
      readPlaces (adapt delta count (i == 0)) c.toNat (position + 1) (placed.insertIdx position c)
        rest := by
  have hnumber := readNumber_writeNumber bias delta 36 1 i rest
  rw [Nat.mul_one] at hnumber
  obtain ⟨d, more, hchars⟩ := List.exists_cons_of_ne_nil (writeNumber_ne_nil bias 36 delta)
  rw [hchars, List.cons_append] at hnumber ⊢
  rw [readPlaces]
  split
  · next hnone =>
    rw [hnumber] at hnone
    cases hnone
  · next j left hsome =>
    rw [hnumber] at hsome
    obtain ⟨rfl, rfl⟩ := Prod.mk.inj (Option.some.inj hsome)
    dsimp only
    rw [← hcount, hpoint, hposition, if_pos (isScalar_toNat c), Char.ofNat_toNat,
      Nat.add_sub_cancel_left]

/-- Distances are read behind the characters that are placed. -/
theorem readPlaces_writeDistances (hsorted : after.Pairwise (·.toNat < ·.toNat))
    (hrest : ∀ c ∈ after, n ≤ c.toNat) :
    readPlaces bias n before.length before
      (writeDistances bias n before.length (after.map Char.toNat)) = some (before ++ after) := by
  induction after generalizing before bias n with
  | nil =>
    rw [List.map_nil, writeDistances, readPlaces, List.append_nil]
  | cons c after ih =>
    obtain ⟨habove, hafter⟩ := List.pairwise_cons.1 hsorted
    have hc := hrest c List.mem_cons_self
    -- The number leads to the code point of `c`, and to the place behind all that are placed.
    have hwhole : before.length + (c.toNat - n) * (before.length + 1) =
        before.length + (before.length + 1) * (c.toNat - n) := by
      rw [Nat.mul_comm]
    have hpoint : n + (before.length + (c.toNat - n) * (before.length + 1)) / (before.length + 1) =
        c.toNat := by
      rw [hwhole, Nat.add_mul_div_left _ _ (Nat.succ_pos _),
        Nat.div_eq_of_lt (Nat.lt_succ_self _)]
      omega
    have hposition : (before.length + (c.toNat - n) * (before.length + 1)) % (before.length + 1) =
        before.length := by
      rw [hwhole, Nat.add_mul_mod_self_left, Nat.mod_eq_of_lt (Nat.lt_succ_self _)]
    have hinsert : before.insertIdx before.length c = before ++ [c] := List.insertIdx_length_self
    have hagain : before ++ c :: after = (before ++ [c]) ++ after := by simp
    have hlength : (before ++ [c]).length = before.length + 1 := List.length_append
    rw [List.map_cons, writeDistances, readPlaces_writeNumber rfl hpoint hposition, hinsert, hagain,
      ← hlength]
    exact ih hafter fun d hd => Nat.le_of_lt (habove d hd)

theorem notMem_writeDistances (bias n placed : Nat) (points : List Nat) :
    '-' ∉ writeDistances bias n placed points := by
  induction points generalizing bias n placed with
  | nil => exact List.not_mem_nil
  | cons m rest ih =>
    intro hmem
    rcases List.mem_append.1 hmem with hnumber | hrest
    · obtain ⟨d, hd, heq⟩ := mem_writeNumber hnumber
      have table : ∀ k ∈ List.range 36, digitChar k ≠ '-' := by decide
      exact table d (List.mem_range.2 hd) heq.symm
    · exact ih _ _ _ hrest

/-- An ascending label reads back. -/
theorem decode?_encode_ascending (h : IsAscending t) : decode? (encode t) = some t := by
  rw [encode_ascending h, decode?, Text.splitLast_of_notMem (notMem_writeDistances _ _ _ _)]
  refine (if_pos rfl).trans ?_
  show readPlaces 72 0x80 ([] : Text).length []
    (writeDistances 72 0x80 ([] : Text).length (t.map Char.toNat)) = some ([] ++ t)
  exact readPlaces_writeDistances h.pairwise h.extended

/-! ### The length of a label -/

theorem three_le_length_writeNumber (bias k : Nat) (h : 911 ≤ n) :
    3 ≤ (writeNumber bias k n).length := by
  have hlow := one_le_threshold k bias
  have hhigh := threshold_le k bias
  have hnext := threshold_le (k + 36) bias
  have hdiv : 26 ≤ (n - threshold k bias) / (36 - threshold k bias) := by
    rw [Nat.le_div_iff_mul_le (by omega)]
    omega
  rw [writeNumber, if_neg (by omega), List.length_cons, writeNumber, if_neg (by omega),
    List.length_cons]
  have hlast := List.length_pos_iff.2 (writeNumber_ne_nil bias (k + 36 + 36)
    (((n - threshold k bias) / (36 - threshold k bias) - threshold (k + 36) bias) /
      (36 - threshold (k + 36) bias)))
  omega

/-- Behind thirty characters a distance of thirty takes three digits. -/
theorem length_writeDistances {points : List Nat} {placed : Nat} (hstep : ∀ m ∈ points, n + 30 ≤ m)
    (hsteps : points.Pairwise fun m l => m + 30 ≤ l) :
    3 * points.length ≤ (writeDistances bias n placed points).length + 3 * (30 - placed) := by
  induction points generalizing bias n placed with
  | nil => exact Nat.zero_le _
  | cons m rest ih =>
    obtain ⟨hm, hrest⟩ := List.pairwise_cons.1 hsteps
    have hfar := hstep m List.mem_cons_self
    have hlater : 3 * rest.length ≤
        (writeDistances (adapt ((m - n) * (placed + 1)) (placed + 1) (placed == 0)) m (placed + 1)
          rest).length + 3 * (30 - (placed + 1)) := ih hm hrest
    rw [writeDistances, List.length_append, List.length_cons]
    -- The last summand pays for the first thirty characters, whatever length they have.
    by_cases hearly : placed < 30
    · omega
    · have hlarge : 30 * 31 ≤ (m - n) * (placed + 1) :=
        Nat.mul_le_mul (by omega) (by omega)
      have hthree := three_le_length_writeNumber bias 36 (Nat.le_trans (by decide) hlarge)
      omega

/-- The Punycode of an ascending label with wide gaps takes three digits a character, but for the
first thirty. -/
theorem length_encode_ascending (h : IsAscending t) (hfirst : ∀ c ∈ t, 0x80 + 30 ≤ c.toNat)
    (hgaps : t.Pairwise fun c d => c.toNat + 30 ≤ d.toNat) :
    3 * t.length ≤ (encode t).length + 90 := by
  rw [encode_ascending h]
  have hlength : 3 * (t.map Char.toNat).length ≤
      (writeDistances 72 0x80 0 (t.map Char.toNat)).length + 3 * (30 - 0) := by
    refine length_writeDistances (fun m hm => ?_) (List.pairwise_map.2 hgaps)
    obtain ⟨c, hc, rfl⟩ := List.mem_map.1 hm
    exact hfirst c hc
  rwa [List.length_map] at hlength

end RestConformance.Punycode
