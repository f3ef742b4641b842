import RestConformance.Proofs.Text.Cutting
import RestConformance.Proofs.Text.Digits
import RestConformance.Url.Ipv6

/-!
# Addresses of eight pieces read back

The written form of an address of version 6 gives the address again, whether zeros are left out of
it or not.

## Main results

* `Ipv6.readPieces_writePieces` – pieces with colons between them read back;
* `Ipv6.longestZeros_split` – the pieces around the zeros that are left out;
* `Ipv6.read?_write` – the written form reads back.
-/

namespace RestConformance.Ipv6

/-! ### One piece -/

theorem isSome_value?_of_mem_lowerDigits {n : Nat} {c : Char}
    (h : c ∈ Hexadecimal.lowerDigits n) : (Hexadecimal.value? c).isSome = true := by
  obtain ⟨d, hd, rfl⟩ := Hexadecimal.mem_lowerDigits h
  rw [Hexadecimal.value?_lowerDigit hd]
  rfl

theorem ne_colon_of_mem_lowerDigits {n : Nat} {c : Char} (h : c ∈ Hexadecimal.lowerDigits n) :
    c ≠ ':' := by
  rintro rfl
  exact absurd (isSome_value?_of_mem_lowerDigits h) (by decide)

theorem length_lowerDigits_piece (p : UInt16) :
    (Hexadecimal.lowerDigits p.toNat).length ≤ 4 :=
  Hexadecimal.length_lowerDigits (by decide) p.toNat_lt

theorem piece_lowerDigits (p : UInt16) : piece (Hexadecimal.lowerDigits p.toNat) = p := by
  rw [piece, Hexadecimal.number?_lowerDigits]
  exact UInt16.ofNat_toNat

/-- The digits of a piece end where no digit follows. -/
theorem leadingDigits_append (p : UInt16) {rest : Text}
    (hrest : ∀ c, rest.head? = some c → Hexadecimal.value? c = none) :
    leadingDigits (Hexadecimal.lowerDigits p.toNat ++ rest) = Hexadecimal.lowerDigits p.toNat := by
  have hall : ∀ c ∈ Hexadecimal.lowerDigits p.toNat, (Hexadecimal.value? c).isSome = true :=
    fun _ hc => isSome_value?_of_mem_lowerDigits hc
  have hnone : (rest.take (4 - (Hexadecimal.lowerDigits p.toNat).length)).takeWhile
      (fun c => (Hexadecimal.value? c).isSome) = [] := by
    cases rest with
    | nil => rw [List.take_nil, List.takeWhile_nil]
    | cons c more =>
      cases 4 - (Hexadecimal.lowerDigits p.toNat).length with
      | zero => rfl
      | succ k =>
        rw [List.take_succ_cons, List.takeWhile_cons, hrest c rfl]
        rfl
  rw [leadingDigits, List.take_append, List.take_of_length_le (length_lowerDigits_piece p),
    List.takeWhile_append_of_pos hall, hnone, List.append_nil]

/-- Where digits follow, the next character behind them decides how to go on. -/
theorem readPieces_digits {c : Char} {rest : Text} {found : Reading} (hcolon : c ≠ ':')
    (hroom : found.pieces.length < 8) (hdigits : leadingDigits (c :: rest) ≠ []) :
    readPieces (c :: rest) found =
      match rest.drop ((leadingDigits (c :: rest)).length - 1) with
      | [] => some ⟨found.pieces ++ [piece (leadingDigits (c :: rest))], found.gap⟩
      | ':' :: more =>
        if more.isEmpty then none
        else readPieces more ⟨found.pieces ++ [piece (leadingDigits (c :: rest))], found.gap⟩
      | '.' :: _ =>
        if found.pieces.length ≤ 6 then
          (dotted? (c :: rest)).map fun last => ⟨found.pieces ++ last, found.gap⟩
        else none
      | _ => none := by
  have hsome : ¬(leadingDigits (c :: rest)).isEmpty = true := by
    rw [List.isEmpty_iff]
    exact hdigits
  rw [readPieces]
  · rw [if_neg (by omega)]
    dsimp only
    rw [if_neg hsome]
    split <;> split <;> simp_all
  · exact hcolon

theorem exists_digits (p : UInt16) : ∃ c rest, Hexadecimal.lowerDigits p.toNat = c :: rest ∧
    c ≠ ':' := by
  obtain ⟨c, rest, hdigits⟩ := List.exists_cons_of_ne_nil (Hexadecimal.lowerDigits_ne_nil p.toNat)
  exact ⟨c, rest, hdigits, ne_colon_of_mem_lowerDigits (hdigits ▸ List.mem_cons_self)⟩

theorem readPieces_last (p : UInt16) {found : Reading} (hroom : found.pieces.length < 8) :
    readPieces (Hexadecimal.lowerDigits p.toNat) found =
      some ⟨found.pieces ++ [p], found.gap⟩ := by
  obtain ⟨c, rest, hdigits, hcolon⟩ := exists_digits p
  have hleading : leadingDigits (c :: rest) = c :: rest := by
    have hstop : ∀ d, ([] : Text).head? = some d → Hexadecimal.value? d = none := nofun
    have h := leadingDigits_append p hstop
    rwa [List.append_nil, hdigits] at h
  have hpiece := piece_lowerDigits p
  rw [hdigits] at hpiece ⊢
  have hend : rest.drop ((c :: rest).length - 1) = [] := List.drop_length
  have hsome : leadingDigits (c :: rest) ≠ [] := by
    rw [hleading]
    exact List.cons_ne_nil _ _
  rw [readPieces_digits hcolon hroom hsome, hleading, hend, hpiece]

theorem readPieces_cons (p : UInt16) {found : Reading} {more : Text} (hmore : more ≠ [])
    (hroom : found.pieces.length < 8) :
    readPieces (Hexadecimal.lowerDigits p.toNat ++ ':' :: more) found =
      readPieces more ⟨found.pieces ++ [p], found.gap⟩ := by
  obtain ⟨c, rest, hdigits, hcolon⟩ := exists_digits p
  have hleading : leadingDigits (c :: (rest ++ ':' :: more)) = c :: rest := by
    have hstop : ∀ d, (':' :: more).head? = some d → Hexadecimal.value? d = none := by
      rintro _ ⟨⟩
      decide
    have h := leadingDigits_append p hstop
    rwa [hdigits] at h
  have hpiece := piece_lowerDigits p
  rw [hdigits] at hpiece ⊢
  have hbehind : (rest ++ ':' :: more).drop ((c :: rest).length - 1) = ':' :: more :=
    List.drop_left
  have hsome : leadingDigits (c :: (rest ++ ':' :: more)) ≠ [] := by
    rw [hleading]
    exact List.cons_ne_nil _ _
  rw [List.cons_append, readPieces_digits hcolon hroom hsome, hleading, hbehind, hpiece]
  exact if_neg (by rwa [List.isEmpty_iff])

/-- Two colons, of which the first one ended a piece, leave room for zeros. -/
theorem readPieces_gap {pieces : List UInt16} (hroom : pieces.length < 8) (rest : Text) :
    readPieces (':' :: rest) ⟨pieces, none⟩ =
      readPieces rest ⟨pieces ++ [0], some (pieces.length + 1)⟩ := by
  rw [readPieces]
  refine if_neg ?_
  rintro (hfull | hgap)
  · exact absurd hfull (Nat.ne_of_lt hroom)
  · exact absurd hgap Bool.false_ne_true

/-! ### Several pieces -/

theorem writePieces_cons_cons (p q : UInt16) (ps : List UInt16) :
    writePieces (p :: q :: ps) =
      Hexadecimal.lowerDigits p.toNat ++ ':' :: writePieces (q :: ps) := by
  show Hexadecimal.lowerDigits p.toNat ++ [':'] ++ writePieces (q :: ps) = _
  rw [List.append_assoc]
  rfl

theorem writePieces_ne_nil {pieces : List UInt16} (h : pieces ≠ []) : writePieces pieces ≠ [] := by
  obtain ⟨p, rest, rfl⟩ := List.exists_cons_of_ne_nil h
  cases rest with
  | nil => exact Hexadecimal.lowerDigits_ne_nil _
  | cons q more =>
    rw [writePieces_cons_cons]
    exact List.append_ne_nil_of_right_ne_nil _ (List.cons_ne_nil _ _)

/-- Pieces with colons between them read back. -/
theorem readPieces_writePieces (pieces : List UInt16) {found : Reading}
    (hroom : found.pieces.length + pieces.length ≤ 8) :
    readPieces (writePieces pieces) found = some ⟨found.pieces ++ pieces, found.gap⟩ := by
  -- What was found grows with each piece, so the induction is for all of it.
  induction pieces generalizing found with
  | nil =>
    rw [show writePieces [] = [] from rfl, readPieces, List.append_nil]
  | cons p rest ih =>
    rw [List.length_cons] at hroom
    cases rest with
    | nil => exact readPieces_last p (by omega)
    | cons q more =>
      have hstep : (found.pieces ++ [p]).length = found.pieces.length + 1 := by simp
      rw [writePieces_cons_cons,
        readPieces_cons p (writePieces_ne_nil (List.cons_ne_nil _ _)) (by omega),
        ih (by rw [hstep]; omega), List.append_assoc]
      rfl

theorem readPieces_append {pieces : List UInt16} (hpieces : pieces ≠ []) {found : Reading}
    (hroom : found.pieces.length + pieces.length ≤ 8) {more : Text} (hmore : more ≠ []) :
    readPieces (writePieces pieces ++ ':' :: more) found =
      readPieces more ⟨found.pieces ++ pieces, found.gap⟩ := by
  induction pieces generalizing found with
  | nil => exact absurd rfl hpieces
  | cons p rest ih =>
    rw [List.length_cons] at hroom
    cases rest with
    | nil => exact readPieces_cons p hmore (by omega)
    | cons q qs =>
      have hstep : (found.pieces ++ [p]).length = found.pieces.length + 1 := by simp
      rw [writePieces_cons_cons, List.append_assoc, List.cons_append,
        readPieces_cons p (List.append_ne_nil_of_right_ne_nil _ (List.cons_ne_nil _ _)) (by omega),
        ih (List.cons_ne_nil _ _) (by rw [hstep]; omega), List.append_assoc]
      rfl

theorem mem_writePieces {pieces : List UInt16} {c : Char} (h : c ∈ writePieces pieces) :
    (Hexadecimal.value? c).isSome = true ∨ c = ':' := by
  rcases Text.mem_join h with hcolon | ⟨part, hpart, hc⟩
  · exact .inr hcolon
  · obtain ⟨p, -, rfl⟩ := List.mem_map.1 hpart
    exact .inl (isSome_value?_of_mem_lowerDigits hc)

/-! ### The zeros that are left out -/

/-- Pieces start with as many zeros as are counted. -/
theorem zeros_split (pieces : List UInt16) :
    pieces = List.replicate (zeros pieces) 0 ++ pieces.drop (zeros pieces) := by
  induction pieces with
  | nil => rfl
  | cons p rest ih =>
    by_cases hp : p = 0
    · subst hp
      have hzeros : zeros (0 :: rest) = zeros rest + 1 := by
        rw [zeros, List.takeWhile_cons_of_pos (by simp)]
        rfl
      rw [hzeros, List.replicate_succ, List.drop_succ_cons, List.cons_append, ← ih]
    · have hzeros : zeros (p :: rest) = 0 := by
        rw [zeros, List.takeWhile_cons_of_neg (by simp [hp])]
        rfl
      rw [hzeros]
      rfl

/-- Where the longest run of zeros is not empty, its length counts the zeros at its place. -/
theorem longestZeros_eq (pieces : List UInt16) :
    (longestZeros pieces).2 = 0 ∨
      (longestZeros pieces).2 = zeros (pieces.drop (longestZeros pieces).1) := by
  -- The best run so far is as long as the zeros at its place, unless none was found.
  have hinvariant : ∀ (places : List Nat) (best : Nat × Nat),
      (best.2 = 0 ∨ best.2 = zeros (pieces.drop best.1)) →
      let found := places.foldl (fun best place =>
        let length := zeros (pieces.drop place)
        if best.2 < length then (place, length) else best) best
      found.2 = 0 ∨ found.2 = zeros (pieces.drop found.1) := by
    intro places
    induction places with
    | nil => exact fun _ hbest => hbest
    | cons place rest ih =>
      intro best hbest
      refine ih _ ?_
      dsimp only
      split
      · exact .inr rfl
      · exact hbest
  exact hinvariant _ (0, 0) (.inl rfl)

/-- The pieces around the zeros that are left out. -/
theorem longestZeros_split {pieces : List UInt16} {place length : Nat}
    (h : longestZeros pieces = (place, length)) (hlength : 2 ≤ length) :
    pieces = pieces.take place ++ (List.replicate length 0 ++ pieces.drop (place + length)) := by
  have hzeros : length = zeros (pieces.drop place) := by
    have heq := longestZeros_eq pieces
    rw [h] at heq
    rcases heq with hnone | hsome
    · have : length = 0 := hnone
      omega
    · exact hsome
  have hsplit := zeros_split (pieces.drop place)
  rw [← hzeros, List.drop_drop] at hsplit
  rw [← hsplit, List.take_append_drop]

/-! ### The written form -/

theorem eq_some_of_fill {found : Reading} {address : Ipv6} (h : fill found = address.pieces) :
    (if h : (fill found).length = 8 then some (⟨fill found, h⟩ : Ipv6) else none) =
      some address := by
  rw [dif_pos (h ▸ address.length_eq)]
  exact congrArg some (Ipv6.mk.injEq .. ▸ h)

/-- A text that starts with a piece and a colon is read piece by piece. -/
theorem read?_of_piece {p : UInt16} {t more : Text} {found : Reading} {address : Ipv6}
    (ht : t = Hexadecimal.lowerDigits p.toNat ++ ':' :: more)
    (hread : readPieces t ⟨[], none⟩ = some found) (hfill : fill found = address.pieces) :
    read? t = some address := by
  obtain ⟨c, digits, hdigits, hcolon⟩ := exists_digits p
  have hlong : ∃ d rest, t = c :: d :: rest := by
    rw [ht, hdigits]
    cases digits with
    | nil => exact ⟨_, _, rfl⟩
    | cons d rest => exact ⟨_, _, rfl⟩
  obtain ⟨d, rest, rfl⟩ := hlong
  rw [read?]
  · rw [hread]
    exact eq_some_of_fill hfill
  · rintro rest ⟨⟩
    exact hcolon rfl
  · rintro rest ⟨⟩
    exact hcolon rfl
  · exact nofun
  · exact nofun

/-- Two colons at the start stand for zeros. -/
theorem read?_of_gap {t : Text} {found : Reading} {address : Ipv6}
    (hread : readPieces t ⟨[0], some 1⟩ = some found) (hfill : fill found = address.pieces) :
    read? (':' :: ':' :: t) = some address := by
  rw [read?, hread]
  exact eq_some_of_fill hfill

theorem fill_gap (front back : List UInt16) {length : Nat}
    (hlength : front.length + length + back.length = 8) (hzeros : 0 < length) :
    fill ⟨front ++ [0] ++ back, some (front.length + 1)⟩ =
      front ++ (List.replicate length 0 ++ back) := by
  obtain ⟨more, rfl⟩ := Nat.exists_eq_succ_of_ne_zero (Nat.ne_of_gt hzeros)
  have hfront : front.length + 1 = (front ++ [0]).length := by simp
  have hmore : 8 - (front ++ [0] ++ back).length = more := by
    simp only [List.length_append, List.length_singleton]
    omega
  rw [fill]
  dsimp only
  rw [hmore, hfront, List.take_left, List.drop_left, List.replicate_succ]
  simp

theorem mem_write {address : Ipv6} {c : Char} (h : c ∈ address.write) :
    (Hexadecimal.value? c).isSome = true ∨ c = ':' := by
  unfold write at h
  dsimp only at h
  split at h
  · exact mem_writePieces h
  · rw [List.mem_append, List.mem_append] at h
    rcases h with (hfront | hgap) | hback
    · exact mem_writePieces hfront
    · exact .inr (by simpa using hgap)
    · exact mem_writePieces hback

theorem read?_writePieces (address : Ipv6) : read? (writePieces address.pieces) = some address := by
  have height := address.length_eq
  have hread : readPieces (writePieces address.pieces) ⟨[], none⟩ =
      some ⟨address.pieces, none⟩ :=
    readPieces_writePieces address.pieces (by rw [height]; decide)
  match hpieces : address.pieces with
  | [] =>
    rw [hpieces] at height
    exact absurd height (by decide)
  | [p] =>
    rw [hpieces, List.length_singleton] at height
    exact absurd height (by decide)
  | p :: q :: rest =>
    rw [hpieces] at hread
    exact read?_of_piece (writePieces_cons_cons p q rest) hread (by rw [hpieces]; rfl)

/-- An address reads back from the pieces around the zeros that are left out. -/
theorem read?_writeAround {address : Ipv6} {front back : List UInt16} {length : Nat}
    (hsplit : address.pieces = front ++ (List.replicate length 0 ++ back)) (hzeros : 0 < length) :
    read? (writePieces front ++ ':' :: ':' :: writePieces back) = some address := by
  have hsum : front.length + length + back.length = 8 := by
    have height := address.length_eq
    rw [hsplit] at height
    simp only [List.length_append, List.length_replicate] at height
    omega
  have hfill := fill_gap front back hsum hzeros
  have hback : readPieces (writePieces back) ⟨front ++ [0], some (front.length + 1)⟩ =
      some ⟨front ++ [0] ++ back, some (front.length + 1)⟩ := by
    refine readPieces_writePieces back ?_
    simp only [List.length_append, List.length_singleton]
    omega
  -- Where no piece comes first, the two colons do, and these are read before everything else.
  cases front with
  | nil => exact read?_of_gap hback (hfill.trans hsplit.symm)
  | cons p ps =>
    have hread : readPieces (writePieces (p :: ps) ++ ':' :: ':' :: writePieces back)
        ⟨[], none⟩ = some ⟨p :: ps ++ [0] ++ back, some ((p :: ps).length + 1)⟩ := by
      rw [readPieces_append (List.cons_ne_nil p ps) (by simp only [List.length_nil]; omega)
        (List.cons_ne_nil _ _)]
      show readPieces (':' :: writePieces back) ⟨p :: ps, none⟩ = _
      rw [readPieces_gap (by omega), hback]
    have hcolon : ∃ more, writePieces (p :: ps) ++ ':' :: ':' :: writePieces back =
        Hexadecimal.lowerDigits p.toNat ++ ':' :: more := by
      cases ps with
      | nil => exact ⟨_, rfl⟩
      | cons q qs =>
        rw [writePieces_cons_cons, List.append_assoc, List.cons_append]
        exact ⟨_, rfl⟩
    obtain ⟨more, hmore⟩ := hcolon
    exact read?_of_piece hmore hread (hfill.trans hsplit.symm)

/-- The written form reads back. -/
theorem read?_write (address : Ipv6) : read? address.write = some address := by
  rcases hzeros : longestZeros address.pieces with ⟨place, length⟩
  rw [write, hzeros]
  dsimp only
  by_cases hlength : length < 2
  · rw [if_pos hlength]
    exact read?_writePieces address
  · rw [if_neg hlength, List.append_assoc]
    exact read?_writeAround (longestZeros_split hzeros (by omega)) (by omega)

end RestConformance.Ipv6
