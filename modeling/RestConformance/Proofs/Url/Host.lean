import RestConformance.Proofs.Url.Domain
import RestConformance.Proofs.Url.Ipv4
import RestConformance.Proofs.Url.Ipv6
import RestConformance.Proofs.Url.Percent
import RestConformance.Url.Host

/-!
# Hosts read back

The written form of a host is read as the same host, unless it is a domain name with Punycode that
is too long to be read.

## Main definitions

* `Url.Host.IsReadable` – the host has no such label;
* `Url.Host.IsWritten` – what the written form of a host looks like.

## Main results

* `Url.Host.read_write` – the written form of a host is read as that host or not at all;
* `Url.Host.isWritten` – hosts that are read are written in that way.
-/

namespace RestConformance.Url.Host

open Idna (IsPlain)

variable {t : Text} {host : Host} {c : Char}

/-- The host has no label whose Punycode is too long to be read. -/
def IsReadable : Host → Prop
  | .name text => Idna.HasReadableLabels text
  | .ipv4 _ | .ipv6 _ => True

instance : (host : Host) → Decidable host.IsReadable
  | .name text => inferInstanceAs (Decidable (Idna.HasReadableLabels text))
  | .ipv4 _ | .ipv6 _ => inferInstanceAs (Decidable True)

/-- The written form of a host: plain characters, or digits and colons in brackets. -/
inductive IsWritten : Text → Prop where
  /-- A name or an address of four bytes. -/
  | plain {t : Text} (some : t ≠ []) (chars : ∀ c ∈ t, IsPlain c) : IsWritten t
  /-- An address of eight pieces. -/
  | bracketed {t : Text} (chars : ∀ c ∈ t, (Hexadecimal.value? c).isSome = true ∨ c = ':') :
    IsWritten ('[' :: t ++ [']'])

theorem IsWritten.ne_nil (h : IsWritten t) : t ≠ [] := by
  cases h with
  | plain hsome _ => exact hsome
  | bracketed _ => exact List.cons_ne_nil _ _

/-! ### Reading -/

/-- A text that is read as a host is an address in brackets or has an ASCII form. -/
theorem read_eq_ok (h : read t = .ok host) :
    (∃ address, host = .ipv6 address) ∨
      ∃ name text, Idna.toAscii? name = some text ∧ ofAscii text = .ok host := by
  unfold read at h
  split at h
  · unfold readBracketed at h
    split at h
    · split at h
      · exact .inl ⟨_, (Except.ok.inj h).symm⟩
      · cases h
    · cases h
  · split at h
    · next text htext =>
      obtain ⟨name, -, hname⟩ := Option.bind_eq_some_iff.1 htext
      exact .inr ⟨name, text, hname, h⟩
    · cases h

theorem read_of_plain (h : ∀ c ∈ t, IsPlain c) :
    read t =
      match Idna.toAscii? t with
      | some ascii => ofAscii ascii
      | none => .error .invalidDomain := by
  have habsent : ∀ d, Idna.isForbidden d = true → d ∉ t := by
    intro d hd hmem
    rw [(h d hmem).2.2] at hd
    exact Bool.false_ne_true hd
  have hdecode := Percent.decode?_decode_of_notMem (habsent '%' (by decide +kernel))
  unfold read
  split
  · exact absurd List.mem_cons_self (habsent '[' (by decide +kernel))
  · rewrite [hdecode, Option.bind_some]
    rfl

/-- The ASCII form of a name is read as an address or kept as a name. -/
theorem ofAscii_eq_ok (h : ofAscii t = .ok host) :
    t ≠ [] ∧ (host = .name t ∨ ∃ address, host = .ipv4 address) := by
  unfold ofAscii at h
  split at h
  · cases h
  next hsome =>
  refine ⟨fun hnone => hsome (List.isEmpty_iff.2 hnone), ?_⟩
  split at h
  · split at h
    · exact .inr ⟨_, (Except.ok.inj h).symm⟩
    · cases h
  · exact .inl (Except.ok.inj h).symm

/-! ### The three kinds of hosts -/

theorem isPlain_of_mem_write {address : Ipv4} (h : c ∈ address.write) : IsPlain c := by
  rw [Ipv4.write_eq_join] at h
  rcases Text.mem_join h with rfl | ⟨part, hpart, hc⟩
  · exact Idna.isPlain_dot
  · have hdigit := address.isDigit_of_mem_writtenParts hpart hc
    rw [Char.isDigit, Bool.and_eq_true, decide_eq_true_eq, decide_eq_true_eq] at hdigit
    have hlow : 0x30 ≤ c.toNat := hdigit.1
    have hhigh : c.toNat ≤ 0x39 := hdigit.2
    have table : ∀ n ∈ List.range 10, (Char.ofNat (0x30 + n)).toNat < 0x80 ∧
        (Char.ofNat (0x30 + n)).isUpper = false ∧
        Idna.isForbidden (Char.ofNat (0x30 + n)) = false := by decide +kernel
    have hrow := table (c.toNat - 0x30) (List.mem_range.2 (by omega))
    rwa [Nat.add_sub_cancel' hlow, Char.ofNat_toNat] at hrow

theorem read_write_ipv4 (address : Ipv4) :
    read (Host.ipv4 address).write = .ok (.ipv4 address) := by
  have hplain : ∀ c ∈ address.write, IsPlain c := fun _ hc => isPlain_of_mem_write hc
  -- No number in decimal starts like Punycode, so the text is its own ASCII form.
  have hascii : Idna.toAscii? address.write = some address.write := by
    refine Idna.toAscii?_of_plain hplain fun part hpart => ?_
    rw [Ipv4.splitAll_write] at hpart
    refine Bool.eq_false_iff.2 fun hprefix => ?_
    obtain ⟨rest, rfl⟩ := List.isPrefixOf_iff_prefix.1 hprefix
    have hdigit := address.isDigit_of_mem_writtenParts hpart (c := 'x') (by simp [Idna.acePrefix])
    exact absurd hdigit (by decide)
  have hsome : ¬address.write.isEmpty = true := by
    rw [List.isEmpty_iff, Ipv4.write]
    simp
  show read address.write = _
  rw [read_of_plain hplain, hascii]
  show ofAscii address.write = _
  rw [ofAscii, if_neg hsome, if_pos (Ipv4.endsInNumber_write address), Ipv4.read?_write]

theorem read_write_ipv6 (address : Ipv6) :
    read (Host.ipv6 address).write = .ok (.ipv6 address) := by
  show readBracketed (address.write ++ [']']) = _
  have hlast : (address.write ++ [']']).getLast? = some ']' := List.getLast?_concat
  rw [readBracketed, hlast, List.dropLast_concat, Ipv6.read?_write]
  rfl

/-! ### Main results -/

/-- The written form of a host is read as that host, unless its labels are too long. -/
theorem read_write (h : read t = .ok host) :
    read host.write = if host.IsReadable then .ok host else .error .invalidDomain := by
  rcases read_eq_ok h with ⟨address, rfl⟩ | ⟨name, text, hname, hascii⟩
  · rw [read_write_ipv6]
    exact (if_pos trivial).symm
  · obtain ⟨-, rfl | ⟨address, rfl⟩⟩ := ofAscii_eq_ok hascii
    · obtain ⟨hplain, hself⟩ := Idna.toAscii?_eq_some hname
      show read text = _
      rw [read_of_plain hplain]
      by_cases hreadable : Idna.HasReadableLabels text
      · rw [hself hreadable]
        exact hascii.trans (if_pos hreadable).symm
      · rw [Idna.toAscii?_of_unreadable hplain hreadable]
        exact (if_neg hreadable).symm
    · rw [read_write_ipv4]
      exact (if_pos trivial).symm

/-- Hosts that are read are written with plain characters or in brackets. -/
theorem isWritten (h : read t = .ok host) : IsWritten host.write := by
  rcases read_eq_ok h with ⟨address, rfl⟩ | ⟨name, text, hname, hascii⟩
  · exact .bracketed fun _ hc => Ipv6.mem_write hc
  · obtain ⟨hsome, rfl | ⟨address, rfl⟩⟩ := ofAscii_eq_ok hascii
    · exact .plain hsome (Idna.toAscii?_eq_some hname).1
    · refine .plain ?_ fun _ hc => isPlain_of_mem_write hc
      show address.write ≠ []
      simp [Ipv4.write]

end RestConformance.Url.Host
