import VpnAttach.Address.Prefix
import VpnAttach.Proofs.Address.Ip

/-!
# The text of IP prefixes

An address, a slash and a decimal length that is at most the width of the
address: with the length written in digits only, this is CIDR notation.  The
reader also takes a plus sign in front of the length
(`ofString_eq_ok_iff_spells`).  The canonical text is in CIDR notation, so it
is read back, and different prefixes have different texts.
-/

namespace VpnAttach.IpPrefix

open Numeral

variable {cs : List Char} {p : IpPrefix}

/-! ## Grammar -/

/-- An address and a length with a slash between them, the length as `Length`
says.  CIDR notation is `Spells (Denotes 10)`. -/
inductive Spells (Length : List Char → Nat → Prop) : List Char → IpPrefix → Prop
  | cidr {address digits : List Char} {ip : Ip} {length : Nat} (haddress : Ip.Spells address ip)
      (hdigits : Length digits length) (hle : length ≤ ip.width) :
      Spells Length (address ++ '/' :: digits) ⟨ip, length, hle⟩

/-- CIDR notation is what is left without a plus sign. -/
theorem spells_denotes_iff :
    Spells (Denotes 10) cs p ↔ Spells (DenotesSigned 10) cs p ∧ '+' ∉ cs := by
  constructor
  · rintro ⟨haddress, hdigits, hle⟩
    have hsigned := (denotes_iff (by decide)).1 hdigits
    exact ⟨.cidr haddress hsigned.1 hle, by simp [haddress.plus_not_mem, hsigned.2]⟩
  · rintro ⟨⟨haddress, hdigits, hle⟩, hplus⟩
    simp only [List.mem_append, List.mem_cons, not_or] at hplus
    exact .cidr haddress ((denotes_iff (by decide)).2 ⟨hdigits, hplus.2.2⟩) hle

/-! ## Reading -/

theorem length_lt (p : IpPrefix) : p.length < 256 := by
  have hwidth : p.address.width ≤ 128 := by
    cases p.address with
    | v4 _ => exact (by decide : 32 ≤ 128)
    | v6 _ => exact (by decide : 128 ≤ 128)
  exact Nat.lt_of_le_of_lt (Nat.le_trans p.length_le hwidth) (by decide)

theorem make_eq_ok_iff {address : Ip} {length : Nat} :
    make address length = .ok p ↔ p.address = address ∧ p.length = length := by
  obtain ⟨ip, n, hle⟩ := p
  rw [make]
  constructor
  · intro h
    split at h
    · cases h
      exact ⟨rfl, rfl⟩
    · cases h
  · rintro ⟨rfl, rfl⟩
    exact dif_pos hle

/-- What is read is an address and a length, which may have a plus sign. -/
theorem ofString_eq_ok_iff_spells {s : String} :
    ofString s = .ok p ↔ Spells (DenotesSigned 10) s.toList p := by
  rw [ofString]
  constructor
  · intro h
    split at h
    · cases h
    · rename_i front back hlast
      split at h
      · rename_i address length haddress hlength
        obtain ⟨ip, n, hle⟩ := p
        obtain ⟨rfl, rfl⟩ := make_eq_ok_iff.1 h
        rw [(Text.splitLast_eq_some_iff.1 hlast).1]
        exact .cidr (Ip.ofChars?_eq_some_iff.1 haddress)
          ((byte?_eq_some_iff (by decide)).1 hlength) hle
      · cases h
  · intro h
    generalize s.toList = cs at h
    have hlt := p.length_lt
    obtain @⟨address, digits, ip, length, haddress, hdigits, hle⟩ := h
    have hslash : '/' ∉ digits := hdigits.not_mem (by decide) (by decide) (by decide)
    have hbyte : (UInt8.ofNat length).toNat = length := UInt8.toNat_ofNat_of_lt' hlt
    have hlength : byte? 10 digits = some (UInt8.ofNat length) := by
      rw [byte?_eq_some_iff (by decide), hbyte]
      exact hdigits
    rw [Text.splitLast_append_sep hslash]
    simp only [Ip.ofChars?_eq_some_iff.2 haddress, hlength, hbyte]
    exact make_eq_ok_iff.2 ⟨rfl, rfl⟩

theorem spells_toChars (p : IpPrefix) : Spells (Denotes 10) p.toChars p :=
  .cidr p.address.spells_toChars
    ((value?_eq_some_iff (by decide)).1 (value?_toDigits (by decide) (by decide) _)) p.length_le

/-- Reading the text of a prefix gives the prefix. -/
theorem ofString_text (p : IpPrefix) : ofString p.text = .ok p := by
  rw [ofString_eq_ok_iff_spells, text, String.toList_ofList]
  exact (spells_denotes_iff.1 p.spells_toChars).1

/-- Different prefixes have different texts. -/
theorem text_inj {p q : IpPrefix} : p.text = q.text ↔ p = q := by
  constructor
  · intro h
    have hq := ofString_text q
    rw [← h, ofString_text] at hq
    exact Except.ok.inj hq
  · exact congrArg text

/-- Without a plus sign, exactly the texts in CIDR notation are read, as the address and the
length they write; with one, it stands in front of the length.  What can be made has the
address and the length it is made of, and its text is read back. -/
theorem cidr_iff (s : String) (p : IpPrefix) :
    (Spells (Denotes 10) s.toList p ↔ ofString s = .ok p ∧ '+' ∉ s.toList) ∧
      (ofString s = .ok p ↔ Spells (DenotesSigned 10) s.toList p) ∧
      ∀ address length, make address length = .ok p →
        p.address = address ∧ p.length = length ∧ ofString p.text = .ok p := by
  refine ⟨?_, ofString_eq_ok_iff_spells, fun address length h => ?_⟩
  · rw [ofString_eq_ok_iff_spells]
    exact spells_denotes_iff
  · obtain ⟨haddress, hlength⟩ := make_eq_ok_iff.1 h
    exact ⟨haddress, hlength, ofString_text p⟩

/-- A mapped address with a gap, and a length with a zero in front of it. -/
theorem cidr_iff_mappedAddress :
    let p : IpPrefix := ⟨.v6 ⟨[0, 0, 0, 0, 0, 0xffff, 0x0a00, 0x0001], rfl⟩, 128, by decide⟩
    Spells (Denotes 10) "0:0::ffff:10.0.0.1/0128".toList p ∧ make p.address 128 = .ok p ∧
      ofString p.text = .ok p := by
  intro p
  have hmade : make p.address 128 = .ok p := by decide
  obtain ⟨hcidr, -, hback⟩ := cidr_iff "0:0::ffff:10.0.0.1/0128" p
  exact ⟨hcidr.2 ⟨by decide, by decide⟩, hmade, (hback p.address 128 hmade).2.2⟩

/-- There is no plus sign in CIDR notation, but the length may start with one. -/
theorem read_plusLength :
    (∃ p, ofString "10.0.0.0/+8" = .ok p) ∧
      ¬∃ p, Spells (Denotes 10) "10.0.0.0/+8".toList p :=
  ⟨⟨⟨.v4 ⟨10, 0, 0, 0⟩, 8, by decide⟩, by decide⟩,
    fun ⟨_, h⟩ => absurd (by decide) (spells_denotes_iff.1 h).2⟩

end VpnAttach.IpPrefix
