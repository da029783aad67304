import VpnAttach.Address.Ip
import VpnAttach.Proofs.Text.Numeral
import VpnAttach.Proofs.Text.Split

/-!
# The text of IPv4 addresses

`Ipv4.Spells` is the grammar of dotted addresses.  The reader takes exactly
the texts of the grammar (`ofChars?_eq_some_iff`), and the canonical text is
one of them, so it is read back.
-/

namespace VpnAttach.Ipv4

variable {cs : List Char} {o : UInt8} {ip : Ipv4}

/-! ## Octets -/

/-- An octet: a decimal number below 256 without a superfluous zero. -/
def Octet (cs : List Char) (o : UInt8) : Prop :=
  Numeral.Denotes 10 cs o.toNat ∧ (cs.head? = some '0' → cs = ['0'])

theorem octet?_eq_some_iff : octet? cs = some o ↔ Octet cs o := by
  rw [octet?]
  constructor
  · intro h
    split at h
    · rename_i hshape
      split at h
      · rename_i n hvalue
        split at h
        · rename_i hn
          obtain rfl := Option.some.inj h
          refine ⟨?_, fun hhead => ?_⟩
          · rw [UInt8.toNat_ofNat_of_lt' hn]
            exact (Numeral.value?_eq_some_iff (by decide)).1 hvalue
          · obtain ⟨c, rfl⟩ := List.length_eq_one_iff.1 (hshape.2 hhead)
            rw [List.head?_cons] at hhead
            rw [Option.some.inj hhead]
        · cases h
      · cases h
    · cases h
  · rintro ⟨hdenotes, hhead⟩
    have hlength : cs.length ≤ 3 := by
      by_cases hzero : cs.head? = some '0'
      · rw [hhead hzero]
        decide
      · have hpow : 10 ^ (cs.length - 1) < 10 ^ 3 :=
          calc 10 ^ (cs.length - 1) ≤ o.toNat := hdenotes.pow_length_le hzero
            _ < 10 ^ 3 := Nat.lt_of_lt_of_le o.toNat_lt (by decide)
        have hlt := (Nat.pow_lt_pow_iff_right (by decide)).1 hpow
        omega
    have hshape : cs.length ≤ 3 ∧ (cs.head? = some '0' → cs.length = 1) :=
      ⟨hlength, fun hzero => by rw [hhead hzero]; rfl⟩
    rw [if_pos hshape, (Numeral.value?_eq_some_iff (by decide)).2 hdenotes]
    simp only [o.toNat_lt, if_true, UInt8.ofNat_toNat]

theorem octet_decimal (o : UInt8) : Octet (Numeral.decimal o.toNat) o := by
  refine ⟨(Numeral.value?_eq_some_iff (by decide)).1
    (Numeral.value?_toDigits (by decide) (by decide) _), fun hhead => ?_⟩
  rw [Numeral.decimal, Numeral.eq_zero_of_head? (by decide) hhead]
  rfl

/-! ## Addresses -/

/-- Four octets with dots between them. -/
inductive Spells : List Char → Ipv4 → Prop
  | dotted {a b c d : List Char} {ip : Ipv4} (ha : Octet a ip.a) (hb : Octet b ip.b)
      (hc : Octet c ip.c) (hd : Octet d ip.d) : Spells (Text.join ['.'] [a, b, c, d]) ip

theorem ofChars?_eq_some_iff : ofChars? cs = some ip ↔ Spells cs ip := by
  constructor
  · intro h
    rw [ofChars?] at h
    split at h
    · rename_i a b c d hsplit
      simp only [bind, Option.bind_eq_some_iff, pure, Option.some.injEq,
        octet?_eq_some_iff] at h
      obtain ⟨_, ha, _, hb, _, hc, _, hd, rfl⟩ := h
      obtain ⟨-, -, rfl⟩ := Text.splitOn_eq_iff.1 hsplit
      exact .dotted ha hb hc hd
    · cases h
  · rintro ⟨ha, hb, hc, hd⟩
    rename_i a b c d
    have hdot {cs : List Char} {o : UInt8} (h : Octet cs o) : '.' ∉ cs :=
      h.1.not_mem (by decide) (by decide)
    have hsplit : Text.splitOn '.' (Text.join ['.'] [a, b, c, d]) = [a, b, c, d] :=
      Text.splitOn_join (List.cons_ne_nil _ _) (by simp [hdot ha, hdot hb, hdot hc, hdot hd])
    rw [ofChars?, hsplit]
    simp only [octet?_eq_some_iff.2 ha, octet?_eq_some_iff.2 hb, octet?_eq_some_iff.2 hc,
      octet?_eq_some_iff.2 hd]
    rfl

theorem spells_toChars (ip : Ipv4) : Spells ip.toChars ip :=
  .dotted (octet_decimal _) (octet_decimal _) (octet_decimal _) (octet_decimal _)

/-- An address is made of digits and dots. -/
theorem Spells.mem (h : Spells cs ip) {c : Char} (hmem : c ∈ cs) :
    c = '.' ∨ Numeral.isDigit 10 c = true := by
  obtain ⟨ha, hb, hc, hd⟩ := h
  refine (Text.mem_join hmem).imp_right fun ⟨part, hpart, hin⟩ => ?_
  simp only [List.mem_cons, List.not_mem_nil, or_false] at hpart
  rcases hpart with rfl | rfl | rfl | rfl
  · exact ha.1.isDigit (by decide) c hin
  · exact hb.1.isDigit (by decide) c hin
  · exact hc.1.isDigit (by decide) c hin
  · exact hd.1.isDigit (by decide) c hin

theorem Spells.not_mem (h : Spells cs ip) {c : Char} (hdot : c ≠ '.')
    (hdigit : Numeral.isDigit 10 c = false) : c ∉ cs := fun hmem =>
  (h.mem hmem).elim hdot fun hc => by simp [hc] at hdigit

theorem Spells.dot_mem (h : Spells cs ip) : '.' ∈ cs := by
  obtain ⟨-, -, -, -⟩ := h
  simp [Text.join]

/-! ## Groups of sixteen bits -/

theorem groups_ofGroups (high low : UInt16) : (ofGroups high low).groups = [high, low] := by
  have hbytes (x : UInt16) : UInt16.ofNat ((UInt8.ofNat (x.toNat / 256)).toNat * 256 +
      (UInt8.ofNat (x.toNat % 256)).toNat) = x := by
    have hx : x.toNat < 65536 := x.toNat_lt
    have hhigh : (UInt8.ofNat (x.toNat / 256)).toNat = x.toNat / 256 :=
      UInt8.toNat_ofNat_of_lt (show x.toNat / 256 < 256 by omega)
    have hlow : (UInt8.ofNat (x.toNat % 256)).toNat = x.toNat % 256 :=
      UInt8.toNat_ofNat_of_lt (show x.toNat % 256 < 256 by omega)
    rw [hhigh, hlow, Nat.div_add_mod', UInt16.ofNat_toNat]
  simp only [groups, ofGroups, hbytes]

end VpnAttach.Ipv4
