import VpnAttach.Proofs.Address.Ipv6

/-!
# The text of IP addresses

A text is an address if it is one of either family; the reader takes exactly
these texts, and gives the canonical text of an address back.
-/

namespace VpnAttach.Ip

variable {cs : List Char} {ip : Ip}

/-- The text of an address of either family. -/
inductive Spells : List Char → Ip → Prop
  | v4 {cs : List Char} {ip : Ipv4} (h : Ipv4.Spells cs ip) : Spells cs (.v4 ip)
  | v6 {cs : List Char} {ip : Ipv6} (h : Ipv6.Spells cs ip) : Spells cs (.v6 ip)

/-- No text is read as an address of both families: only one of them has colons. -/
theorem ofChars?_eq_some_iff : ofChars? cs = some ip ↔ Spells cs ip := by
  rw [ofChars?]
  constructor
  · intro h
    split at h
    · rename_i ip hv4
      obtain rfl := Option.some.inj h
      exact .v4 (Ipv4.ofChars?_eq_some_iff.1 hv4)
    · obtain ⟨ip, hv6, rfl⟩ := Option.map_eq_some_iff.1 h
      exact .v6 (Ipv6.ofChars?_eq_some_iff.1 hv6)
  · intro h
    cases h with
    | v4 h => rw [Ipv4.ofChars?_eq_some_iff.2 h]
    | v6 h =>
      have hv4 : Ipv4.ofChars? cs = none := by
        cases hv4 : Ipv4.ofChars? cs with
        | none => rfl
        | some ip =>
          have hcolon := (Ipv4.ofChars?_eq_some_iff.1 hv4).not_mem (c := ':')
            (by decide) (by decide)
          exact absurd h.colon_mem hcolon
      rw [hv4, Ipv6.ofChars?_eq_some_iff.2 h, Option.map_some]

theorem Spells.plus_not_mem (h : Spells cs ip) : '+' ∉ cs := by
  cases h with
  | v4 h => exact h.not_mem (by decide) (by decide)
  | v6 h => exact h.plus_not_mem

theorem spells_toChars (ip : Ip) : Spells ip.toChars ip := by
  cases ip with
  | v4 ip => exact .v4 ip.spells_toChars
  | v6 ip => exact .v6 ip.spells_toChars

/-- Reading the text of an address gives the address. -/
theorem ofChars?_toChars (ip : Ip) : ofChars? ip.toChars = some ip :=
  ofChars?_eq_some_iff.2 ip.spells_toChars

end VpnAttach.Ip
