import Mathlib.Data.List.Forall2
import VpnAttach.Address.Mac
import VpnAttach.Proofs.Text.Numeral
import VpnAttach.Proofs.Text.Split

/-!
# The text of MAC addresses

Six groups of two characters, with colons or with hyphens between them: with
hexadecimal digits for characters, these are the texts of MAC addresses.  The
reader also takes a group of a plus sign and a digit
(`ofString_eq_ok_iff_spells`).  There is no plus sign in the canonical text,
which is read back.
-/

namespace VpnAttach.MacAddress

open Numeral

variable {cs : List Char} {b : UInt8} {mac : MacAddress} {groups : List (List Char)}

/-! ## Grammar -/

/-- Two characters that write a byte as `Number` says. -/
def Group (Number : List Char → Nat → Prop) (cs : List Char) (b : UInt8) : Prop :=
  cs.length = 2 ∧ Number cs b.toNat

/-- Six groups with the same separator between them.  MAC addresses are written
as `Spells (Denotes 16)`. -/
inductive Spells (Number : List Char → Nat → Prop) : List Char → MacAddress → Prop
  | separated {sep : Char} {groups : List (List Char)} {mac : MacAddress}
      (hsep : sep = ':' ∨ sep = '-') (hgroups : List.Forall₂ (Group Number) groups mac.octets) :
      Spells Number (Text.join [sep] groups) mac

theorem forall₂_group_denotes_iff {bytes : List UInt8} :
    List.Forall₂ (Group (Denotes 16)) groups bytes ↔
      List.Forall₂ (Group (DenotesSigned 16)) groups bytes ∧ ∀ cs ∈ groups, '+' ∉ cs := by
  constructor
  · intro h
    induction h with
    | nil => exact ⟨.nil, fun _ hcs => nomatch hcs⟩
    | cons hgroup _ ih =>
      obtain ⟨hsigned, hplus⟩ := (denotes_iff (by decide)).1 hgroup.2
      exact ⟨.cons ⟨hgroup.1, hsigned⟩ ih.1, List.forall_mem_cons.2 ⟨hplus, ih.2⟩⟩
  · rintro ⟨h, hplus⟩
    induction h with
    | nil => exact .nil
    | cons hgroup _ ih =>
      obtain ⟨hfirst, hrest⟩ := List.forall_mem_cons.1 hplus
      exact .cons ⟨hgroup.1, (denotes_iff (by decide)).2 ⟨hgroup.2, hfirst⟩⟩ (ih hrest)

/-- The texts of addresses are what is left without a plus sign. -/
theorem spells_denotes_iff :
    Spells (Denotes 16) cs mac ↔ Spells (DenotesSigned 16) cs mac ∧ '+' ∉ cs := by
  constructor
  · rintro ⟨hsep, hgroups⟩
    obtain ⟨hsigned, hplus⟩ := forall₂_group_denotes_iff.1 hgroups
    refine ⟨.separated hsep hsigned, fun hmem => ?_⟩
    rcases Text.mem_join hmem with rfl | ⟨group, hgroup, hin⟩
    · exact absurd hsep (by decide)
    · exact hplus group hgroup hin
  · rintro ⟨⟨hsep, hgroups⟩, hplus⟩
    refine .separated hsep (forall₂_group_denotes_iff.2 ⟨hgroups, fun group hgroup hin => ?_⟩)
    exact hplus (Text.mem_join_of_mem hgroup hin)

/-! ## Reading -/

theorem group?_eq_some_iff : group? cs = some b ↔ Group (DenotesSigned 16) cs b := by
  rw [Group, ← byte?_eq_some_iff (by decide)]
  match cs with
  | [] | [_] | _ :: _ :: _ :: _ => simp [group?]
  | [_, _] => simp [group?]

/-- There is no separator in a group. -/
theorem not_mem_of_groups {bytes : List UInt8}
    (h : List.Forall₂ (Group (DenotesSigned 16)) groups bytes) {sep : Char}
    (hsep : sep = ':' ∨ sep = '-') : ∀ cs ∈ groups, sep ∉ cs := by
  have hsign : sep ≠ '+' ∧ Numeral.isDigit 16 sep = false := by
    rcases hsep with rfl | rfl <;> decide
  induction h with
  | nil => exact fun _ hcs => nomatch hcs
  | cons hgroup _ ih =>
    exact List.forall_mem_cons.2 ⟨hgroup.2.not_mem (by decide) hsign.1 hsign.2, ih⟩

/-- The separator is a colon if there is a colon at all. -/
theorem separator_eq {a b : List Char} {sep : Char} (hsep : sep = ':' ∨ sep = '-')
    (hcolon : ∀ cs ∈ a :: b :: groups, ':' ∉ cs) :
    (if ':' ∈ Text.join [sep] (a :: b :: groups) then ':' else '-') = sep := by
  rcases hsep with rfl | rfl
  · exact if_pos (by simp [Text.join])
  · refine if_neg fun hmem => ?_
    rcases Text.mem_join hmem with hsame | ⟨group, hgroup, hin⟩
    · exact absurd hsame (by decide)
    · exact hcolon group hgroup hin

theorem ofChars?_eq_some_iff : ofChars? cs = some mac ↔ Spells (DenotesSigned 16) cs mac := by
  rw [ofChars?]
  constructor
  · intro h
    split at h
    · rename_i a b c d e f hsplit
      simp only [bind, Option.bind_eq_some_iff, pure, Option.some.injEq,
        group?_eq_some_iff] at h
      obtain ⟨_, ha, _, hb, _, hc, _, hd, _, he, _, hf, rfl⟩ := h
      rw [(Text.splitOn_eq_iff.1 hsplit).2.2]
      refine .separated ?_ (.cons ha (.cons hb (.cons hc (.cons hd (.cons he (.cons hf .nil))))))
      split
      · exact Or.inl rfl
      · exact Or.inr rfl
    · cases h
  · rintro @⟨sep, groups, _, hsep, hgroups⟩
    have hsplit : Text.splitOn sep (Text.join [sep] groups) = groups :=
      Text.splitOn_join (fun hnil => by rw [hnil] at hgroups; cases hgroups)
        (not_mem_of_groups hgroups hsep)
    have hcolon := not_mem_of_groups hgroups (Or.inl rfl)
    match groups, hgroups with
    | [a, b, c, d, e, f], .cons ha (.cons hb (.cons hc (.cons hd (.cons he (.cons hf .nil))))) =>
      simp only [separator_eq hsep hcolon, hsplit, group?_eq_some_iff.2 ha,
        group?_eq_some_iff.2 hb, group?_eq_some_iff.2 hc, group?_eq_some_iff.2 hd,
        group?_eq_some_iff.2 he, group?_eq_some_iff.2 hf]
      rfl

/-- What is read are six groups, in which a plus sign may stand for a digit. -/
theorem ofString_eq_ok_iff_spells {s : String} :
    ofString s = .ok mac ↔ Spells (DenotesSigned 16) s.toList mac := by
  rw [ofString, ← ofChars?_eq_some_iff]
  cases ofChars? s.toList <;> simp

/-! ## The canonical text -/

theorem group_octetChars (b : UInt8) : Group (Denotes 16) (octetChars b) b := by
  have hle : (hexadecimal b.toNat).length ≤ 2 :=
    length_toDigits_le (by decide) (by decide) b.toNat_lt
  constructor
  · rw [octetChars, padZeros, List.length_append, List.length_replicate]
    omega
  · rw [← value?_eq_some_iff (by decide), octetChars, value?_padZeros (by decide) 2]
    · exact value?_toDigits (by decide) (by decide) b.toNat
    · exact Nat.toDigits_ne_nil

theorem spells_toChars (mac : MacAddress) : Spells (Denotes 16) mac.toChars mac := by
  refine .separated (Or.inl rfl) ?_
  rw [List.forall₂_map_left_iff, List.forall₂_same]
  exact fun b _ => group_octetChars b

/-- Reading the canonical text of an address gives the address back. -/
theorem ofString_text (mac : MacAddress) : ofString mac.text = .ok mac := by
  rw [ofString_eq_ok_iff_spells, text, String.toList_ofList]
  exact (spells_denotes_iff.1 mac.spells_toChars).1

/-- Without a plus sign, exactly six groups of two hexadecimal digits are read, as the
bytes they write; with plus signs, also groups in which one stands for the first digit.
The canonical text is read back. -/
theorem six_groups_iff (s : String) (mac : MacAddress) :
    (Spells (Denotes 16) s.toList mac ↔ ofString s = .ok mac ∧ '+' ∉ s.toList) ∧
      (ofString s = .ok mac ↔ Spells (DenotesSigned 16) s.toList mac) ∧
      ofString mac.text = .ok mac := by
  refine ⟨?_, ofString_eq_ok_iff_spells, ofString_text mac⟩
  rw [ofString_eq_ok_iff_spells]
  exact spells_denotes_iff

theorem six_groups_iff_hyphens :
    Spells (Denotes 16) "FA-16-3e-00-00-01".toList ⟨0xfa, 0x16, 0x3e, 0x00, 0x00, 0x01⟩ :=
  (six_groups_iff _ _).1.2 ⟨by decide, by decide⟩

/-- A plus sign is no hexadecimal digit, but a group may start with one. -/
theorem read_plusDigit :
    ofString "+a:16:3e:00:00:01" = .ok ⟨0x0a, 0x16, 0x3e, 0x00, 0x00, 0x01⟩ ∧
      ¬∃ mac, Spells (Denotes 16) "+a:16:3e:00:00:01".toList mac :=
  ⟨by decide, fun ⟨_, h⟩ => absurd (by decide) (spells_denotes_iff.1 h).2⟩

end VpnAttach.MacAddress
