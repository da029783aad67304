import Mathlib.Data.List.Forall2
import VpnAttach.Proofs.Address.Ipv4

/-!
# The text of IPv6 addresses

`Ipv6.Spells` is the grammar: eight groups of hexadecimal digits, of which the
last two may be dotted, with colons between them; or fewer groups with one gap
`::` that stands for the groups of zeros that are missing.  The reader takes
exactly the texts of the grammar (`ofChars?_eq_some_iff`), and the canonical
text is one of them, so it is read back.
-/

namespace VpnAttach.Ipv6

variable {cs part : List Char} {parts : List (List Char)} {g : UInt16}
  {groups : List UInt16} {ip : Ipv6}

/-! ## Groups -/

/-- A group: one to four hexadecimal digits. -/
def Group (cs : List Char) (g : UInt16) : Prop :=
  Numeral.Denotes 16 cs g.toNat ∧ cs.length ≤ 4

/-- Groups of which the last two may be written as an IPv4 address. -/
inductive Run : List (List Char) → List UInt16 → Prop
  | nil : Run [] []
  | dotted {part : List Char} {ip : Ipv4} (h : Ipv4.Spells part ip) : Run [part] ip.groups
  | group {part : List Char} {g : UInt16} {parts : List (List Char)} {groups : List UInt16}
      (h : Group part g) (rest : Run parts groups) : Run (part :: parts) (g :: groups)

theorem Group.not_mem (h : Group cs g) {c : Char} (hc : Numeral.isDigit 16 c = false) :
    c ∉ cs :=
  h.1.not_mem (by decide) hc

theorem Run.of_forall₂ (h : List.Forall₂ Group parts groups) : Run parts groups := by
  induction h with
  | nil => exact .nil
  | cons hgroup _ ih => exact .group hgroup ih

/-- A part is never empty, and there is no colon in it. -/
theorem Run.of_mem (h : Run parts groups) : ∀ part ∈ parts, part ≠ [] ∧ ':' ∉ part := by
  induction h with
  | nil => exact fun _ hpart => nomatch hpart
  | dotted h =>
    intro part hpart
    obtain rfl := List.mem_singleton.1 hpart
    exact ⟨List.ne_nil_of_mem h.dot_mem, h.not_mem (by decide) (by decide)⟩
  | group h _ ih =>
    intro part hpart
    rcases List.mem_cons.1 hpart with rfl | hpart
    · exact ⟨h.1.ne_nil, h.not_mem (by decide)⟩
    · exact ih part hpart

theorem group?_eq_some_iff : group? cs = some g ↔ Group cs g := by
  rw [group?, Group, and_comm]
  by_cases hlength : cs.length ≤ 4
  · rw [if_pos hlength, Option.map_eq_some_iff, and_iff_right hlength]
    simp only [Numeral.value?_eq_some_iff (by decide : 16 ≤ 16)]
    constructor
    · rintro ⟨n, hn, rfl⟩
      have hlt : n < 65536 :=
        calc n < 16 ^ cs.length := hn.lt_pow_length
          _ ≤ 16 ^ 4 := Nat.pow_le_pow_right (by decide) hlength
      rwa [UInt16.toNat_ofNat_of_lt' hlt]
    · exact fun h => ⟨g.toNat, h, UInt16.ofNat_toNat⟩
  · simp [hlength]

theorem mapM_group?_eq_some_iff :
    parts.mapM group? = some groups ↔ List.Forall₂ Group parts groups := by
  induction parts generalizing groups with
  | nil => simp [eq_comm]
  | cons part parts ih =>
    simp only [List.mapM_cons, bind, Option.bind_eq_some_iff, pure, Option.some.injEq,
      group?_eq_some_iff, ih, List.forall₂_cons_left_iff]
    constructor
    · rintro ⟨g, hg, rest, hrest, rfl⟩
      exact ⟨g, rest, hg, hrest, rfl⟩
    · rintro ⟨g, rest, hg, hrest, rfl⟩
      exact ⟨g, hg, rest, hrest, rfl⟩

/-- No part is read both as a group and as an IPv4 address. -/
theorem groupsOfParts?_eq_some_iff :
    groupsOfParts? parts = some groups ↔ Run parts groups := by
  constructor
  · intro h
    fun_induction groupsOfParts? parts generalizing groups with
    | case1 =>
      obtain rfl := Option.some.inj h
      exact .nil
    | case2 part ip hip =>
      obtain rfl := Option.some.inj h
      exact .dotted (Ipv4.ofChars?_eq_some_iff.1 hip)
    | case3 part hip =>
      obtain ⟨g, hg, rfl⟩ := Option.map_eq_some_iff.1 h
      exact .group (group?_eq_some_iff.1 hg) .nil
    | case4 part parts _ ih =>
      simp only [bind, Option.bind_eq_some_iff, pure, Option.some.injEq] at h
      obtain ⟨g, hg, rest, hrest, rfl⟩ := h
      exact .group (group?_eq_some_iff.1 hg) (ih hrest)
  · intro h
    induction h with
    | nil => rfl
    | dotted h => rw [groupsOfParts?, Ipv4.ofChars?_eq_some_iff.2 h]
    | @group part g parts groups h rest ih =>
      have hg := group?_eq_some_iff.2 h
      cases parts with
      | nil =>
        obtain rfl : [] = groups := Option.some.inj ih
        have hip : Ipv4.ofChars? part = none := by
          cases hip : Ipv4.ofChars? part with
          | none => rfl
          | some ip =>
            have hdot := (Ipv4.ofChars?_eq_some_iff.1 hip).dot_mem
            exact absurd hdot (h.not_mem (by decide))
        simp only [groupsOfParts?, hip, hg, Option.map_some]
      | cons next parts =>
        rw [groupsOfParts?, hg, ih]
        · rfl
        · exact fun h => nomatch h

/-! ## Joined parts -/

theorem join_eq_nil (hparts : ∀ part ∈ parts, part ≠ []) (h : Text.join [':'] parts = []) :
    parts = [] := by
  cases parts with
  | nil => rfl
  | cons part parts =>
    have hpart := hparts part List.mem_cons_self
    cases parts with
    | nil => exact absurd h hpart
    | cons next parts => simp [Text.join] at h

/-- Groups are read part by part; an empty text has no parts. -/
theorem readParts_eq_some_iff {read : List (List Char) → Option (List UInt16)}
    {R : List (List Char) → List UInt16 → Prop} (hnil : read [] = some [])
    (hread : ∀ {parts groups}, read parts = some groups ↔ R parts groups)
    (hparts : ∀ {parts groups}, R parts groups → ∀ part ∈ parts, part ≠ [] ∧ ':' ∉ part) :
    (if cs.isEmpty then some [] else read (Text.splitOn ':' cs)) = some groups ↔
      ∃ parts, R parts groups ∧ Text.join [':'] parts = cs := by
  constructor
  · intro h
    split at h
    · rename_i hcs
      obtain rfl := Option.some.inj h
      exact ⟨[], hread.1 hnil, (List.isEmpty_iff.1 hcs).symm⟩
    · exact ⟨_, hread.1 h, Text.join_splitOn ':' cs⟩
  · rintro ⟨parts, hgroups, rfl⟩
    split
    · rename_i hempty
      obtain rfl := join_eq_nil (fun part hpart => (hparts hgroups part hpart).1)
        (List.isEmpty_iff.1 hempty)
      rw [← hnil, hread.2 hgroups]
    · rename_i hne
      have hsplit : Text.splitOn ':' (Text.join [':'] parts) = parts := by
        refine Text.splitOn_join ?_ fun part hpart => (hparts hgroups part hpart).2
        rintro rfl
        exact hne rfl
      rw [hsplit, hread.2 hgroups]

theorem headGroups?_eq_some_iff : headGroups? cs = some groups ↔
    ∃ parts, List.Forall₂ Group parts groups ∧ Text.join [':'] parts = cs :=
  readParts_eq_some_iff rfl mapM_group?_eq_some_iff fun h => (Run.of_forall₂ h).of_mem

theorem tailGroups?_eq_some_iff : tailGroups? cs = some groups ↔
    ∃ parts, Run parts groups ∧ Text.join [':'] parts = cs :=
  readParts_eq_some_iff rfl groupsOfParts?_eq_some_iff Run.of_mem

/-! ## The gap -/

theorem cutGap_append_of_not_mem {tail : List Char} (h : ':' ∉ cs) :
    cutGap (cs ++ tail) = (cutGap tail).map fun parts => (cs ++ parts.1, parts.2) := by
  induction cs with
  | nil => simp
  | cons c cs ih =>
    rw [List.mem_cons, not_or] at h
    rw [List.cons_append, cutGap, ih h.2, Option.map_map]
    · rfl
    · intro rest hc
      exact absurd hc.symm h.1

theorem cutGap_colon {tail : List Char} (h : tail.head? ≠ some ':') :
    cutGap (':' :: tail) = (cutGap tail).map fun parts => (':' :: parts.1, parts.2) := by
  rw [cutGap]
  intro rest _ htail
  rw [htail] at h
  exact h rfl

/-- Joined parts start with the first of them. -/
theorem head?_join (tail : List Char) (hne : part ≠ []) (hcolon : ':' ∉ part) :
    (Text.join [':'] (part :: parts) ++ tail).head? ≠ some ':' := by
  obtain ⟨c, cs, rfl⟩ := List.exists_cons_of_ne_nil hne
  have hhead : (Text.join [':'] ((c :: cs) :: parts) ++ tail).head? = some c := by
    cases parts <;> simp [Text.join]
  rw [hhead]
  intro hc
  exact hcolon (Option.some.inj hc ▸ List.mem_cons_self)

/-- There is no gap within or right after joined parts. -/
theorem cutGap_join_append (tail : List Char)
    (hparts : ∀ part ∈ parts, part ≠ [] ∧ ':' ∉ part) :
    cutGap (Text.join [':'] parts ++ tail) =
      (cutGap tail).map fun pair => (Text.join [':'] parts ++ pair.1, pair.2) := by
  induction parts with
  | nil => simp [Text.join]
  | cons part parts ih =>
    obtain ⟨hpart, hrest⟩ := List.forall_mem_cons.1 hparts
    cases parts with
    | nil => exact cutGap_append_of_not_mem hpart.2
    | cons next parts =>
      have hjoin : Text.join [':'] (part :: next :: parts) =
          part ++ ':' :: Text.join [':'] (next :: parts) := by simp [Text.join]
      have hnext := hrest next List.mem_cons_self
      rw [hjoin, List.append_assoc, List.cons_append, cutGap_append_of_not_mem hpart.2,
        cutGap_colon (head?_join tail hnext.1 hnext.2), ih hrest, Option.map_map,
        Option.map_map]
      congr 1
      funext pair
      simp

theorem eq_append_of_cutGap {before after : List Char} (h : cutGap cs = some (before, after)) :
    cs = before ++ ':' :: ':' :: after := by
  fun_induction cutGap cs generalizing before with
  | case1 => cases h
  | case2 rest =>
    cases h
    rfl
  | case3 c rest _ ih =>
    obtain ⟨⟨front, back⟩, hcut, hpair⟩ := Option.map_eq_some_iff.1 h
    cases hpair
    rw [ih hcut]
    rfl

/-! ## Addresses -/

/-- Eight groups, or a gap with groups before and after it. -/
inductive Spells : List Char → Ipv6 → Prop
  | whole {parts : List (List Char)} {ip : Ipv6} (h : Run parts ip.groups) :
      Spells (Text.join [':'] parts) ip
  | gap {front back : List (List Char)} {before after : List UInt16} {count : Nat} {ip : Ipv6}
      (hfront : List.Forall₂ Group front before) (hback : Run back after) (hcount : 0 < count)
      (hip : before ++ List.replicate count 0 ++ after = ip.groups) :
      Spells (Text.join [':'] front ++ ':' :: ':' :: Text.join [':'] back) ip

theorem ofGroups?_eq_some_iff : ofGroups? groups = some ip ↔ groups = ip.groups := by
  rw [ofGroups?]
  constructor
  · intro h
    split at h
    · cases h
      rfl
    · cases h
  · rintro rfl
    rw [dif_pos ip.length_groups]

theorem ofChars?_eq_some_iff : ofChars? cs = some ip ↔ Spells cs ip := by
  constructor
  · intro h
    rw [ofChars?] at h
    split at h
    · simp only [bind, Option.bind_eq_some_iff, tailGroups?_eq_some_iff,
        ofGroups?_eq_some_iff] at h
      obtain ⟨_, ⟨parts, hrun, rfl⟩, rfl⟩ := h
      exact .whole hrun
    · rename_i before after hgap
      simp only [bind, Option.bind_eq_some_iff, headGroups?_eq_some_iff,
        tailGroups?_eq_some_iff] at h
      obtain ⟨front, ⟨frontParts, hfront, rfl⟩, back, ⟨backParts, hback, rfl⟩, h⟩ := h
      split at h
      · rename_i hlt
        rw [ofGroups?_eq_some_iff] at h
        rw [eq_append_of_cutGap hgap]
        exact .gap hfront hback (by omega) h
      · cases h
  · intro h
    cases h with
    | @whole parts _ hrun =>
      have hgap : cutGap (Text.join [':'] parts) = none := by
        have h := cutGap_join_append [] hrun.of_mem
        rwa [List.append_nil] at h
      simp only [ofChars?, hgap, tailGroups?_eq_some_iff.2 ⟨parts, hrun, rfl⟩,
        Option.bind_eq_bind, Option.bind_some, ofGroups?_eq_some_iff]
    | @gap front back before after count _ hfront hback hcount hip =>
      have hgap : cutGap (Text.join [':'] front ++ ':' :: ':' :: Text.join [':'] back) =
          some (Text.join [':'] front, Text.join [':'] back) := by
        rw [cutGap_join_append _ (Run.of_forall₂ hfront).of_mem]
        simp [cutGap]
      have hlength : before.length + count + after.length = 8 := by
        rw [← ip.length_groups, ← hip, List.length_append, List.length_append,
          List.length_replicate]
      have hzeros : 8 - before.length - after.length = count := by omega
      have hlt : before.length + after.length < 8 := by omega
      simp only [ofChars?, hgap, headGroups?_eq_some_iff.2 ⟨front, hfront, rfl⟩,
        tailGroups?_eq_some_iff.2 ⟨back, hback, rfl⟩, Option.bind_eq_bind, Option.bind_some,
        if_pos hlt, hzeros, ofGroups?_eq_some_iff, hip]

/-! ## Characters -/

theorem Run.length_le (h : Run parts groups) : groups.length ≤ parts.length + 1 := by
  induction h with
  | nil => exact Nat.zero_le _
  | dotted _ => exact Nat.le_refl 2
  | group _ _ ih => exact Nat.succ_le_succ ih

/-- A colon occurs in every address. -/
theorem Spells.colon_mem (h : Spells cs ip) : ':' ∈ cs := by
  cases h with
  | gap _ _ _ _ => exact List.mem_append_right _ List.mem_cons_self
  | @whole parts _ hrun =>
    have hlength := hrun.length_le
    rw [ip.length_groups] at hlength
    match parts, hlength with
    | part :: next :: parts, _ => simp [Text.join]

/-- Parts have no sign. -/
theorem Run.plus_not_mem (h : Run parts groups) : ∀ part ∈ parts, '+' ∉ part := by
  induction h with
  | nil => exact fun _ hpart => nomatch hpart
  | dotted h =>
    intro part hpart
    obtain rfl := List.mem_singleton.1 hpart
    exact h.not_mem (by decide) (by decide)
  | group h _ ih => exact List.forall_mem_cons.2 ⟨h.not_mem (by decide), ih⟩

theorem Spells.plus_not_mem (h : Spells cs ip) : '+' ∉ cs := by
  have hjoin {parts : List (List Char)} {groups : List UInt16} (h : Run parts groups) :
      '+' ∉ Text.join [':'] parts := by
    intro hmem
    rcases Text.mem_join hmem with hsep | ⟨part, hpart, hplus⟩
    · exact absurd hsep (by decide)
    · exact h.plus_not_mem part hpart hplus
  cases h with
  | whole hrun => exact hjoin hrun
  | gap hfront hback _ _ =>
    simp [hjoin (Run.of_forall₂ hfront), hjoin hback]

/-! ## The canonical text -/

theorem group_hexadecimal (g : UInt16) : Group (Numeral.hexadecimal g.toNat) g :=
  ⟨(Numeral.value?_eq_some_iff (by decide)).1 (Numeral.value?_toDigits (by decide) (by decide) _),
    Numeral.length_toDigits_le (by decide) (by decide) g.toNat_lt⟩

theorem forall₂_group_hexadecimal (groups : List UInt16) :
    List.Forall₂ Group (groups.map fun g => Numeral.hexadecimal g.toNat) groups := by
  rw [List.forall₂_map_left_iff, List.forall₂_same]
  exact fun g _ => group_hexadecimal g

theorem replicate_leadingZeros (groups : List UInt16) :
    List.replicate (leadingZeros groups) 0 ++ groups.drop (leadingZeros groups) = groups := by
  induction groups with
  | nil => rfl
  | cons g groups ih =>
    by_cases hg : g = 0
    · have hcount : leadingZeros (g :: groups) = leadingZeros groups + 1 := by
        simp [leadingZeros, hg]
      rw [hcount, List.replicate_succ, List.cons_append, List.drop_succ_cons, ih, hg]
    · have hcount : leadingZeros (g :: groups) = 0 := by
        simp [leadingZeros, hg]
      rw [hcount]
      rfl

/-- The longest run of zeros is where it is said to be. -/
theorem take_longestZeros (groups : List UInt16) :
    groups.take (longestZeros groups).1 ++ List.replicate (longestZeros groups).2 0 ++
      groups.drop ((longestZeros groups).1 + (longestZeros groups).2) = groups := by
  induction groups with
  | nil => rfl
  | cons g groups ih =>
    simp only [longestZeros]
    split
    · rw [List.take_zero, List.nil_append, Nat.zero_add]
      exact replicate_leadingZeros (g :: groups)
    · rw [List.take_succ_cons, Nat.add_right_comm, List.drop_succ_cons, List.cons_append,
        List.cons_append, ih]

theorem spells_toChars (ip : Ipv6) : Spells ip.toChars ip := by
  have hrun (groups : List UInt16) := Run.of_forall₂ (forall₂_group_hexadecimal groups)
  rw [toChars]
  split
  · rename_i high low hgroups
    -- the mapped address: a gap, the group `ffff` and the dotted part
    have hffff : Group "ffff".toList 0xffff := group_hexadecimal 0xffff
    have hback := Run.group hffff (.dotted (Ipv4.ofGroups high low).spells_toChars)
    rw [Ipv4.groups_ofGroups] at hback
    exact .gap .nil hback (by decide : 0 < 5) hgroups.symm
  · simp only
    split
    · rename_i hlong
      rw [List.append_assoc]
      exact .gap (forall₂_group_hexadecimal _) (hrun _) (Nat.lt_of_lt_of_le (by decide) hlong)
        (take_longestZeros ip.groups)
    · exact .whole (hrun ip.groups)

end VpnAttach.Ipv6
