import VpnAttach.Text.Lines

/-!
# Decoding bytes

A run of bytes is decoded if it encodes some characters (`decode?_eq_some_iff`).
An ASCII byte encodes itself and occurs in the encoding of no other character,
so that text may be cut at it: both parts are valid UTF-8 if the whole is
(`valid_append_cons_iff`).
-/

namespace VpnAttach.Text

variable {bytes line xs ys : List UInt8} {b : UInt8} {c : Char} {cs : List Char} {text : String}

/-- The bytes of some characters. -/
def encode (cs : List Char) : List UInt8 :=
  cs.flatMap String.utf8EncodeChar

/-- The bytes are valid UTF-8. -/
def Valid (bytes : List UInt8) : Prop :=
  ByteArray.IsValidUTF8 ⟨bytes.toArray⟩

@[simp] theorem encode_nil : encode [] = [] := rfl

@[simp] theorem encode_cons : encode (c :: cs) = String.utf8EncodeChar c ++ encode cs := rfl

theorem encode_append (cs ds : List Char) : encode (cs ++ ds) = encode cs ++ encode ds :=
  List.flatMap_append

theorem utf8Encode_eq (cs : List Char) : cs.utf8Encode = ⟨(encode cs).toArray⟩ := by
  rw [List.utf8Encode, ← List.data_toByteArray]
  rfl

theorem valid_iff : Valid bytes ↔ ∃ cs, encode cs = bytes := by
  constructor
  · rintro ⟨cs, hcs⟩
    rw [utf8Encode_eq, ByteArray.mk.injEq] at hcs
    exact ⟨cs, (List.toArray_inj hcs).symm⟩
  · rintro ⟨cs, rfl⟩
    exact ⟨cs, (utf8Encode_eq cs).symm⟩

theorem decode?_encode (cs : List Char) : decode? (encode cs) = some (String.ofList cs) := by
  have hvalid : ByteArray.IsValidUTF8 ⟨(encode cs).toArray⟩ := valid_iff.2 ⟨cs, rfl⟩
  rw [decode?, String.fromUTF8?, dif_pos hvalid]
  refine congrArg some (String.toByteArray_inj.1 ?_)
  rw [String.toByteArray_ofList, utf8Encode_eq]
  rfl

theorem isSome_decode?_iff : (decode? line).isSome = true ↔ Valid line := by
  rw [decode?, String.fromUTF8?]
  by_cases hvalid : ByteArray.IsValidUTF8 ⟨line.toArray⟩
  · rw [dif_pos hvalid]
    exact iff_of_true rfl hvalid
  · rw [dif_neg hvalid]
    exact iff_of_false Bool.false_ne_true hvalid

/-- A line is decoded if it encodes the text. -/
theorem decode?_eq_some_iff : decode? line = some text ↔ encode text.toList = line := by
  constructor
  · intro h
    obtain ⟨cs, rfl⟩ := valid_iff.1 (isSome_decode?_iff.1 (Option.isSome_of_eq_some h))
    rw [decode?_encode, Option.some.injEq] at h
    rw [← h, String.toList_ofList]
  · rintro rfl
    rw [decode?_encode, String.ofList_toList]

/-! ## ASCII bytes -/

/-- All bytes of a character that needs several are above ASCII. -/
theorem utf8EncodeChar_of_mem (hb : b.toNat < 128) (h : b ∈ String.utf8EncodeChar c) :
    String.utf8EncodeChar c = [b] := by
  rw [String.utf8EncodeChar] at h ⊢
  split at h <;> rename_i hsize
  · rw [if_pos hsize, List.mem_singleton.1 h]
  · -- The bytes of a longer encoding are at least 128.
    exfalso
    split at h
    · simp only [List.mem_cons, List.not_mem_nil, or_false] at h
      rcases h with rfl | rfl <;> simp at hb <;> omega
    · split at h
      · simp only [List.mem_cons, List.not_mem_nil, or_false] at h
        rcases h with rfl | rfl | rfl <;> simp at hb <;> omega
      · simp only [List.mem_cons, List.not_mem_nil, or_false] at h
        rcases h with rfl | rfl | rfl | rfl <;> simp at hb <;> omega

theorem utf8EncodeChar_ascii (hb : b.toNat < 128) :
    String.utf8EncodeChar (Char.ofNat b.toNat) = [b] := by
  have hchar : b.toNat.isValidChar := Or.inl (by omega)
  have hvalue : (Char.ofNat b.toNat).val.toNat = b.toNat := by
    rw [Char.ofNat, dif_pos hchar]
    rfl
  rw [String.utf8EncodeChar]
  simp only [hvalue]
  rw [if_pos (by omega), UInt8.ofNat_toNat]

/-- Text may be cut at an ASCII byte. -/
theorem valid_append_cons_iff (hb : b.toNat < 128) :
    Valid (xs ++ b :: ys) ↔ Valid xs ∧ Valid ys := by
  simp only [valid_iff]
  constructor
  · rintro ⟨cs, hcs⟩
    induction cs generalizing xs with
    | nil => simp at hcs
    | cons c cs ih =>
      rw [encode_cons, List.append_eq_append_iff] at hcs
      rcases hcs with ⟨front, rfl, hrest⟩ | ⟨back, hchar, hrest⟩
      · obtain ⟨⟨ds, rfl⟩, hys⟩ := ih hrest
        exact ⟨⟨c :: ds, rfl⟩, hys⟩
      · cases back with
        | nil =>
          have hfront : encode cs = [] ++ b :: ys := hrest.symm
          rw [List.append_nil] at hchar
          exact ⟨⟨[c], by rw [encode_cons, hchar, encode_nil, List.append_nil]⟩, (ih hfront).2⟩
        | cons d back =>
          obtain ⟨rfl, hys⟩ := List.cons.inj hrest
          have hmem : b ∈ String.utf8EncodeChar c := by simp [hchar]
          rw [utf8EncodeChar_of_mem hb hmem, eq_comm, List.append_eq_singleton_iff] at hchar
          rcases hchar with ⟨rfl, hback⟩ | ⟨-, hnone⟩
          · obtain rfl := (List.cons.inj hback).2
            exact ⟨⟨[], rfl⟩, ⟨cs, hys.symm⟩⟩
          · cases hnone
  · rintro ⟨⟨cs, rfl⟩, ⟨ds, rfl⟩⟩
    refine ⟨cs ++ Char.ofNat b.toNat :: ds, ?_⟩
    rw [encode_append, encode_cons, utf8EncodeChar_ascii hb, List.singleton_append]

end VpnAttach.Text
