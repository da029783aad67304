import VpnAttach.Address.Json
import VpnAttach.Proofs.Address.Ipv4
import VpnAttach.Proofs.Json.Plain

/-!
# The text of route targets

`RouteTarget.Spelled` is the grammar: an autonomous system number or an IPv4
address, a colon and an assigned number, of such sizes that both fit in six
octets.  The reader takes exactly these texts, and a route target is encoded
as the text it was read from.
-/

namespace VpnAttach.RouteTarget

open Numeral

variable {cs : List Char} {n : Nat} {s : String}

/-! ## Grammar -/

/-- One to ten decimal digits. -/
def Number (cs : List Char) (n : Nat) : Prop :=
  Denotes 10 cs n ∧ cs.length ≤ 10

/-- An administrator and an assigned number with a colon between them. -/
inductive Spelled : List Char → Prop
  | asn {administrator assigned : List Char} {a n : Nat} (ha : Number administrator a)
      (hn : Number assigned n)
      (hfits : (a ≤ 65535 ∧ n ≤ 4294967295) ∨ (a ≤ 4294967295 ∧ n ≤ 65535)) :
      Spelled (administrator ++ ':' :: assigned)
  | address {administrator assigned : List Char} {ip : Ipv4} {n : Nat}
      (hip : Ipv4.Spells administrator ip) (hn : Number assigned n) (hle : n ≤ 65535) :
      Spelled (administrator ++ ':' :: assigned)

theorem Number.not_mem (h : Number cs n) {c : Char} (hc : Numeral.isDigit 10 c = false) :
    c ∉ cs :=
  h.1.not_mem (by decide) hc

theorem number?_eq_some_iff : number? cs = some n ↔ Number cs n := by
  rw [number?, Number, ← value?_eq_some_iff (by decide), and_comm]
  by_cases hlength : cs.length ≤ 10 <;> simp [hlength]

/-- A dotted address is not a number. -/
theorem number?_of_spells {ip : Ipv4} (h : Ipv4.Spells cs ip) : number? cs = none := by
  cases hnumber : number? cs with
  | none => rfl
  | some n => exact absurd h.dot_mem ((number?_eq_some_iff.1 hnumber).not_mem (by decide))

theorem fits_iff {a : Nat} : Fits a n ↔
    (a ≤ 65535 ∧ n ≤ 4294967295) ∨ (a ≤ 4294967295 ∧ n ≤ 65535) := by
  simp only [Fits, UInt16.size, UInt32.size]
  omega

theorem isText_iff : isText cs = true ↔ Spelled cs := by
  constructor
  · intro h
    rw [isText] at h
    split at h
    · rename_i administrator assigned hsplit
      obtain ⟨rfl, -, -⟩ := Text.splitOn_eq_pair_iff.1 hsplit
      split at h
      · cases h
      · rename_i n hn
        rw [number?_eq_some_iff] at hn
        split at h
        · rename_i a ha
          exact .asn (number?_eq_some_iff.1 ha) hn (fits_iff.1 (of_decide_eq_true h))
        · rw [Bool.and_eq_true, Option.isSome_iff_exists] at h
          obtain ⟨⟨ip, hip⟩, hlt⟩ := h
          exact .address (Ipv4.ofChars?_eq_some_iff.1 hip) hn
            (Nat.le_of_lt_succ (of_decide_eq_true hlt))
    · cases h
  · intro h
    cases h with
    | @asn administrator assigned a n ha hn hfits =>
      have hsplit : Text.splitOn ':' (administrator ++ ':' :: assigned) =
          [administrator, assigned] :=
        Text.splitOn_eq_pair_iff.2 ⟨rfl, ha.not_mem (by decide), hn.not_mem (by decide)⟩
      simp only [isText, hsplit, number?_eq_some_iff.2 hn, number?_eq_some_iff.2 ha]
      exact decide_eq_true (fits_iff.2 hfits)
    | @address administrator assigned ip n hip hn hle =>
      have hsplit : Text.splitOn ':' (administrator ++ ':' :: assigned) =
          [administrator, assigned] :=
        Text.splitOn_eq_pair_iff.2
          ⟨rfl, hip.not_mem (by decide) (by decide), hn.not_mem (by decide)⟩
      simp only [isText, hsplit, number?_eq_some_iff.2 hn, number?_of_spells hip,
        Ipv4.ofChars?_eq_some_iff.2 hip, Option.isSome_some, Bool.true_and]
      exact decide_eq_true (Nat.lt_succ_of_le hle)

/-! ## Characters -/

theorem plain_of_isDigit {c : Char} (h : Numeral.isDigit 10 c = true) : Json.Plain c := by
  obtain ⟨d, hd⟩ := Option.isSome_iff_exists.1 h
  obtain ⟨hlt, hc⟩ := (digit?_eq_some_iff (by decide)).1 hd
  have hplain : ∀ d < 10, Json.Plain d.digitChar ∧ Json.Plain d.digitChar.toUpper := by
    decide
  rcases hc with rfl | rfl
  · exact (hplain d hlt).1
  · exact (hplain d hlt).2

/-- Nothing in a route target has to be escaped in a string. -/
theorem Spelled.plain (h : Spelled cs) : ∀ c ∈ cs, Json.Plain c := by
  have hnumber {cs : List Char} {n : Nat} (h : Number cs n) : ∀ c ∈ cs, Json.Plain c :=
    fun c hc => plain_of_isDigit (h.1.isDigit (by decide) c hc)
  have hcolon : Json.Plain ':' := by decide
  cases h with
  | asn ha hn _ =>
    rw [List.forall_mem_append, List.forall_mem_cons]
    exact ⟨hnumber ha, hcolon, hnumber hn⟩
  | address hip hn _ =>
    rw [List.forall_mem_append, List.forall_mem_cons]
    refine ⟨fun c hc => ?_, hcolon, hnumber hn⟩
    rcases hip.mem hc with rfl | hdigit
    · decide
    · exact plain_of_isDigit hdigit

/-! ## Reading and encoding -/

theorem exists_ofString_eq_ok_iff :
    (∃ target, ofString s = .ok target) ↔ Spelled s.toList := by
  rw [← isText_iff, ofString]
  split
  · rename_i h
    simp [h]
  · rename_i h
    simp [h]

theorem text_of_ofString {target : RouteTarget} (h : ofString s = .ok target) :
    target.text = s := by
  rw [ofString] at h
  split at h
  · cases h
    rfl
  · cases h

/-- A route target is spelled as the grammar says and kept as it was written. -/
theorem kept_as_written (s : String) :
    ((∃ target, ofString s = .ok target) ↔ Spelled s.toList) ∧
      (∀ target, ofString s = .ok target →
        target.text = s ∧ target.toJson = .str s ∧ ofJson? target.toJson = some target ∧
          target.toJson.toChars = '"' :: s.toList ++ ['"'] ∧
          (Json.ofString? target.toJson.text).bind ofJson? = some target) ∧
      ∀ fault, ofString s = .error fault → fault = .routeTarget s := by
  refine ⟨exists_ofString_eq_ok_iff, fun target h => ?_, fun fault h => ?_⟩
  · have hplain := (exists_ofString_eq_ok_iff.1 ⟨target, h⟩).plain
    have htext := text_of_ofString h
    have hjson : target.toJson = .str s := by rw [toJson, htext]
    have hread : ofJson? (.str s) = some target := by rw [ofJson?, h, Except.toOption]
    rw [hjson, Json.toChars_str_of_plain hplain, Json.ofString?_text_of_plain hplain]
    exact ⟨htext, rfl, hread, rfl, hread⟩
  · rw [ofString] at h
    split at h
    · cases h
    · cases h
      rfl

/-- Either number may take four octets, but not both. -/
theorem kept_as_written_largestAssigned :
    (∃ target, ofString "65535:4294967295" = .ok target ∧ target.text = "65535:4294967295" ∧
      (Json.ofString? target.toJson.text).bind ofJson? = some target) ∧
      ¬Spelled "65536:65536".toList := by
  obtain ⟨target, htarget⟩ : ∃ target, ofString "65535:4294967295" = .ok target :=
    ⟨⟨"65535:4294967295", by decide⟩, by decide⟩
  have hrefused : ofString "65536:65536" = .error (.routeTarget "65536:65536") := by decide
  obtain ⟨htext, _, _, _, hread⟩ := (kept_as_written "65535:4294967295").2.1 target htarget
  refine ⟨⟨target, htarget, htext, hread⟩, fun h => ?_⟩
  obtain ⟨_, hok⟩ := (kept_as_written "65536:65536").1.2 h
  exact nomatch hrefused.symm.trans hok

end VpnAttach.RouteTarget
