import Mathlib.Algebra.Group.Nat.Defs
import Mathlib.Data.List.Induction
import VpnAttach.Text.Numeral

/-!
# Laws of numerals

The digits of a number, read again, give the number.  `Denotes` is the grammar
of numerals: `value?` reads exactly the numerals (`value?_eq_some_iff`), and
machine words may have a plus sign in front (`byte?_eq_some_iff`).
-/

namespace VpnAttach.Numeral

variable {base n : Nat} {cs : List Char}

theorem digit?_digitChar {d : Nat} (hd : d < base) (hbase : base ≤ 16) :
    digit? base d.digitChar = some d := by
  have hvalue : ∀ d < 16, digit? 16 d.digitChar = some d := by decide
  have hd16 := hvalue d (by omega)
  simp only [digit?, Option.filter_eq_some_iff] at hd16 ⊢
  exact ⟨hd16.1, by simpa using hd⟩

theorem valueFrom?_append (acc : Nat) (cs ds : List Char) :
    valueFrom? base acc (cs ++ ds) =
      (valueFrom? base acc cs).bind fun n => valueFrom? base n ds := by
  induction cs generalizing acc with
  | nil => rfl
  | cons c cs ih =>
    rw [List.cons_append, valueFrom?, valueFrom?]
    cases digit? base c with
    | none => rfl
    | some d => exact ih _

theorem valueFrom?_toDigits (hbase : 1 < base) (hle : base ≤ 16) (n : Nat) :
    valueFrom? base 0 (Nat.toDigits base n) = some n := by
  induction n using Nat.strongRecOn with
  | ind n ih =>
    rw [Nat.toDigits_eq_if hbase]
    split
    · rename_i hn
      simp [valueFrom?, digit?_digitChar hn hle]
    · rename_i hn
      have hlt : n / base < n := Nat.div_lt_self (by omega) hbase
      rw [valueFrom?_append, ih _ hlt]
      have hd : n % base < base := Nat.mod_lt _ (by omega)
      simp only [Option.bind_some, valueFrom?, digit?_digitChar hd hle]
      exact congrArg some (Nat.div_add_mod' n base)

/-- Reading the digits of a number gives the number. -/
theorem value?_toDigits (hbase : 1 < base) (hle : base ≤ 16) (n : Nat) :
    value? base (Nat.toDigits base n) = some n := by
  rw [value?, if_neg (by simp [Nat.toDigits_ne_nil]), valueFrom?_toDigits hbase hle]

/-- What is read as a number consists of digits. -/
theorem isDigit_of_value? (h : value? base cs = some n) : ∀ c ∈ cs, isDigit base c = true := by
  have hfrom (acc : Nat) (cs : List Char) {n : Nat} (h : valueFrom? base acc cs = some n) :
      ∀ c ∈ cs, isDigit base c = true := by
    induction cs generalizing acc with
    | nil => exact fun _ hc => nomatch hc
    | cons c cs ih =>
      rw [valueFrom?] at h
      cases hd : digit? base c with
      | none => simp [hd] at h
      | some d =>
        rw [hd] at h
        intro e he
        rcases List.mem_cons.1 he with rfl | he
        · rw [isDigit, hd, Option.isSome_some]
        · exact ih _ h e he
  rw [value?] at h
  split at h
  · cases h
  · exact hfrom 0 cs h

theorem length_toDigits_le {k : Nat} (hbase : 1 < base) (hk : 0 < k) (hn : n < base ^ k) :
    (Nat.toDigits base n).length ≤ k :=
  (Nat.length_toDigits_le_iff hbase hk).2 hn

/-- Only zero starts with the digit zero. -/
theorem eq_zero_of_head? (hbase : 1 < base)
    (h : (Nat.toDigits base n).head? = some '0') : n = 0 := by
  induction n using Nat.strongRecOn with
  | ind n ih =>
    rw [Nat.toDigits_eq_if hbase] at h
    split at h
    · simpa using h
    · rename_i hn
      have hlt : n / base < n := Nat.div_lt_self (by omega) hbase
      have hhead : (Nat.toDigits base (n / base)).head? = some '0' := by
        rw [List.head?_append] at h
        cases hdigits : Nat.toDigits base (n / base) with
        | nil => exact absurd hdigits Nat.toDigits_ne_nil
        | cons c cs => simpa [hdigits] using h
      have hquot := ih _ hlt hhead
      have hpos : 0 < n / base := Nat.div_pos (by omega) (by omega)
      omega

/-- Zeros in front do not change a number. -/
theorem value?_padZeros (hbase : 0 < base) (width : Nat) (h : cs ≠ []) :
    value? base (padZeros width cs) = value? base cs := by
  have hzeros (k : Nat) (cs : List Char) :
      valueFrom? base 0 (List.replicate k '0' ++ cs) = valueFrom? base 0 cs := by
    induction k with
    | zero => rfl
    | succ k ih =>
      have hdigit : digit? base '0' = some 0 := by simp [digit?, hbase]
      rw [List.replicate_succ, List.cons_append, valueFrom?, hdigit]
      simpa using ih
  rw [value?, value?, padZeros, hzeros, if_neg (by simp [h]), if_neg (by simp [h])]

/-! ## Grammar -/

variable {d : Nat} {c : Char}

/-- `c` is the digit of value `d` in `base`; a letter may stand in either case. -/
def Digit (base : Nat) (c : Char) (d : Nat) : Prop :=
  d < base ∧ (c = d.digitChar ∨ c = d.digitChar.toUpper)

instance (base : Nat) (c : Char) (d : Nat) : Decidable (Digit base c d) :=
  inferInstanceAs (Decidable (_ ∧ _))

/-- `cs` is a numeral for `n` in `base`: a run of digits, the most significant
first. -/
inductive Denotes (base : Nat) : List Char → Nat → Prop
  | digit {c : Char} {d : Nat} (h : Digit base c d) : Denotes base [c] d
  | snoc {cs : List Char} {n : Nat} {c : Char} {d : Nat} (front : Denotes base cs n)
      (h : Digit base c d) : Denotes base (cs ++ [c]) (n * base + d)

theorem digit?_eq_some_iff (hle : base ≤ 16) : digit? base c = some d ↔ Digit base c d := by
  have hbound (h : digit? base c = some d) : d < base := by
    rw [digit?, Option.filter_eq_some_iff] at h
    simpa using h.2
  have hbase : digit? base c = some d ↔ d < base ∧ digit? 16 c = some d := by
    constructor
    · intro h
      have hd := hbound h
      rw [digit?, Option.filter_eq_some_iff] at h ⊢
      exact ⟨hd, h.1, decide_eq_true (Nat.lt_of_lt_of_le hd hle)⟩
    · intro h
      rw [digit?, Option.filter_eq_some_iff] at h ⊢
      exact ⟨h.2.1, decide_eq_true h.1⟩
  have hascii : ∀ n < 128, ∀ d < 16, digit? 16 (Char.ofNat n) = some d ↔
      Char.ofNat n = d.digitChar ∨ Char.ofNat n = d.digitChar.toUpper := by decide +kernel
  have hchar (hd : d < 16) : digit? 16 c = some d ↔
      c = d.digitChar ∨ c = d.digitChar.toUpper := by
    by_cases hc : c.toNat < 128
    · have h := hascii c.toNat hc d hd
      rwa [Char.ofNat_toNat] at h
    · have hlarge (e : Char) (he : e.toNat < 128) : ¬c ≤ e := fun h =>
        hc (Nat.lt_of_le_of_lt h he)
      have hsmall : ∀ d < 16, d.digitChar.toNat < 128 ∧ d.digitChar.toUpper.toNat < 128 := by
        decide
      constructor
      · intro h
        simp [digit?, hlarge] at h
      · rintro (rfl | rfl)
        · exact absurd (hsmall d hd).1 hc
        · exact absurd (hsmall d hd).2 hc
  rw [hbase, Digit]
  exact and_congr_right fun hd => hchar (Nat.lt_of_lt_of_le hd hle)

theorem value?_eq_some_iff (hle : base ≤ 16) : value? base cs = some n ↔ Denotes base cs n := by
  have hsnoc (cs : List Char) (c : Char) : value? base (cs ++ [c]) =
      (valueFrom? base 0 cs).bind fun n => (digit? base c).map (n * base + ·) := by
    rw [value?, if_neg (by simp), valueFrom?_append]
    congr 1
    funext n
    cases h : digit? base c <;> simp [valueFrom?, h]
  constructor
  · intro h
    induction cs using List.reverseRecOn generalizing n with
    | nil => cases h
    | append_singleton cs c ih =>
      rw [hsnoc, Option.bind_eq_some_iff] at h
      obtain ⟨m, hm, hd⟩ := h
      obtain ⟨d, hdigit, rfl⟩ := Option.map_eq_some_iff.1 hd
      rw [digit?_eq_some_iff hle] at hdigit
      cases hcs : cs with
      | nil =>
        rw [hcs] at hm
        obtain rfl : 0 = m := Option.some.inj hm
        simpa using Denotes.digit hdigit
      | cons first rest =>
        rw [← hcs]
        refine .snoc (ih ?_) hdigit
        rw [value?, if_neg (by simp [hcs]), hm]
  · intro h
    induction h with
    | digit hd =>
      rw [← digit?_eq_some_iff hle] at hd
      simp [value?, valueFrom?, hd]
    | @snoc cs n c d front hd ih =>
      rw [value?] at ih
      split at ih
      · cases ih
      · rw [hsnoc, ih, Option.bind_some, (digit?_eq_some_iff hle).2 hd, Option.map_some]

/-- Only one character is a zero. -/
theorem Digit.eq_zero (h : Digit base c 0) : c = '0' :=
  h.2.elim id id

theorem Denotes.ne_nil (h : Denotes base cs n) : cs ≠ [] := by
  cases h with
  | digit _ => exact List.cons_ne_nil _ _
  | snoc _ _ => exact List.append_ne_nil_of_right_ne_nil _ (List.cons_ne_nil _ _)

theorem Denotes.lt_pow_length (h : Denotes base cs n) : n < base ^ cs.length := by
  induction h with
  | digit hd => simpa using hd.1
  | @snoc cs n c d front hd ih =>
    rw [List.length_append, List.length_singleton, Nat.pow_succ]
    calc n * base + d < n * base + base := Nat.add_lt_add_left hd.1 _
      _ = (n + 1) * base := (Nat.succ_mul n base).symm
      _ ≤ base ^ cs.length * base := Nat.mul_le_mul_right base ih

/-- Without a zero in front, every digit counts. -/
theorem Denotes.pow_length_le (h : Denotes base cs n) (hhead : cs.head? ≠ some '0') :
    base ^ (cs.length - 1) ≤ n := by
  induction h with
  | @digit c d hd =>
    have hpos : d ≠ 0 := by
      rintro rfl
      exact hhead (congrArg some (hd.eq_zero))
    simpa using Nat.one_le_iff_ne_zero.2 hpos
  | @snoc cs n c d front hd ih =>
    have hlength : 0 < cs.length := List.length_pos_iff.2 front.ne_nil
    have hfront : base ^ (cs.length - 1) ≤ n := by
      refine ih fun hfront => hhead ?_
      rw [List.head?_append, hfront, Option.some_or]
    calc base ^ ((cs ++ [c]).length - 1) = base ^ (cs.length - 1) * base := by
          rw [List.length_append, List.length_singleton, ← Nat.pow_succ]
          congr 1
          omega
      _ ≤ n * base := Nat.mul_le_mul_right base hfront
      _ ≤ n * base + d := Nat.le_add_right _ _

theorem Denotes.isDigit (h : Denotes base cs n) (hle : base ≤ 16) :
    ∀ c ∈ cs, Numeral.isDigit base c = true :=
  isDigit_of_value? ((value?_eq_some_iff hle).2 h)

theorem Denotes.not_mem (h : Denotes base cs n) (hle : base ≤ 16)
    (hc : Numeral.isDigit base c = false) : c ∉ cs := by
  intro hmem
  rw [h.isDigit hle c hmem] at hc
  cases hc

theorem Denotes.plus_not_mem (h : Denotes base cs n) (hle : base ≤ 16) : '+' ∉ cs :=
  h.not_mem hle (by simp [Numeral.isDigit, digit?])

/-- `cs` is a numeral for `n`, which may have a plus sign in front. -/
def DenotesSigned (base : Nat) (cs : List Char) (n : Nat) : Prop :=
  Denotes base cs n ∨ ∃ digits, cs = '+' :: digits ∧ Denotes base digits n

theorem DenotesSigned.not_mem (h : DenotesSigned base cs n) (hle : base ≤ 16)
    (hplus : c ≠ '+') (hc : Numeral.isDigit base c = false) : c ∉ cs := by
  obtain hdigits | ⟨digits, rfl, hdigits⟩ := h
  · exact hdigits.not_mem hle hc
  · rw [List.mem_cons, not_or]
    exact ⟨hplus, hdigits.not_mem hle hc⟩

theorem denotes_iff (hle : base ≤ 16) :
    Denotes base cs n ↔ DenotesSigned base cs n ∧ '+' ∉ cs := by
  constructor
  · exact fun h => ⟨Or.inl h, h.plus_not_mem hle⟩
  · rintro ⟨h | ⟨digits, rfl, -⟩, hplus⟩
    · exact h
    · exact absurd List.mem_cons_self hplus

theorem unsigned?_eq_some_iff (hle : base ≤ 16) :
    unsigned? base cs = some n ↔ DenotesSigned base cs n := by
  rw [DenotesSigned]
  unfold unsigned?
  split
  · rename_i digits
    have hplus : ¬Denotes base ('+' :: digits) n := fun h =>
      h.plus_not_mem hle List.mem_cons_self
    rw [value?_eq_some_iff hle]
    simp [hplus]
  · rename_i hne
    rw [value?_eq_some_iff hle]
    exact (or_iff_left fun ⟨digits, hcs, _⟩ => hne digits hcs).symm

/-- A byte is read if it is written as a number, with or without a plus sign. -/
theorem byte?_eq_some_iff (hle : base ≤ 16) {b : UInt8} :
    byte? base cs = some b ↔ DenotesSigned base cs b.toNat := by
  rw [← unsigned?_eq_some_iff hle, byte?]
  cases unsigned? base cs with
  | none => simp
  | some n =>
    have hb : b.toNat < 256 := b.toNat_lt
    by_cases hn : n < 256
    · have hofNat : (UInt8.ofNat n).toNat = n := UInt8.toNat_ofNat_of_lt' hn
      simp only [hn, if_true, Option.some.injEq, ← UInt8.toNat_inj, hofNat]
    · have hne : n ≠ b.toNat := by omega
      simp only [hn, if_false, reduceCtorEq, Option.some.injEq, hne]

end VpnAttach.Numeral
