import Mathlib.Data.Rat.Cast.Order
import VpnAttach.Json.Basic

/-!
# Doubles as rational numbers

A double that is neither infinite nor NaN stands for a rational number.  Each
number has only one significand and exponent in the range of doubles, so two
such doubles are equal exactly if they stand for the same number
(`beq_iff_value?_eq`); the two zeros are equal.
-/

namespace VpnAttach.Json

open Float.Model Float.Model.UnpackedFloat

variable {x y : Float} {m m' : Nat} {e e' : Int}

/-- The number that the parts of a double stand for. -/
def partsValue? : Float.Model.UnpackedFloat → Option ℚ
  | .zero _ => some 0
  | .finite .positive m e _ => some (m * 2 ^ e)
  | .finite .negative m e _ => some (-(m * 2 ^ e))
  | .infinity _ | .notANumber => none

/-- The number that a double stands for. -/
def value? (x : Float) : Option ℚ :=
  partsValue? x.toModel.unpack

theorem isSome_value? : (value? x).isSome = x.isFinite := by
  rw [value?, Float.isFinite, Float.Model.isFinite]
  cases x.toModel.unpack with
  | finite sign _ _ _ => cases sign <;> rfl
  | zero _ | infinity _ | notANumber => rfl

/-- The significand fits in 53 bits, and it is as large as the least exponent
allows. -/
structure Canonical (m : Nat) (e : Int) : Prop where
  lt : m < 2 ^ 53
  le : -1074 ≤ e
  full : 2 ^ 52 ≤ m ∨ e = -1074

theorem toNat_implicit_append (mantissa : BitVec 52) :
    (1#1 ++ mantissa).toNat = 2 ^ 52 + mantissa.toNat := by
  rw [BitVec.toNat_append, ← Nat.shiftLeft_add_eq_or_of_lt mantissa.isLt]
  simp [Nat.shiftLeft_eq]

theorem canonical_of_unpack {bits : BitVec 64} {sign : Sign} {hm : 0 < m}
    (h : UnpackedFloat.unpack Format.binary64 bits = .finite sign m e hm) : Canonical m e := by
  unfold UnpackedFloat.unpack at h
  extract_lets mantissa biased exponent at h
  have hmantissa : mantissa.toNat < 2 ^ 52 := mantissa.isLt
  have hexponent : exponent = biased.toNat - 1075 := rfl
  rw [ite_eq_iff, ite_eq_iff, ite_eq_iff, dite_eq_iff] at h
  obtain ⟨_, ⟨_, h⟩ | ⟨_, h⟩⟩ | ⟨_, ⟨hzero, ⟨_, h⟩ | ⟨_, h⟩⟩ | ⟨hnonzero, h⟩⟩ := h
  · cases h
  · cases h
  · cases h
  · injection h with _ hm he
    rw [hzero, BitVec.toNat_zero] at hexponent
    exact ⟨by omega, by omega, Or.inr (by omega)⟩
  · injection h with _ hm he
    rw [toNat_implicit_append] at hm
    have hpos : biased.toNat ≠ 0 := fun hzero => hnonzero (BitVec.eq_of_toNat_eq hzero)
    exact ⟨by omega, by omega, Or.inl (by omega)⟩

/-- A number has only one canonical significand and exponent. -/
theorem Canonical.value_inj (h : Canonical m e) (h' : Canonical m' e') :
    (m : ℚ) * 2 ^ e = m' * 2 ^ e' ↔ e = e' ∧ m = m' := by
  -- with a smaller exponent the significand would have to be too large
  have hsmaller {m m' : Nat} {e e' : Int} (h : Canonical m e) (h' : Canonical m' e')
      (hvalue : (m : ℚ) * 2 ^ e = m' * 2 ^ e') : e' ≤ e := by
    by_contra hlt
    have hfull : 2 ^ 52 ≤ m' := h'.full.resolve_right fun he' => by
      have hle := h.le
      omega
    obtain ⟨k, hk⟩ := Int.eq_ofNat_of_zero_le (by omega : 0 ≤ e' - e - 1)
    have hsignificand : m = m' * 2 ^ (k + 1) := by
      have he' : e' = e + ((k + 1 : ℕ) : ℤ) := by
        push_cast
        omega
      rw [he', zpow_add₀ two_ne_zero, zpow_natCast, mul_left_comm] at hvalue
      have hcancel := mul_right_cancel₀ (zpow_ne_zero e (two_ne_zero (α := ℚ)))
        (hvalue.trans (mul_comm _ _))
      exact_mod_cast hcancel
    have hlarge : 2 ^ 53 ≤ m := by
      rw [hsignificand]
      calc 2 ^ 53 = 2 ^ 52 * 2 := Nat.pow_succ 2 52
        _ ≤ m' * 2 ^ (k + 1) := Nat.mul_le_mul hfull (Nat.le_self_pow (by omega) 2)
    exact absurd h.lt (Nat.not_lt.2 hlarge)
  constructor
  · intro hvalue
    have he : e = e' := le_antisymm (hsmaller h' h hvalue.symm) (hsmaller h h' hvalue)
    subst he
    have hcancel := mul_right_cancel₀ (zpow_ne_zero e (two_ne_zero (α := ℚ))) hvalue
    exact ⟨rfl, by exact_mod_cast hcancel⟩
  · rintro ⟨rfl, rfl⟩
    rfl

/-- Parts as they are found in a double that stands for a number. -/
def CanonicalParts : Float.Model.UnpackedFloat → Prop
  | .zero _ => True
  | .finite _ m e _ => Canonical m e
  | .infinity _ | .notANumber => False

theorem compare_magnitudes_iff : (compare e e').then (compare m m') = .eq ↔ e = e' ∧ m = m' := by
  rw [Ordering.then_eq_eq, Std.LawfulEqCmp.compare_eq_iff_eq, Std.LawfulEqCmp.compare_eq_iff_eq]

/-- Parts are compared as the numbers they stand for: sign by sign, then exponents, then
significands. -/
theorem beq_parts_iff {u v : Float.Model.UnpackedFloat} (hu : CanonicalParts u)
    (hv : CanonicalParts v) : u.beq v = true ↔ partsValue? u = partsValue? v := by
  have hpos {m : Nat} (e : Int) (hm : 0 < m) : 0 < (m : ℚ) * 2 ^ e :=
    mul_pos (Nat.cast_pos.2 hm) (zpow_pos two_pos e)
  have hneg {m : Nat} (e : Int) (hm : 0 < m) : -((m : ℚ) * 2 ^ e) < 0 :=
    neg_neg_of_pos (hpos e hm)
  have hdiffer {order : Option Ordering} {p q : ℚ} (horder : (order == some .eq) = false)
      (hpq : p ≠ q) : order = some .eq ↔ some p = some q :=
    iff_of_false (beq_eq_false_iff_ne.1 horder) fun h => hpq (Option.some.inj h)
  change (u.compare v == some .eq) = true ↔ _
  rw [beq_iff_eq]
  match u, v, hu, hv with
  | .zero _, .zero _, _, _ => exact iff_of_true rfl rfl
  | .zero _, .finite .positive _ e' hm', _, _ =>
    exact hdiffer rfl (hpos e' hm').ne
  | .zero _, .finite .negative _ e' hm', _, _ =>
    exact hdiffer rfl (hneg e' hm').ne'
  | .finite .positive _ e hm, .zero _, _, _ =>
    exact hdiffer rfl (hpos e hm).ne'
  | .finite .negative _ e hm, .zero _, _, _ =>
    exact hdiffer rfl (hneg e hm).ne
  | .finite .positive _ e hm, .finite .negative _ e' hm', _, _ =>
    exact hdiffer rfl ((hneg e' hm').trans (hpos e hm)).ne'
  | .finite .negative _ e hm, .finite .positive _ e' hm', _, _ =>
    exact hdiffer rfl ((hneg e hm).trans (hpos e' hm')).ne
  | .finite .positive m e _, .finite .positive m' e' _, hu, hv =>
    change some ((compare e e').then (compare m m')) = some .eq ↔
      some ((m : ℚ) * 2 ^ e) = some ((m' : ℚ) * 2 ^ e')
    rw [Option.some.injEq, Option.some.injEq, compare_magnitudes_iff, Canonical.value_inj hu hv]
  | .finite .negative m e _, .finite .negative m' e' _, hu, hv =>
    change some ((compare e e').then (compare m m')).swap = some .eq ↔
      some (-((m : ℚ) * 2 ^ e)) = some (-((m' : ℚ) * 2 ^ e'))
    rw [Option.some.injEq, Option.some.injEq, Ordering.swap_eq_eq, compare_magnitudes_iff,
      neg_inj, Canonical.value_inj hu hv]

/-- Doubles that stand for numbers are equal if the numbers are. -/
theorem beq_iff_value?_eq (hx : x.isFinite = true) (hy : y.isFinite = true) :
    (x == y) = true ↔ value? x = value? y := by
  have hparts {x : Float} (hx : x.isFinite = true) : CanonicalParts x.toModel.unpack := by
    rw [← isSome_value?, value?] at hx
    cases hu : x.toModel.unpack with
    | zero _ => trivial
    | finite _ _ _ _ => exact canonical_of_unpack hu
    | infinity _ => rw [hu] at hx; cases hx
    | notANumber => rw [hu] at hx; cases hx
  exact beq_parts_iff (hparts hx) (hparts hy)

end VpnAttach.Json
