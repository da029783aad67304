import VpnAttach.Text.Numeral

/-!
# Ids

Ids for objects that are created without one.  They look like random UUIDs
(version 4): a random number of 122 bits is drawn once, and every further id
is the one after it.
-/

namespace VpnAttach.Ids

/-- How many ids there are. -/
def count : Nat := 1 <<< 122

/-- `n` in hexadecimal, with `width` digits. -/
def digits (width n : Nat) : List Char :=
  Numeral.padZeros width (Numeral.hexadecimal (n % 1 <<< (4 * width)))

/-- The UUID with a given random part. -/
def uuid (random : Nat) : String :=
  let high := random >>> 74
  let middle := random >>> 62 % 1 <<< 12
  let low := random % 1 <<< 62 + 1 <<< 63
  String.ofList <|
    digits 8 (high >>> 16) ++ '-' :: digits 4 (high % 1 <<< 16) ++
      '-' :: '4' :: digits 3 middle ++ '-' :: digits 4 (low >>> 48) ++
      '-' :: digits 12 (low % 1 <<< 48)

/-- The ids that follow a random number. -/
def after (random n : Nat) : String :=
  uuid ((random + n) % count)

end VpnAttach.Ids
