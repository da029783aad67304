import VpnAttach.Json.Basic
import VpnAttach.Decimal.Shortest

/-!
# Writing JSON text

Compact JSON: no blanks, members in the order in which they stand, and
characters beyond ASCII as they are.  A double is written with the fewest
digits that read back, positionally from `1e-5` up to `1e16` and with a point
even if it is a whole number; elsewhere with an exponent, which always has a
sign.
-/

namespace VpnAttach.Json

/-- The digits of a positive double with its point or exponent in place.  The
point is `point` digits to the right of the first digit. -/
def placePoint (digits : List Char) (point : Int) : List Char :=
  let size : Int := digits.length
  if size ≤ point ∧ point ≤ 16 then
    digits ++ List.replicate (point - size).toNat '0' ++ ['.', '0']
  else if 0 < point ∧ point ≤ 16 then
    digits.take point.toNat ++ '.' :: digits.drop point.toNat
  else if -5 < point ∧ point ≤ 0 then
    ['0', '.'] ++ List.replicate (-point).toNat '0' ++ digits
  else
    let exponent := (if 0 < point then '+' else '-') ::
      Numeral.decimal (point - 1).natAbs
    match digits with
    | [d] => d :: 'e' :: exponent
    | d :: rest => d :: '.' :: rest ++ 'e' :: exponent
    | [] => []

/-- The text of a double.  Infinities and NaN have none, and are written as
`null`. -/
def floatChars (x : Float) : List Char :=
  if x.isNaN || x.isInf then "null".toList
  else
    let sign := if x.toBits < 0x8000000000000000 then [] else ['-']
    let bits := x.abs.toBits
    if bits = 0 then sign ++ ['0', '.', '0']
    else
      let d := (Decimal.Binary.ofBits bits).shortest
      sign ++ placePoint (Numeral.decimal d.digits) d.pointAt

/-- The text of a character inside a string. -/
def escape (c : Char) : List Char :=
  if c = '"' then ['\\', '"']
  else if c = '\\' then ['\\', '\\']
  else if c = '\n' then ['\\', 'n']
  else if c = '\r' then ['\\', 'r']
  else if c = '\t' then ['\\', 't']
  else if c = '\x08' then ['\\', 'b']
  else if c = '\x0c' then ['\\', 'f']
  else if c < ' ' then
    '\\' :: 'u' :: Numeral.padZeros 4 (Numeral.hexadecimal c.toNat)
  else [c]

/-- A string with its quotes. -/
def quote (s : String) : List Char :=
  '"' :: s.toList.flatMap escape ++ ['"']

mutual

/-- The compact text of a value, as characters. -/
def toChars : Json → List Char
  | .null => "null".toList
  | .bool value => (if value then "true" else "false").toList
  | .int value => (toString value).toList
  | .float value => floatChars value
  | .str value => quote value
  | .arr items => '[' :: itemsChars items ++ [']']
  | .obj members => '{' :: membersChars members ++ ['}']
  | .unheld => "null".toList

/-- The items of an array, with commas between them. -/
def itemsChars : List Json → List Char
  | [] => []
  | [item] => toChars item
  | item :: items => toChars item ++ ',' :: itemsChars items

/-- The members of an object, with commas between them. -/
def membersChars : List (String × Json) → List Char
  | [] => []
  | [(key, value)] => quote key ++ ':' :: toChars value
  | (key, value) :: members =>
    quote key ++ ':' :: toChars value ++ ',' :: membersChars members

end

/-- The compact text of a value. -/
def text (json : Json) : String :=
  String.ofList json.toChars

end VpnAttach.Json
