import VpnAttach.Decimal.Nearest
import VpnAttach.Toml.Tree

/-!
# TOML numbers

Whether a text is a number is a question of its shape alone: of its sign, its
digits and the underscores between them.  What a number stands for is another
question, to which there may be no answer: an integer has at most 128 bits, a
float has to be in the range of doubles, and digits can be missing behind a
prefix or be letters behind an underscore.  Such a number is
`Toml.unheld`.
-/

namespace VpnAttach.Toml

/-! ## Signs, digits and underscores -/

/-- A sign at the start of a text: whether it is a minus, and what follows. -/
def sign : List Char → Bool × List Char
  | '+' :: cs => (false, cs)
  | '-' :: cs => (true, cs)
  | cs => (false, cs)

/-- Whether every underscore has digits of the base on both sides.  The flag
tells whether a digit stands before the text. -/
def spacedFrom (base : Nat) : Bool → List Char → Bool
  | _, [] => true
  | _, ['_'] => false
  | before, '_' :: c :: cs =>
    before && Numeral.isDigit base c && spacedFrom base true cs
  | _, c :: cs => spacedFrom base (Numeral.isDigit base c) cs

/-- Whether every underscore has digits of the base on both sides. -/
def spaced (base : Nat) (cs : List Char) : Bool :=
  spacedFrom base false cs

/-- A text without its underscores. -/
def joined (cs : List Char) : List Char :=
  cs.filter (· != '_')

/-- The decimal digits at the start of a text, of which there is at least one,
with the underscores between them, and what follows. -/
def digitRun? (cs : List Char) : Option (List Char × List Char) :=
  let (run, rest) := cs.span fun c => c == '_' || Numeral.isDigit 10 c
  if (joined run).isEmpty then none else some (run, rest)

/-! ## Integers -/

/-- The integer written in digits of a base, if it has at most 128 bits. -/
def ofDigits (base : Nat) (negative : Bool) (digits : List Char) : Toml :=
  match Numeral.value? base (joined digits) with
  | none => .unheld
  | some n =>
    let n : Int := if negative then -(n : Int) else n
    if -((1 <<< 127 : Nat) : Int) ≤ n ∧ n < (1 <<< 128 : Nat) then .int n else .unheld

/-- An integer behind the prefix of its base.  There may be no digits. -/
def prefixed? (base : Nat) (digits : List Char) : Option Toml :=
  if (joined digits).all (Numeral.isDigit base) && spaced base digits then
    some (ofDigits base false digits)
  else none

/-- Whether a text without sign has the shape of a decimal integer.  Zero stands
alone.  Behind the first underscore, letters up to `f` count as digits, and
nothing is asked of a character that is not next to an underscore. -/
def isWhole (cs : List Char) : Bool :=
  match cs.dropWhile (Numeral.isDigit 10) with
  | [] => cs == ['0'] || (!cs.isEmpty && cs.head? != some '0')
  | '_' :: rest => cs.head? != some '0' && spaced 16 cs &&
    !rest.any fun c => c == '.' || c == 'e' || c == 'E'
  | _ => false

/-! ## Floats -/

/-- The exponent of a float behind its letter, and what follows. -/
def exponent? (cs : List Char) : Option (Int × List Char) := do
  let (negative, cs) := sign cs
  let (run, rest) ← digitRun? cs
  let size ← Numeral.value? 10 (joined run)
  return (if negative then -(size : Int) else size, rest)

/-- The digits and the exponent of a float without sign.  Zero does not come
before other digits, and there is a fraction or an exponent. -/
def decimal? (cs : List Char) : Option Decimal.Scaled := do
  let (whole, marked) ← digitRun? cs
  if whole.head? = some '0' ∧ 1 < (joined whole).length ∨ marked = [] then none
  let (fraction, rest) ← match marked with
    | '.' :: cs => digitRun? cs
    | cs => some ([], cs)
  let (exponent, rest) ← match rest with
    | 'e' :: cs | 'E' :: cs => exponent? cs
    | cs => some (0, cs)
  if rest ≠ [] then none
  let places : Int := (joined fraction).length
  return ⟨← Numeral.value? 10 (joined (whole ++ fraction)), exponent - places⟩

/-- The float of a decimal, if it is in range. -/
def ofDecimal (negative : Bool) (d : Decimal.Scaled) : Toml :=
  match d.toFloat? with
  | some x => .float (if negative then -x else x)
  | none => .unheld

/-! ## Any number -/

/-- A number that is written in decimal, or in a word. -/
def signed? (cs : List Char) : Option Toml :=
  let (negative, cs) := sign cs
  match cs with
  | ['i', 'n', 'f'] => some (.float (if negative then -1.0 / 0.0 else 1.0 / 0.0))
  | ['n', 'a', 'n'] => some (.float (0.0 / 0.0))
  | cs =>
    if isWhole cs then some (ofDigits 10 negative cs)
    else if spaced 10 cs then (decimal? cs).map (ofDecimal negative)
    else none

/-- The number a text has the shape of. -/
def number? : List Char → Option Toml
  | '0' :: 'x' :: digits => prefixed? 16 digits
  | '0' :: 'o' :: digits => prefixed? 8 digits
  | '0' :: 'b' :: digits => prefixed? 2 digits
  | cs => signed? cs

end VpnAttach.Toml
