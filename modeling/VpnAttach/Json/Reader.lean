import VpnAttach.Json.Number

/-!
# Reading JSON text

Strict JSON.  `lex` cuts the text into tokens; `Reader.step` is a pushdown
automaton that takes one token at a time, so reading a text is a fold.  The
automaton has no limit on nesting; an array or object below level 127 is read
as `Json.unheld`.
-/

namespace VpnAttach.Json

/-! ## Tokens -/

/-- A token.  A string with a lone surrogate has no text. -/
inductive Token where
  | leaf (value : Json)
  | text (value : Option String)
  | openArr
  | closeArr
  | openObj
  | closeObj
  | comma
  | colon

/-- Whether `c` may stand between tokens. -/
def isSpace (c : Char) : Bool :=
  c == ' ' || c == '\t' || c == '\n' || c == '\r'

/-- The number written by four hexadecimal digits. -/
def hex4? (a b c d : Char) : Option Nat :=
  Numeral.value? 16 [a, b, c, d]

/-- The character behind a backslash in a two-character escape. -/
def escaped? : Char → Option Char
  | '"' => some '"'
  | '\\' => some '\\'
  | '/' => some '/'
  | 'b' => some '\x08'
  | 'f' => some '\x0c'
  | 'n' => some '\n'
  | 'r' => some '\r'
  | 't' => some '\t'
  | _ => none

/-- Whether a UTF-16 unit is the first half of a pair. -/
def isHighSurrogate (unit : Nat) : Bool :=
  0xD800 ≤ unit && unit < 0xDC00

/-- Whether a UTF-16 unit is the second half of a pair. -/
def isLowSurrogate (unit : Nat) : Bool :=
  0xDC00 ≤ unit && unit < 0xE000

/-- The character written by the two halves of a surrogate pair. -/
def pairChar (high low : Nat) : Char :=
  Char.ofNat (0x10000 + (high - 0xD800) * 0x400 + (low - 0xDC00))

/-- Reads a string behind its opening quote.  `acc` holds the characters so
far, last first, and is `none` once a lone surrogate was seen. -/
def lexString (acc : Option (List Char)) :
    List Char → Option (Option String × List Char)
  | [] => none
  | '"' :: rest => some (acc.map fun cs => String.ofList cs.reverse, rest)
  | '\\' :: 'u' :: a :: b :: c :: d :: '\\' :: 'u' :: e :: f :: g :: h :: rest =>
    match hex4? a b c d, hex4? e f g h with
    | some high, some low =>
      if isHighSurrogate high && isLowSurrogate low then
        lexString (acc.map (pairChar high low :: ·)) rest
      else if isHighSurrogate high || isLowSurrogate high then
        lexString none ('\\' :: 'u' :: e :: f :: g :: h :: rest)
      else
        lexString (acc.map (Char.ofNat high :: ·))
          ('\\' :: 'u' :: e :: f :: g :: h :: rest)
    | _, _ => none
  | '\\' :: 'u' :: a :: b :: c :: d :: rest =>
    match hex4? a b c d with
    | some unit =>
      if isHighSurrogate unit || isLowSurrogate unit then lexString none rest
      else lexString (acc.map (Char.ofNat unit :: ·)) rest
    | none => none
  | '\\' :: c :: rest =>
    match escaped? c with
    | some char => lexString (acc.map (char :: ·)) rest
    | none => none
  | c :: rest =>
    if c < ' ' || c == '\\' then none else lexString (acc.map (c :: ·)) rest
  termination_by cs => cs.length

/-- A run of decimal digits, and what follows it. -/
def lexDigits (cs : List Char) : List Char × List Char :=
  cs.span (Numeral.isDigit 10)

/-- The fraction of a number, if one is written.  There must be a digit behind
the point. -/
def lexFraction : List Char → Option (Option (List Char) × List Char)
  | '.' :: cs =>
    match lexDigits cs with
    | ([], _) => none
    | (digits, rest) => some (some digits, rest)
  | cs => some (none, cs)

/-- The sign of an exponent: whether it is a minus, and what follows. -/
def lexSign : List Char → Bool × List Char
  | '+' :: cs => (false, cs)
  | '-' :: cs => (true, cs)
  | cs => (false, cs)

/-- The exponent of a number, if one is written.  There must be a digit behind
the sign. -/
def lexExponent : List Char → Option (Option (Bool × List Char) × List Char)
  | c :: cs =>
    if c == 'e' || c == 'E' then
      let (negative, cs) := lexSign cs
      match lexDigits cs with
      | ([], _) => none
      | (digits, rest) => some (some (negative, digits), rest)
    else some (none, c :: cs)
  | [] => some (none, [])

/-- Reads a number behind its minus sign, if it has one.  Zero is the only
whole part that starts with a zero. -/
def lexNumber (negative : Bool) (cs : List Char) : Option (Json × List Char) := do
  let (whole, rest) := lexDigits cs
  if whole.isEmpty || (whole.head? == some '0' && whole.length != 1) then none
  else
    let (fraction, rest) ← lexFraction rest
    let (exponent, rest) ← lexExponent rest
    return (Literal.value ⟨negative, whole, fraction, exponent⟩, rest)

/-- The token a text starts with, and what follows it. -/
def lexOne : List Char → Option (Token × List Char)
  | '[' :: cs => some (.openArr, cs)
  | ']' :: cs => some (.closeArr, cs)
  | '{' :: cs => some (.openObj, cs)
  | '}' :: cs => some (.closeObj, cs)
  | ',' :: cs => some (.comma, cs)
  | ':' :: cs => some (.colon, cs)
  | '"' :: cs => (lexString (some []) cs).map fun (text, rest) => (.text text, rest)
  | 'n' :: 'u' :: 'l' :: 'l' :: cs => some (.leaf .null, cs)
  | 't' :: 'r' :: 'u' :: 'e' :: cs => some (.leaf (.bool true), cs)
  | 'f' :: 'a' :: 'l' :: 's' :: 'e' :: cs => some (.leaf (.bool false), cs)
  | '-' :: cs => (lexNumber true cs).map fun (value, rest) => (.leaf value, rest)
  | cs => (lexNumber false cs).map fun (value, rest) => (.leaf value, rest)

/-- The tokens of a text behind those in `acc`, which stand last first.  Every
token has a character, so the length of the text is fuel enough. -/
def lexWith : Nat → List Token → List Char → Option (List Token)
  | _, acc, [] => some acc.reverse
  | 0, _, _ :: _ => none
  | fuel + 1, acc, c :: cs =>
    if isSpace c then lexWith fuel acc cs
    else
      match lexOne (c :: cs) with
      | some (token, rest) => lexWith fuel (token :: acc) rest
      | none => none

/-- The tokens of a text. -/
def lex (cs : List Char) : Option (List Token) :=
  lexWith cs.length [] cs

/-! ## The automaton -/

/-- The deepest level at which an array or object can be kept. -/
def depthLimit : Nat := 127

namespace Reader

/-- A container that is still open, with its parts last first.  An object is
not `whole` once one of its keys had no text. -/
inductive Frame where
  | arr (items : List Json)
  | obj (members : List (String × Json)) (whole : Bool) (key : Option String)

/-- What may come next. -/
inductive Mode where
  /-- A value. -/
  | value
  /-- A value, or the end of the array that was just opened. -/
  | item
  /-- A key, or the end of the object that was just opened. -/
  | member
  /-- A key. -/
  | key
  /-- The colon behind a key. -/
  | colon
  /-- A comma or the end of the container. -/
  | next
  /-- Nothing: the text is read. -/
  | done (json : Json)

/-- The open containers, innermost first, and what may come next. -/
structure State where
  stack : List Frame
  mode : Mode

/-- Nothing is read yet. -/
def start : State :=
  ⟨[], .value⟩

/-- Puts a value that was just read where it belongs. -/
def complete (json : Json) : List Frame → State
  | [] => ⟨[], .done json⟩
  | .arr items :: stack => ⟨.arr (json :: items) :: stack, .next⟩
  | .obj members whole (some key) :: stack =>
    ⟨.obj ((key, json) :: members) whole none :: stack, .next⟩
  | .obj members _ none :: stack => ⟨.obj members false none :: stack, .next⟩

/-- A container that was closed with `outer` containers around it. -/
def closed (json : Json) (outer : List Frame) : State :=
  complete (if outer.length < depthLimit then json else .unheld) outer

/-- Opens a container or takes a leaf where a value may come. -/
def takeValue (stack : List Frame) : Token → Option State
  | .leaf json => some (complete json stack)
  | .text (some s) => some (complete (.str s) stack)
  | .text none => some (complete .unheld stack)
  | .openArr => some ⟨.arr [] :: stack, .item⟩
  | .openObj => some ⟨.obj [] true none :: stack, .member⟩
  | _ => none

/-- Takes a key. -/
def takeKey : List Frame → Option String → Option State
  | .obj members whole _ :: stack, key =>
    some ⟨.obj members (whole && key.isSome) key :: stack, .colon⟩
  | _, _ => none

/-- Takes one token. -/
def step (state : State) (token : Token) : Option State :=
  match state.mode, token, state.stack with
  | .value, token, stack => takeValue stack token
  | .item, .closeArr, .arr items :: stack => some (closed (.arr items.reverse) stack)
  | .item, token, stack => takeValue stack token
  | .member, .closeObj, .obj members _ _ :: stack =>
    some (closed (.obj members.reverse) stack)
  | .member, .text key, stack => takeKey stack key
  | .key, .text key, stack => takeKey stack key
  | .colon, .colon, stack => some ⟨stack, .value⟩
  | .next, .comma, .arr items :: stack => some ⟨.arr items :: stack, .value⟩
  | .next, .comma, .obj members whole key :: stack =>
    some ⟨.obj members whole key :: stack, .key⟩
  | .next, .closeArr, .arr items :: stack => some (closed (.arr items.reverse) stack)
  | .next, .closeObj, .obj members whole _ :: stack =>
    some (closed (if whole then .obj members.reverse else .unheld) stack)
  | _, _, _ => none

end Reader

/-- The value written by a text. -/
def ofChars? (cs : List Char) : Option Json := do
  let state ← (← lex cs).foldlM Reader.step Reader.start
  match state.mode with
  | .done json => some json
  | _ => none

/-- The value written by a text. -/
def ofString? (s : String) : Option Json :=
  ofChars? s.toList

end VpnAttach.Json
