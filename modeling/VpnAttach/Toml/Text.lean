import VpnAttach.Text.Numeral

/-!
# TOML blanks, strings and keys

Readers for the small parts of a TOML document.  A reader takes the characters
from where it starts, and returns what it read with the characters behind it.
-/

namespace VpnAttach.Toml

/-! ## Blanks and comments -/

/-- Whether `c` is a blank within a line. -/
def isSpace (c : Char) : Bool :=
  c == ' ' || c == '\t'

/-- Whether `c` may stand in a comment or, as it is, in a string. -/
def isPlain (c : Char) : Bool :=
  c == '\t' || (' ' ≤ c && c != '\x7f')

/-- What follows the character `c`. -/
def after? (c : Char) : List Char → Option (List Char)
  | d :: cs => if d = c then some cs else none
  | [] => none

/-- What follows the blanks at the start. -/
def skipSpace (cs : List Char) : List Char :=
  cs.dropWhile isSpace

/-- What follows blanks, comments and ends of lines.  The flag tells whether
the text starts inside a comment. -/
def skipTriviaFrom (comment : Bool) : List Char → Option (List Char)
  | [] => some []
  | '\n' :: cs => skipTriviaFrom false cs
  | '\r' :: '\n' :: cs => skipTriviaFrom false cs
  | c :: cs =>
    if comment then
      if isPlain c then skipTriviaFrom true cs else none
    else if isSpace c then skipTriviaFrom false cs
    else if c = '#' then skipTriviaFrom true cs
    else some (c :: cs)

/-- What follows blanks, comments and ends of lines. -/
def skipTrivia (cs : List Char) : Option (List Char) :=
  skipTriviaFrom false cs

/-- What follows the end of the line, before which only blanks and a comment
may stand. -/
def endLine (comment : Bool) : List Char → Option (List Char)
  | [] => some []
  | '\n' :: cs => some cs
  | '\r' :: '\n' :: cs => some cs
  | c :: cs =>
    if comment then
      if isPlain c then endLine true cs else none
    else if isSpace c then endLine false cs
    else if c = '#' then endLine true cs
    else none

/-! ## Strings -/

/-- The character with a code that is written in hexadecimal digits. -/
def codePoint? (digits : List Char) : Option Char := do
  let n ← Numeral.value? 16 digits
  if n.isValidChar then some (Char.ofNat n) else none

/-- The character of an escape, behind its backslash. -/
def escape? : List Char → Option (Char × List Char)
  | 'x' :: a :: b :: cs => (codePoint? [a, b]).map (·, cs)
  | 'u' :: a :: b :: c :: d :: cs => (codePoint? [a, b, c, d]).map (·, cs)
  | 'U' :: a :: b :: c :: d :: e :: f :: g :: h :: cs =>
    (codePoint? [a, b, c, d, e, f, g, h]).map (·, cs)
  | 'b' :: cs => some ('\x08', cs)
  | 't' :: cs => some ('\t', cs)
  | 'n' :: cs => some ('\n', cs)
  | 'f' :: cs => some ('\x0c', cs)
  | 'r' :: cs => some ('\r', cs)
  | 'e' :: cs => some ('\x1b', cs)
  | '"' :: cs => some ('"', cs)
  | '\\' :: cs => some ('\\', cs)
  | _ => none

/-- What follows a backslash at the end of a line: the text goes on at the
next character that is no blank. -/
def joinLine (passed : Bool) : List Char → Option (List Char)
  | '\n' :: cs => joinLine true cs
  | '\r' :: '\n' :: cs => joinLine true cs
  | c :: cs =>
    if isSpace c then joinLine passed cs
    else if passed then some (c :: cs) else none
  | [] => if passed then some [] else none

/-- A string between single quotes, behind the opening one. -/
def literal? (acc : List Char) : List Char → Option (String × List Char)
  | '\'' :: cs => some (String.ofList acc.reverse, cs)
  | c :: cs => if isPlain c then literal? (c :: acc) cs else none
  | [] => none

/-- A string between double quotes, behind the opening one.  There are at most
`fuel` characters. -/
def basic? : Nat → List Char → List Char → Option (String × List Char)
  | _, acc, '"' :: cs => some (String.ofList acc.reverse, cs)
  | fuel + 1, acc, '\\' :: cs => do
    let (c, cs) ← escape? cs
    basic? fuel (c :: acc) cs
  | fuel + 1, acc, c :: cs => if isPlain c then basic? fuel (c :: acc) cs else none
  | _, _, _ => none

/-- The quotes at the end of a string of several lines: up to two of them
before the closing three belong to the string. -/
def closing? (quote : Char) (cs : List Char) : Option (List Char × List Char) :=
  let quotes := cs.takeWhile (· == quote)
  let inside := min (quotes.length - 3) 2
  if 3 ≤ quotes.length then
    some (List.replicate inside quote, cs.drop (inside + 3))
  else none

/-- A string of several lines behind the opening quotes and the end of the
first line.  The ends of the other lines belong to the string as they are
written.  There are at most `fuel` characters. -/
def multiline? (quote : Char) : Nat → List Char → List Char →
    Option (String × List Char)
  | 0, _, _ => none
  | fuel + 1, acc, cs =>
    match closing? quote cs with
    | some (quotes, rest) => some (String.ofList (acc.reverse ++ quotes), rest)
    | none =>
      match cs with
      | '\n' :: cs => multiline? quote fuel ('\n' :: acc) cs
      | '\r' :: '\n' :: cs => multiline? quote fuel ('\n' :: '\r' :: acc) cs
      | '\\' :: cs =>
        if quote = '"' then
          match joinLine false cs with
          | some cs => multiline? quote fuel acc cs
          | none => do
            let (c, cs) ← escape? cs
            multiline? quote fuel (c :: acc) cs
        else multiline? quote fuel ('\\' :: acc) cs
      | c :: cs => if isPlain c then multiline? quote fuel (c :: acc) cs else none
      | [] => none

/-- What follows the end of a line, if one comes first. -/
def dropNewline : List Char → List Char
  | '\n' :: cs => cs
  | '\r' :: '\n' :: cs => cs
  | cs => cs

/-- A string of any form. -/
def string? : List Char → Option (String × List Char)
  | '"' :: '"' :: '"' :: cs => multiline? '"' (cs.length + 1) [] (dropNewline cs)
  | '\'' :: '\'' :: '\'' :: cs => multiline? '\'' (cs.length + 1) [] (dropNewline cs)
  | '"' :: cs => basic? cs.length [] cs
  | '\'' :: cs => literal? [] cs
  | _ => none

/-! ## Keys -/

/-- Whether `c` may stand in a key without quotes. -/
def isBare (c : Char) : Bool :=
  c.isAlphanum || c == '_' || c == '-'

/-- One key.  It may be quoted, but not over several lines. -/
def key? : List Char → Option (String × List Char)
  | '"' :: cs => basic? cs.length [] cs
  | '\'' :: cs => literal? [] cs
  | cs =>
    match cs.span isBare with
    | ([], _) => none
    | (name, rest) => some (String.ofList name, rest)

/-- How many keys a path may have. -/
def pathLimit : Nat := 80

/-- The keys of a path of at most `limit` keys with dots between them, and the
last key. -/
def path? : Nat → List Char → Option (List String × String × List Char)
  | 0, _ => none
  | limit + 1, cs => do
    let (key, cs) ← key? (skipSpace cs)
    match skipSpace cs with
    | '.' :: cs =>
      let (path, last, cs) ← path? limit cs
      return (key :: path, last, cs)
    | cs => return ([], key, cs)

/-- A path of keys, and what follows it and the blanks behind it. -/
def dottedKey? (cs : List Char) : Option (List String × String × List Char) :=
  path? pathLimit cs

end VpnAttach.Toml
