import VpnAttach.Toml.Scalar

/-!
# Reading TOML documents

A document is a table.  Its lines are entries, which belong to the table of
the last header, and headers, which open a table or add one to an array of
tables.
-/

namespace VpnAttach.Toml

/-- How deep arrays and inline tables may be nested. -/
def nestingLimit : Nat := 80

/-! ## Values -/

mutual

/-- A value inside `depth` arrays and inline tables. -/
def value? (fuel depth : Nat) (cs : List Char) : Option (Toml × List Char) :=
  match fuel with
  | 0 => none
  | fuel + 1 =>
    match cs with
    | '[' :: cs =>
      if depth < nestingLimit then items? fuel (depth + 1) [] cs else none
    | '{' :: cs =>
      if depth < nestingLimit then entries? fuel (depth + 1) [] cs else none
    | '"' :: _ | '\'' :: _ => (string? cs).map fun (s, rest) => (.str s, rest)
    | _ => bare? cs

/-- An array behind its bracket, of which the items in `acc` are read, last
first. -/
def items? (fuel depth : Nat) (acc : List Toml) (cs : List Char) :
    Option (Toml × List Char) :=
  match fuel with
  | 0 => none
  | fuel + 1 => do
    match ← skipTrivia cs with
    | ']' :: rest => return (.arr acc.reverse, rest)
    | cs =>
      let (item, cs) ← value? fuel depth cs
      match ← skipTrivia cs with
      | ',' :: rest => items? fuel depth (item :: acc) rest
      | ']' :: rest => return (.arr (item :: acc).reverse, rest)
      | _ => none

/-- An inline table behind its brace, of which some entries are read.  Lines
may end anywhere but within a path of keys. -/
def entries? (fuel depth : Nat) (entries : Entries) (cs : List Char) :
    Option (Toml × List Char) :=
  match fuel with
  | 0 => none
  | fuel + 1 => do
    match ← skipTrivia cs with
    | '}' :: rest => return (.table .inline entries, rest)
    | cs =>
      let (path, key, cs) ← dottedKey? cs
      let cs ← after? '=' (← skipTrivia cs)
      let (value, cs) ← value? fuel depth (← skipTrivia cs)
      let entries ← entries.define path key value .inline
      match ← skipTrivia cs with
      | ',' :: rest => entries? fuel depth entries rest
      | '}' :: rest => return (.table .inline entries, rest)
      | _ => none

end

/-- A value at the start of a text.  Every second call takes a character, so
that twice the length is fuel enough. -/
def topValue? (cs : List Char) : Option (Toml × List Char) :=
  value? (2 * cs.length + 2) 0 cs

/-! ## Documents -/

/-- A header: the path and the key of its table, and whether it adds the table
to an array. -/
structure Header where
  path : List String
  key : String
  adds : Bool

/-- A document that is being read.  The table of the last header is kept apart
until the next header comes. -/
structure Draft where
  closed : Entries := []
  header : Option Header := none
  current : Entries := []

namespace Draft

/-- The whole document so far. -/
def close (draft : Draft) : Option Entries :=
  match draft.header with
  | none => some draft.current
  | some ⟨path, key, false⟩ =>
    Entries.closeTable path key draft.current draft.closed
  | some ⟨path, key, true⟩ =>
    Entries.pushTable path key draft.current draft.closed

/-- Goes on with the table of another header. -/
def enter (draft : Draft) (header : Header) : Option Draft := do
  let closed ← draft.close
  if header.adds then return ⟨closed, some header, []⟩
  else
    let (current, closed) ← Entries.openTable header.path header.key closed
    return ⟨closed, some header, current⟩

/-- Adds an entry to the current table. -/
def define (draft : Draft) (path : List String) (key : String) (value : Toml) :
    Option Draft := do
  return { draft with
    current := ← Entries.define path key value .header draft.current }

end Draft

/-- What follows the brackets that close a header. -/
def closeHeader? : Nat → List Char → Option (List Char)
  | 0, cs => some cs
  | brackets + 1, cs => after? ']' cs >>= closeHeader? brackets

/-- The line at the start of a text. -/
def line? (draft : Draft) : List Char → Option (Draft × List Char)
  | '[' :: '[' :: cs => do
    let (path, key, cs) ← dottedKey? cs
    return (← draft.enter ⟨path, key, true⟩, ← endLine false (← closeHeader? 2 cs))
  | '[' :: cs => do
    let (path, key, cs) ← dottedKey? cs
    return (← draft.enter ⟨path, key, false⟩, ← endLine false (← closeHeader? 1 cs))
  | cs => do
    let (path, key, cs) ← dottedKey? cs
    let (value, cs) ← topValue? (skipSpace (← after? '=' cs))
    return (← draft.define path key value, ← endLine false cs)

/-- The lines of a text, of which there are at most `fuel`. -/
def lines? : Nat → Draft → List Char → Option Draft
  | 0, _, _ => none
  | fuel + 1, draft, cs => do
    match ← skipTrivia cs with
    | [] => return draft
    | cs =>
      let (draft, cs) ← line? draft cs
      lines? fuel draft cs

/-- The text without the mark of its byte order. -/
def dropMark : List Char → List Char
  | '\ufeff' :: cs => cs
  | cs => cs

/-- The document written by a text. -/
def ofString? (s : String) : Option Toml := do
  let draft ← lines? (s.length + 1) {} (dropMark s.toList)
  return .table .header (← draft.close)

end VpnAttach.Toml
