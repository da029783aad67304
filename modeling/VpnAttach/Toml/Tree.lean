import VpnAttach.Json.Basic

/-!
# TOML tables

Tables grow while a document is read.  How a table came about decides how it
may be extended: a header may open a table that so far was only implied by
longer headers, dotted keys may extend tables that they made themselves, and
an inline table is closed for good.
-/

namespace VpnAttach

/-- How a table came about. -/
inductive TableForm where
  /-- By a header of its own; the whole document counts as such a table. -/
  | header
  /-- By a longer header. -/
  | implied
  /-- By a dotted key. -/
  | dotted
  /-- Between braces. -/
  | inline
  deriving DecidableEq

/-- A TOML value. -/
inductive Toml where
  | str (value : String)
  | int (value : Int)
  | float (value : Float)
  | bool (value : Bool)
  /-- What has the shape of a number but stands for none. -/
  | unheld
  /-- A date, a time or both, as it was written. -/
  | moment (text : String)
  | arr (items : List Toml)
  | table (form : TableForm) (entries : List (String × Toml))
  /-- An array of tables that is made by headers: the tables before the last,
  and the last one. -/
  | tables (before : List (List (String × Toml))) (last : List (String × Toml))
  deriving Inhabited

namespace Toml

/-- The entries of a table, in the order in which they were made. -/
abbrev Entries := List (String × Toml)

namespace Entries

/-- Gives a key that is there another value. -/
def replace (key : String) (value : Toml) (entries : Entries) : Entries :=
  entries.map fun entry => if entry.1 == key then (key, value) else entry

/-- Changes the table at the end of a path.  Tables that are missing on the
way are made in the given form. -/
def descend {α : Type} (made : TableForm)
    (change : TableForm → Entries → Option (α × Entries)) :
    List String → TableForm → Entries → Option (α × Entries)
  | [], form, entries => change form entries
  | key :: path, _, entries =>
    match entries.lookup key with
    | none => do
      let (result, inner) ← descend made change path made []
      return (result, entries ++ [(key, .table made inner)])
    | some (.table form inner) => do
      if form = .inline ∨ (made = .dotted ∧ form = .header) then none
      let (result, inner) ← descend made change path form inner
      return (result, replace key (.table form inner) entries)
    | some (.tables before last) => do
      let (result, last) ← descend made change path .header last
      return (result, replace key (.tables before last) entries)
    | some _ => none

/-- Gives a key at the end of a path its value.  A path has to end in a table
of dotted keys. -/
def define (path : List String) (key : String) (value : Toml) (form : TableForm)
    (entries : Entries) : Option Entries :=
  let change (form : TableForm) (entries : Entries) : Option (Unit × Entries) :=
    if (form == .dotted) == path.isEmpty || (entries.lookup key).isSome then none
    else some ((), entries ++ [(key, value)])
  (descend .dotted change path form entries).map (·.2)

/-- Opens the table of a header: takes out the entries it has so far. -/
def openTable (path : List String) (key : String) (entries : Entries) :
    Option (Entries × Entries) :=
  let change (_ : TableForm) (entries : Entries) : Option (Entries × Entries) :=
    match entries.lookup key with
    | none => some ([], entries)
    | some (.table .implied inner) => some (inner, entries.filter (·.1 != key))
    | some _ => none
  descend .implied change path .header entries

/-- Puts the table of a header in its place. -/
def closeTable (path : List String) (key : String) (table entries : Entries) :
    Option Entries :=
  let change (_ : TableForm) (entries : Entries) : Option (Unit × Entries) :=
    if (entries.lookup key).isSome then none
    else some ((), entries ++ [(key, .table .header table)])
  (descend .implied change path .header entries).map (·.2)

/-- Adds a table to an array of tables. -/
def pushTable (path : List String) (key : String) (table entries : Entries) :
    Option Entries :=
  let change (_ : TableForm) (entries : Entries) : Option (Unit × Entries) :=
    match entries.lookup key with
    | none => some ((), entries ++ [(key, .tables [] table)])
    | some (.tables before last) =>
      some ((), replace key (.tables (before ++ [last]) table) entries)
    | some _ => none
  (descend .implied change path .header entries).map (·.2)

end Entries

/-! ## As JSON -/

/-- The only member of a date or time as an object; no record has it. -/
def momentKey : String := "$moment"

mutual

/-- The value as JSON.  A date or time becomes an object. -/
def toJson : Toml → Json
  | .str value => .str value
  | .int value => .int value
  | .float value => .float value
  | .bool value => .bool value
  | .unheld => .unheld
  | .moment text => .obj [(momentKey, .str text)]
  | .arr items => .arr (itemsToJson items)
  | .table _ entries => .obj (entriesToJson entries)
  | .tables before last =>
    .arr (tablesToJson before ++ [.obj (entriesToJson last)])

/-- The items of an array. -/
def itemsToJson : List Toml → List Json
  | [] => []
  | item :: items => item.toJson :: itemsToJson items

/-- The entries of a table. -/
def entriesToJson : List (String × Toml) → List (String × Json)
  | [] => []
  | (key, value) :: entries => (key, value.toJson) :: entriesToJson entries

/-- Several tables. -/
def tablesToJson : List (List (String × Toml)) → List Json
  | [] => []
  | first :: rest => .obj (entriesToJson first) :: tablesToJson rest

end

end Toml
end VpnAttach
