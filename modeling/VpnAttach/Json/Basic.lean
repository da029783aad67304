import VpnAttach.Sorted

/-!
# JSON values

A JSON value with the two kinds of numbers kept apart: integers that fit in
64 bits, and doubles.  The members of an object stand in the order in which
they were written.  A part of a text that is well formed but stands for no
value (a number beyond the range of doubles, a lone surrogate, nesting below
the depth limit) is read as `unheld`: who keeps it fails, who ignores it does
not notice.

* `Json.same` is equality of values: deep, in the order of arrays, whatever
  the order of members; an integer never equals a double, and doubles are
  compared as numbers.
* `Json.canonical` sorts the members of every object by key and keeps the
  last of those with the same key.
-/

namespace VpnAttach

/-- A JSON value. -/
inductive Json where
  | null
  | bool (value : Bool)
  | int (value : Int)
  | float (value : Float)
  | str (value : String)
  | arr (items : List Json)
  | obj (members : List (String × Json))
  /-- Well-formed text that stands for no value. -/
  | unheld
  deriving Inhabited

namespace Json

/-- The members of an object, and none for any other value. -/
def members : Json → List (String × Json)
  | .obj members => members
  | _ => []

/-- The value of a member, the first if there are several. -/
def get? (key : String) (json : Json) : Option Json :=
  json.members.lookup key

/-- An array of strings. -/
def strings (items : List String) : Json :=
  .arr (items.map .str)

/-! ## Equality -/

mutual

/-- Whether two values are equal. -/
def same : Json → Json → Bool
  | .null, .null => true
  | .bool x, .bool y => x == y
  | .int x, .int y => x == y
  | .float x, .float y => x == y
  | .str x, .str y => x == y
  | .arr xs, .arr ys => sameItems xs ys
  | .obj xs, .obj ys => sameMembers xs ys && ys.all fun y => xs.any (·.1 == y.1)
  | _, _ => false

/-- Whether two arrays have equal items, place by place. -/
def sameItems : List Json → List Json → Bool
  | [], [] => true
  | x :: xs, y :: ys => same x y && sameItems xs ys
  | _, _ => false

/-- Whether every member of the first list is bound to an equal value in the
second. -/
def sameMembers : List (String × Json) → List (String × Json) → Bool
  | [], _ => true
  | (key, x) :: xs, ys =>
    (match ys.lookup key with
      | some y => same x y
      | none => false) && sameMembers xs ys

end

/-! ## Values that can be kept -/

mutual

/-- Whether every part of the value stands for something. -/
def held : Json → Bool
  | .arr items => heldItems items
  | .obj members => heldMembers members
  | .unheld => false
  | _ => true

/-- Whether all items of an array can be kept. -/
def heldItems : List Json → Bool
  | [] => true
  | item :: items => held item && heldItems items

/-- Whether the values of all members can be kept. -/
def heldMembers : List (String × Json) → Bool
  | [] => true
  | (_, value) :: members => held value && heldMembers members

end

/-! ## Canonical order -/

mutual

/-- The same value with the members of every object sorted by key; of several
members with one key the last is kept. -/
def canonical : Json → Json
  | .arr items => .arr (canonicalItems items)
  | .obj members => .obj (canonicalMembers [] members)
  | other => other

/-- The items in canonical order. -/
def canonicalItems : List Json → List Json
  | [] => []
  | item :: items => canonical item :: canonicalItems items

/-- Puts members, first to last, into a sorted list. -/
def canonicalMembers (sorted : List (String × Json)) :
    List (String × Json) → List (String × Json)
  | [] => sorted
  | (key, value) :: members =>
    canonicalMembers (Sorted.put key (canonical value) sorted) members

end

/-- The value in canonical order, if all of it can be kept. -/
def kept? (json : Json) : Option Json :=
  if json.held then some json.canonical else none

end Json
end VpnAttach
