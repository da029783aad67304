import VpnAttach.Json.Basic

/-!
# Decoding JSON values

The parts from which the decoders of the library are put together.  A decoder
answers `none` for a value that is not of its type.

A record is an object with known members, each given at most once, while
other members are ignored; or it is an array of the members' values in order,
of which the last ones may be missing.  A tagged record is one of several
records, told apart by the value of a tag; as an array it starts with the tag.
All of a tagged record is kept before its tag is known, so that none of it may
be `Json.unheld`.
-/

namespace VpnAttach.Json

/-- Where a value stands, which decides how names may be written. -/
inductive Dialect where
  /-- On its own.  A name may also be written `name: null` in an object. -/
  | plain
  /-- Inside a tagged record.  A name may also be written with an empty object
  as its value, and a tag as the number of its variant. -/
  | tagged
  /-- In a configuration document.  A name may be written with an empty object
  or array as its value, superfluous items of a record are ignored, and other
  members than those of a record have to be held. -/
  | document
  deriving DecidableEq

/-! ## Leaves -/

/-- A string. -/
def string? : Json → Option String
  | .str s => some s
  | _ => none

/-- A truth value. -/
def bool? : Json → Option Bool
  | .bool b => some b
  | _ => none

/-- A natural number below `limit`. -/
def natBelow? (limit : Nat) : Json → Option Nat
  | .int n => if 0 ≤ n ∧ n < limit then some n.toNat else none
  | _ => none

/-- An array of values of one type. -/
def list? (decode : Json → Option α) : Json → Option (List α)
  | .arr items => items.mapM decode
  | _ => none

/-- A value, or `null`. -/
def nullable? (decode : Json → Option α) : Json → Option (Option α)
  | .null => some none
  | json => (decode json).map some

/-- Whether a value says nothing, so that an object with it as its only member
is a name. -/
def isMark : Dialect → Json → Bool
  | .plain, .null => true
  | .tagged, .null => true
  | .tagged, .obj [] => true
  | .document, .obj [] => true
  | .document, .arr [] => true
  | _, _ => false

/-- A name. -/
def name? (dialect : Dialect) : Json → Option String
  | .str s => some s
  | .obj [(key, value)] => if isMark dialect value then some key else none
  | _ => none

/-! ## Records -/

/-- The values given for the members of a record, in the order of `names`. -/
def record? (dialect : Dialect) (names : List String) :
    Json → Option (List (Option Json))
  | .obj members =>
    let others := members.filter fun member => !names.contains member.1
    if (names.all fun name => members.countP (·.1 == name) ≤ 1) &&
        (dialect != .document || heldMembers others) then
      some (names.map fun name => members.lookup name)
    else none
  | .arr items =>
    if items.length ≤ names.length ∨ dialect = .document then
      some ((items.map some ++ List.replicate names.length none).take names.length)
    else none
  | _ => none

/-- The values of the named members of an object, each given at most once, and
its other members. -/
def membersAndRest? (names : List String) :
    Json → Option (List (Option Json) × List (String × Json))
  | .obj members =>
    if names.all fun name => members.countP (·.1 == name) ≤ 1 then
      some (names.map fun name => members.lookup name,
        members.filter fun member => !names.contains member.1)
    else none
  | _ => none

/-- A member that must be given. -/
def required (decode : Json → Option α) (given : Option Json) : Option α :=
  given.bind decode

/-- A member that may be missing. -/
def withDefault (default : α) (decode : Json → Option α) :
    Option Json → Option α
  | none => some default
  | some json => decode json

/-- A member that may be missing or `null`. -/
def ifGiven (decode : Json → Option α) (given : Option Json) :
    Option (Option α) :=
  withDefault none (nullable? decode) given

/-- The tag of a tagged record, and its other members. -/
def tagged? (tag : String) : Json → Option (Json × Json)
  | .obj members =>
    if heldMembers members && members.countP (·.1 == tag) == 1 then
      (members.lookup tag).map fun value =>
        (value, .obj (members.filter (·.1 != tag)))
    else none
  | .arr (value :: items) =>
    if heldItems items then some (value, .arr items) else none
  | _ => none

/-- The variant a tag stands for, out of `variants`. -/
def variant? (dialect : Dialect) (variants : List String) : Json → Option String
  | .str s => if variants.contains s then some s else none
  | .int n =>
    if dialect = .tagged ∧ 0 ≤ n then variants[n.toNat]? else none
  | _ => none

/-- Whether a variant without members may have this body. -/
def isBare : Json → Bool
  | .obj _ => true
  | .arr [] => true
  | _ => false

/-! ## Encoding -/

/-- A member that is left out when it has no value. -/
def memberIf (key : String) (encode : α → Json) : Option α → List (String × Json)
  | none => []
  | some value => [(key, encode value)]

/-- A value, or `null`. -/
def orNull (encode : α → Json) : Option α → Json
  | none => .null
  | some value => encode value

end VpnAttach.Json
