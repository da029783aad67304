import VpnAttach.Json.Basic

/-!
# Differences

Which members of an object differ between two versions of it.  Values are
compared by `Json.same`.  A version that is not an object has no members.
-/

namespace VpnAttach

/-- The names of members that differ between two versions, each list sorted
and without repetitions. -/
structure Difference where
  /-- Bound in the current version only. -/
  added : List String
  /-- Bound in the previous version only. -/
  removed : List String
  /-- Bound in both versions, to different values. -/
  changed : List String
  deriving DecidableEq

namespace Difference

/-- The difference between two lists of members. -/
def ofMembers (current previous : List (String × Json)) : Difference where
  added := Sorted.keys <| (current.map (·.1)).filter fun key =>
    (previous.lookup key).isNone
  removed := Sorted.keys <| (previous.map (·.1)).filter fun key =>
    (current.lookup key).isNone
  changed := Sorted.keys <| (current.map (·.1)).filter fun key =>
    match current.lookup key, previous.lookup key with
    | some new, some old => !old.same new
    | _, _ => false

/-- The difference between two versions. -/
def between (current previous : Json) : Difference :=
  ofMembers current.members previous.members

/-- Whether nothing differs. -/
def isEmpty (d : Difference) : Bool :=
  d.added.isEmpty && d.removed.isEmpty && d.changed.isEmpty

/-- Every member that differs. -/
def moving (d : Difference) : List String :=
  Sorted.keys (d.added ++ d.removed ++ d.changed)

/-- Whether one of the named members differs. -/
def touches (d : Difference) (names : List String) : Bool :=
  d.moving.any names.contains

/-- The members of the encoding. -/
def toMembers (d : Difference) : List (String × Json) :=
  [("added", Json.strings d.added), ("removed", Json.strings d.removed),
   ("changed", Json.strings d.changed)]

end Difference
end VpnAttach
