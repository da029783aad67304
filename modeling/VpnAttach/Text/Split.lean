/-!
# Splitting text

Cutting a list of characters at separators.  `splitOn` cuts at every
separator, so `splitOn ':' []` is one empty part; `splitLast` cuts at the
last separator only.  `join` puts parts together again.
-/

namespace VpnAttach.Text

/-- The parts of `cs` between the separators; there is one part more than
there are separators. -/
def splitOn (sep : Char) : List Char → List (List Char)
  | [] => [[]]
  | c :: cs =>
    if c = sep then [] :: splitOn sep cs
    else
      match splitOn sep cs with
      | [] => [[c]]
      | part :: parts => (c :: part) :: parts

/-- What stands before and after the last separator, if there is one. -/
def splitLast (sep : Char) : List Char → Option (List Char × List Char)
  | [] => none
  | c :: cs =>
    match splitLast sep cs with
    | some (before, after) => some (c :: before, after)
    | none => if c = sep then some ([], cs) else none

/-- The parts one after the other, with `sep` between neighbours. -/
def join (sep : List Char) : List (List Char) → List Char
  | [] => []
  | [part] => part
  | part :: parts => part ++ sep ++ join sep parts

end VpnAttach.Text
