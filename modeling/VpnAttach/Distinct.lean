/-!
# Lists without repetitions

`distinctBy key xs` keeps, for every key, the first item that has it.  The
order of the kept items is that of `xs`.
-/

namespace VpnAttach

/-- The first item for every key, in order. -/
def distinctBy {α κ : Type} [BEq κ] (key : α → κ) : List α → List α
  | [] => []
  | x :: xs => x :: (distinctBy key xs).filter (key · != key x)

/-- The first of every group of equal items, in order. -/
def distinct {α : Type} [BEq α] (xs : List α) : List α :=
  distinctBy id xs

end VpnAttach
