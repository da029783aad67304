/-!
# Sorted association lists

Lists of keys with values, sorted by key and without repeated keys.  Keys are
ordered by their characters, which is also the order of their UTF-8 bytes.
-/

namespace VpnAttach.Sorted

variable {α : Type}

/-- Puts a value under a key, in place of the one that is there. -/
def put (key : String) (value : α) : List (String × α) → List (String × α)
  | [] => [(key, value)]
  | (k, v) :: rest =>
    if key < k then (key, value) :: (k, v) :: rest
    else if key = k then (key, value) :: rest
    else (k, v) :: put key value rest

/-- The sorted list of some bindings; the last one for a key is kept. -/
def ofList (bindings : List (String × α)) : List (String × α) :=
  bindings.foldl (fun sorted binding => put binding.1 binding.2 sorted) []

/-- The keys in order, each once. -/
def keys (names : List String) : List String :=
  (ofList (names.map (·, ()))).map (·.1)

end VpnAttach.Sorted
