import VpnAttach.Tables.Basic

/-!
# Transactions

Several operations on the tables that take effect together or not at all.
-/

namespace VpnAttach

/-- Runs `body` on the tables.  What it has written is kept if it succeeds and
dropped if it fails. -/
def Tables.transaction {ε α : Type} (t : Tables)
    (body : Tables → Except ε (α × Tables)) : Except ε α × Tables :=
  match body t with
  | .ok (result, t) => (.ok result, t)
  | .error e => (.error e, t)

end VpnAttach
