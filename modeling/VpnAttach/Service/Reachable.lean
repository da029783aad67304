import VpnAttach.Service.Basic

/-!
# Reachable states

The states that a service can get into by applying commands, from the state
with nothing stored and nothing known.  The ids for objects that are created
without one are assumed not to be in use.
-/

namespace VpnAttach

/-- The ids in use for objects of any type. -/
def Tables.usedIds (t : Tables) : List String :=
  t.vpns.map (·.id) ++ t.networks.map (·.id) ++ t.routers.map (·.id) ++
    t.ports.map (·.id)

namespace Service

/-- The next allocated id is not in use. -/
def FreshId (setup : Setup) (s : Service) : Prop :=
  s.freshId setup ∉ s.tables.usedIds

/-- The states that commands lead to. -/
inductive Reachable (setup : Setup) : Service → Prop where
  | start : Reachable setup {}
  | step {s : Service} (reached : Reachable setup s) (fresh : FreshId setup s)
    (command : Command) : Reachable setup (s.apply setup command).service

/-- The state after some commands. -/
def applyAll (setup : Setup) (s : Service) (commands : List Command) : Service :=
  commands.foldl (fun s command => (s.apply setup command).service) s

end Service
end VpnAttach
