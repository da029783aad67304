import VpnAttach.Payload.Basic
import VpnAttach.Text.Quoted

/-!
# Verification of scenarios

What a scenario expects the agent to have received, and what is wrong if it
did not.
-/

namespace VpnAttach.Scenario

/-- An expectation that was not met. -/
inductive Mismatch where
  | operations (expected actual : List String)
  | noPush (operation : Operation) (vpn network : String)
  | noPort (operation : Operation) (port : String)
  deriving DecidableEq

/-- The text of a mismatch. -/
def Mismatch.message : Mismatch → String
  | .operations expected actual =>
    "Expected notifications " ++ String.ofList (Text.quotedList expected) ++
      ", got " ++ String.ofList (Text.quotedList actual)
  | .noPush operation vpn network =>
    "No " ++ operation.name ++ " for bgpvpn '" ++ vpn ++ "' on network '" ++
      network ++ "'"
  | .noPort operation port =>
    "No " ++ operation.name ++ " for port '" ++ port ++ "'"

/-- The names of the operations by which notifications were sent. -/
def operations (sent : List Notification) : List String :=
  sent.map (·.operation.name)

/-- Expects exactly these operations. -/
def expectOperations (expected : List String) (sent : List Notification) :
    Except Mismatch Unit :=
  if operations sent = expected then .ok ()
  else .error (.operations expected (operations sent))

/-- The payload of a notification about a VPN on a network. -/
def pushOf? (operation : Operation) (vpn network : String)
    (notification : Notification) : Option VpnPayload :=
  match notification with
  | .update payload | .delete payload =>
    if notification.operation = operation ∧ payload.id = vpn ∧
        payload.network = network then some payload
    else none
  | _ => none

/-- The first payload that was pushed for a VPN on a network. -/
def expectPush (operation : Operation) (vpn network : String)
    (sent : List Notification) : Except Mismatch VpnPayload :=
  match sent.findSome? (pushOf? operation vpn network) with
  | some payload => .ok payload
  | none => .error (.noPush operation vpn network)

/-- The payload of a notification about a port, and the host it was sent to. -/
def portOf? (operation : Operation) (port : String)
    (notification : Notification) : Option (PortPayload × String) :=
  match notification with
  | .attach payload host | .detach payload host =>
    if notification.operation = operation ∧ payload.id = port then
      some (payload, host)
    else none
  | _ => none

/-- The last payload that was sent about a port, and the host it was sent to. -/
def expectPort (operation : Operation) (port : String)
    (sent : List Notification) : Except Mismatch (PortPayload × String) :=
  match sent.reverse.findSome? (portOf? operation port) with
  | some found => .ok found
  | none => .error (.noPort operation port)

end VpnAttach.Scenario
