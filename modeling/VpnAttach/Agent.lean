import VpnAttach.Payload.Basic

/-!
# The agent

The agent answers every notification, and its answer may depend on all that it
was sent before.  Notifications are sent by plans: a plan is a list of batches,
and every notification of every batch is sent, whatever the answers are.  The
answers of a batch are settled to one result, and the results of the batches
to the result of the plan.
-/

namespace VpnAttach

/-- Why notifications failed. -/
inductive NotifyError where
  /-- The agent could not be told. -/
  | transport (operation message : String)
  /-- Of `total` results settled together `failed` were failures, `first` the
  first of them. -/
  | several (failed total : Nat) (first : NotifyError)
  deriving DecidableEq

/-- The text of a notification error. -/
def NotifyError.message : NotifyError → String
  | .transport operation message =>
    "Notification '" ++ operation ++ "' failed: " ++ message
  | .several failed total first =>
    toString failed ++ " of " ++ toString total ++
      " notifications failed, first: " ++ first.message

/-- The result of sending something. -/
abbrev Delivery := Except NotifyError Unit

/-- The errors among some results, in order. -/
def failures (results : List Delivery) : List NotifyError :=
  results.filterMap fun
    | .ok () => none
    | .error e => some e

/-- One result for several: success if nothing failed, and a single failure as
it is. -/
def settle (results : List Delivery) : Delivery :=
  match failures results with
  | [] => .ok ()
  | [e] => .error e
  | e :: more => .error (.several (more.length + 1) results.length e)

/-- How an agent answers a notification, given all that it was sent before. -/
abbrev Agent := List Notification → Notification → Delivery

namespace Agent

/-- The agent that takes everything. -/
def obliging : Agent :=
  fun _ _ => .ok ()

/-- The agent that cannot be reached by some operations. -/
def unreachable (operations : List Operation) : Agent :=
  fun _ notification =>
    if notification.operation ∈ operations then
      .error (.transport notification.operation.name "agent unreachable")
    else .ok ()

/-- The answers to a batch that is sent after `past`. -/
def answers (agent : Agent) (past : List Notification) :
    List Notification → List Delivery
  | [] => []
  | n :: batch => agent past n :: agent.answers (past ++ [n]) batch

end Agent

/-- What is to be sent, in batches. -/
abbrev Plan := List (List Notification)

namespace Plan

/-- Everything a plan sends, in order. -/
def sent (plan : Plan) : List Notification :=
  plan.flatten

/-- The results of the batches of a plan that is sent after `past`. -/
def results (agent : Agent) (past : List Notification) : Plan → List Delivery
  | [] => []
  | batch :: plan =>
    settle (agent.answers past batch) :: results agent (past ++ batch) plan

/-- The result of a plan that is sent after `past`. -/
def deliver (plan : Plan) (agent : Agent) (past : List Notification) : Delivery :=
  settle (plan.results agent past)

/-! ## Call by call -/

/-- Talking to the agent, after all that it was sent before. -/
abbrev Talk (α : Type) := StateM (List Notification) α

/-- Sends a notification. -/
def call (agent : Agent) (n : Notification) : Talk Delivery :=
  fun past => (agent past n, past ++ [n])

/-- Sends the notifications of a batch, one after the other. -/
def callBatch (agent : Agent) (batch : List Notification) : Talk Delivery := do
  let results ← batch.mapM (call agent)
  return settle results

/-- Sends the batches of a plan, one after the other. -/
def carryOut (agent : Agent) (plan : Plan) : Talk Delivery := do
  let results ← plan.mapM (callBatch agent)
  return settle results

end Plan
end VpnAttach
