import VpnAttach.Agent

/-!
# Laws of delivery

The results of the batches of a plan are results of several calls, settled, and the
result of the plan is settled from these.  However deep a failure is, it is not lost on
the way: the plan is delivered exactly if the agent took every single notification
(`Plan.deliver_eq_ok`).
-/

namespace VpnAttach

variable {agent : Agent} {past : List Notification}

theorem failures_eq_nil {results : List Delivery} :
    failures results = [] ↔ ∀ result ∈ results, result = .ok () := by
  rw [failures, List.filterMap_eq_nil_iff]
  refine forall₂_congr fun result _ => ?_
  cases result <;> simp

/-- Several results are settled to a success exactly if all of them are successes. -/
theorem settle_eq_ok {results : List Delivery} :
    settle results = .ok () ↔ ∀ result ∈ results, result = .ok () := by
  rw [← failures_eq_nil, settle]
  split
  · rename_i hnone
    exact iff_of_true rfl hnone
  · rename_i e hone
    simp [hone]
  · rename_i e more _ hmany
    simp [hmany]

theorem failures_append (results more : List Delivery) :
    failures (results ++ more) = failures results ++ failures more :=
  List.filterMap_append

@[simp] theorem Agent.length_answers (batch : List Notification) :
    (agent.answers past batch).length = batch.length := by
  induction batch generalizing past with
  | nil => rfl
  | cons n batch ih => rw [answers, List.length_cons, ih, List.length_cons]

/-- Two batches, one after the other, are answered as one. -/
theorem Agent.answers_append (batch more : List Notification) :
    agent.answers past (batch ++ more) =
      agent.answers past batch ++ agent.answers (past ++ batch) more := by
  induction batch generalizing past with
  | nil => rw [List.nil_append, answers, List.nil_append, List.append_nil]
  | cons n batch ih =>
    rw [List.cons_append, answers, answers, ih, List.cons_append, List.append_assoc,
      List.singleton_append]

namespace Plan

/-- The batches succeed exactly if every notification is taken. -/
theorem results_ok_iff (plan : Plan) :
    (∀ result ∈ plan.results agent past, result = .ok ()) ↔
      ∀ answer ∈ agent.answers past plan.sent, answer = .ok () := by
  induction plan generalizing past with
  | nil => exact Iff.rfl
  | cons batch plan ih =>
    have hsent : sent (batch :: plan) = batch ++ sent plan := List.flatten_cons
    rw [results, List.forall_mem_cons, settle_eq_ok, ih, hsent, Agent.answers_append,
      List.forall_mem_append]

/-- A plan is delivered exactly if every notification is taken. -/
theorem deliver_eq_ok (plan : Plan) :
    plan.deliver agent past = .ok () ↔
      ∀ answer ∈ agent.answers past plan.sent, answer = .ok () := by
  rw [deliver, settle_eq_ok, results_ok_iff]

end Plan
end VpnAttach
