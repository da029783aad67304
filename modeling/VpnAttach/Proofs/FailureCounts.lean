import VpnAttach.Proofs.Delivery
import VpnAttach.Proofs.Service.Runs
import VpnAttach.Scenario.Samples

/-!
# How failures are counted

What came of the notifications of an announcement is reported in one result: how many
failed, out of how many, and the first failure (`Reports`).  A plan settles its answers
batch by batch and then settles what came of the batches, so it counts batches where
several of them are at fault.  `settle_map_settle_iff` says when this makes no
difference: `Tallied` are the groups of answers for which it makes none.

An event, and most changes, are announced by a single batch, by batches of one
notification each, or by a single notification, and the report is right.  A deleted VPN
and a deleted router association are announced by several batches of any size
(`Change.Batched`).  There the report may be wrong, but a failure is never lost: what is
reported leads to the first failure (`NotifyError.LeadsTo`).
-/

namespace VpnAttach

/-- What is to be reported of the answers to some notifications. -/
inductive Reports (answers : List Delivery) : Delivery → Prop where
  /-- None failed. -/
  | taken (h : failures answers = []) : Reports answers (.ok ())
  /-- One failed, and its failure is reported as it is. -/
  | single {e : NotifyError} (h : failures answers = [e]) : Reports answers (.error e)
  /-- Several failed, and the first failure is reported with the numbers. -/
  | several {e second : NotifyError} {more : List NotifyError}
    (h : failures answers = e :: second :: more) :
    Reports answers (.error (.several (failures answers).length answers.length e))

/-- An error is another one, or the first of those that this stands for leads to it. -/
inductive NotifyError.LeadsTo (e : NotifyError) : NotifyError → Prop where
  | self : LeadsTo e e
  | first {failed total : Nat} {error : NotifyError} (h : LeadsTo e error) :
    LeadsTo e (.several failed total error)

theorem NotifyError.LeadsTo.trans {x y z : NotifyError} (hxy : x.LeadsTo y)
    (hyz : y.LeadsTo z) : x.LeadsTo z := by
  induction hyz with
  | self => exact hxy
  | first _ ih => exact .first ih

/-! ## Settling -/

section Settle

variable {answers more : List Delivery} {e second : NotifyError} {errors : List NotifyError}

theorem settle_of_failures_singleton (h : failures answers = [e]) :
    settle answers = .error e := by
  rw [settle, h]

theorem settle_of_failures_cons_cons (h : failures answers = e :: second :: errors) :
    settle answers = .error (.several (errors.length + 2) answers.length e) := by
  rw [settle, h]
  rfl

/-- Answers that are settled at once are reported as they should be. -/
theorem reports_iff {result : Delivery} : Reports answers result ↔ result = settle answers := by
  constructor
  · intro h
    cases h with
    | taken h => rw [settle, h]
    | single h => exact (settle_of_failures_singleton h).symm
    | several h => rw [settle_of_failures_cons_cons h, h]; rfl
  · rintro rfl
    rcases hfailures : failures answers with _ | ⟨e, _ | ⟨second, errors⟩⟩
    · have hok : settle answers = .ok () := by rw [settle, hfailures]
      exact hok ▸ .taken hfailures
    · exact settle_of_failures_singleton hfailures ▸ .single hfailures
    · have hresult := settle_of_failures_cons_cons hfailures
      have hcount : (failures answers).length = errors.length + 2 := by
        rw [hfailures]
        rfl
      rw [hresult, ← hcount]
      exact .several hfailures

/-- What is reported depends on the failures and on the number of answers. -/
theorem settle_congr (hfailures : failures answers = failures more)
    (hlength : answers.length = more.length) : settle answers = settle more := by
  rw [settle, settle, hfailures, hlength]

/-- With one failure at most, the number of answers does not matter. -/
theorem settle_congr_of_le_one (hfailures : failures answers = failures more)
    (hone : (failures more).length ≤ 1) : settle answers = settle more := by
  rcases hmore : failures more with _ | ⟨e, _ | ⟨second, errors⟩⟩
  · rw [settle, settle, hfailures, hmore]
  · rw [settle, settle, hfailures, hmore]
  · rw [hmore] at hone
    simp only [List.length_cons] at hone
    omega

/-- A result has one failure if there are any behind it. -/
theorem length_failures_settle (answers : List Delivery) :
    (failures [settle answers]).length = min 1 (failures answers).length := by
  rcases hfailures : failures answers with _ | ⟨e, _ | ⟨second, errors⟩⟩
  · rw [settle, hfailures]
    rfl
  · rw [settle_of_failures_singleton hfailures]
    rfl
  · rw [settle_of_failures_cons_cons hfailures, List.length_cons, List.length_cons]
    have hmin : min 1 (errors.length + 1 + 1) = 1 := by omega
    rw [hmin]
    rfl

/-- A single failure stays as it is. -/
theorem failures_settle (hone : (failures answers).length ≤ 1) :
    failures [settle answers] = failures answers := by
  rcases hfailures : failures answers with _ | ⟨e, _ | ⟨second, errors⟩⟩
  · rw [settle, hfailures]
    rfl
  · rw [settle_of_failures_singleton hfailures]
    rfl
  · rw [hfailures] at hone
    simp only [List.length_cons] at hone
    omega

theorem failures_eq_nil_of_settle (h : settle answers = .ok ()) : failures answers = [] :=
  failures_eq_nil.2 (settle_eq_ok.1 h)

/-- The first failure is behind what is reported. -/
theorem settle_leadsTo (h : failures answers = e :: errors) :
    ∃ error, settle answers = .error error ∧ e.LeadsTo error := by
  cases errors with
  | nil => exact ⟨e, settle_of_failures_singleton h, .self⟩
  | cons second errors =>
    exact ⟨_, settle_of_failures_cons_cons h, .first .self⟩

end Settle

/-! ## Settling in groups -/

section Groups

variable {groups : List (List Delivery)} {group : List Delivery} {e error : NotifyError}

/-- Settling these answers group by group gives the same as settling all of them: at most
one failed, or all are in one group, or there are as many groups as answers and none of
them has two failures. -/
def Tallied (groups : List (List Delivery)) : Prop :=
  (failures groups.flatten).length ≤ 1 ∨
    (∃ group ∈ groups, group.length = groups.flatten.length) ∨
    (groups.length = groups.flatten.length ∧ ∀ group ∈ groups, (failures group).length ≤ 1)

theorem failures_cons (answer : Delivery) (answers : List Delivery) :
    failures (answer :: answers) = failures [answer] ++ failures answers :=
  failures_append [answer] answers

theorem failures_flatten_cons (group : List Delivery) (groups : List (List Delivery)) :
    failures (group :: groups).flatten = failures group ++ failures groups.flatten := by
  rw [List.flatten_cons, failures_append]

theorem failures_map_settle_cons (group : List Delivery) (groups : List (List Delivery)) :
    failures ((group :: groups).map settle) =
      failures [settle group] ++ failures (groups.map settle) := by
  rw [List.map_cons, failures_cons]

/-- If no group has two failures, none is hidden behind another. -/
theorem failures_map_settle (h : ∀ group ∈ groups, (failures group).length ≤ 1) :
    failures (groups.map settle) = failures groups.flatten := by
  induction groups with
  | nil => rfl
  | cons group groups ih =>
    obtain ⟨hgroup, hgroups⟩ := List.forall_mem_cons.1 h
    rw [failures_map_settle_cons, failures_flatten_cons, failures_settle hgroup, ih hgroups]

theorem length_failures_map_settle_le (groups : List (List Delivery)) :
    (failures (groups.map settle)).length ≤ (failures groups.flatten).length := by
  induction groups with
  | nil => exact Nat.le_refl 0
  | cons group groups ih =>
    rw [failures_map_settle_cons, failures_flatten_cons, List.length_append,
      List.length_append, length_failures_settle]
    omega

/-- As many groups are at fault as there are failures only if no group has two. -/
theorem le_one_of_length_failures_map_settle
    (h : (failures (groups.map settle)).length = (failures groups.flatten).length) :
    ∀ group ∈ groups, (failures group).length ≤ 1 := by
  induction groups with
  | nil => exact fun _ hmem => nomatch hmem
  | cons group groups ih =>
    have hle := length_failures_map_settle_le groups
    rw [failures_map_settle_cons, failures_flatten_cons, List.length_append,
      List.length_append, length_failures_settle] at h
    refine List.forall_mem_cons.2 ⟨by omega, ih (by omega)⟩

theorem failures_flatten_eq_nil (h : failures (groups.map settle) = []) :
    failures groups.flatten = [] := by
  refine failures_eq_nil.2 fun answer hanswer => ?_
  obtain ⟨group, hgroup, hanswer⟩ := List.mem_flatten.1 hanswer
  have hok := failures_eq_nil.1 h (settle group) (List.mem_map_of_mem hgroup)
  exact settle_eq_ok.1 hok answer hanswer

/-- If a single group is at fault, all failures are in that group. -/
theorem exists_of_failures_map_settle (h : failures (groups.map settle) = [error]) :
    ∃ group ∈ groups, failures groups.flatten = failures group ∧
      settle group = .error error := by
  induction groups with
  | nil => cases h
  | cons group groups ih =>
    rw [failures_map_settle_cons] at h
    cases hsettle : settle group with
    | ok _ =>
      rw [hsettle] at h
      obtain ⟨other, hother, hfailures, herror⟩ := ih h
      refine ⟨other, List.mem_cons_of_mem _ hother, ?_, herror⟩
      rw [failures_flatten_cons, failures_eq_nil_of_settle hsettle, List.nil_append,
        hfailures]
    | error e =>
      rw [hsettle] at h
      obtain ⟨rfl, hrest⟩ := List.cons.inj h
      refine ⟨group, List.mem_cons_self, ?_, hsettle⟩
      rw [failures_flatten_cons, failures_flatten_eq_nil hrest, List.append_nil]

/-- The first failure of all is behind the first failure of a group. -/
theorem map_settle_leadsTo {errors : List NotifyError}
    (h : failures groups.flatten = e :: errors) :
    ∃ error more, failures (groups.map settle) = error :: more ∧ e.LeadsTo error := by
  induction groups with
  | nil => cases h
  | cons group groups ih =>
    rw [failures_flatten_cons] at h
    rw [failures_map_settle_cons]
    cases hgroup : failures group with
    | nil =>
      rw [hgroup] at h
      have hnone : failures [settle group] = [] := by
        rw [failures_settle (by rw [hgroup]; exact Nat.zero_le 1), hgroup]
      rw [hnone]
      exact ih h
    | cons first rest =>
      rw [hgroup] at h
      obtain ⟨rfl, -⟩ := List.cons.inj h
      obtain ⟨error, herror, hleads⟩ := settle_leadsTo hgroup
      rw [herror]
      exact ⟨error, _, rfl, hleads⟩

/-- All answers are in one group, and the other groups are empty. -/
theorem settle_map_settle_of_mem (hgroup : group ∈ groups)
    (hlength : group.length = groups.flatten.length) :
    settle (groups.map settle) = settle groups.flatten := by
  obtain ⟨before, after, rfl⟩ := List.append_of_mem hgroup
  have hflatten : (before ++ group :: after).flatten =
      before.flatten ++ (group ++ after.flatten) := by simp
  rw [hflatten, List.length_append, List.length_append] at hlength
  have hbefore : before.flatten = [] := List.eq_nil_of_length_eq_zero (by omega)
  have hafter : after.flatten = [] := List.eq_nil_of_length_eq_zero (by omega)
  have hnone (groups : List (List Delivery)) (h : groups.flatten = []) :
      failures (groups.map settle) = [] := by
    have hle := length_failures_map_settle_le groups
    rw [h] at hle
    exact List.eq_nil_of_length_eq_zero (Nat.le_zero.1 hle)
  have hone : failures ((before ++ group :: after).map settle) = failures [settle group] := by
    rw [List.map_append, failures_append, failures_map_settle_cons, hnone before hbefore,
      hnone after hafter, List.nil_append, List.append_nil]
  rw [hflatten, hbefore, hafter, List.nil_append, List.append_nil]
  cases hsettle : settle group with
  | ok _ =>
    rw [hsettle] at hone
    exact settle_eq_ok.2 (failures_eq_nil.1 hone)
  | error e =>
    rw [hsettle] at hone
    exact settle_of_failures_singleton hone

/-- Settling in groups is settling at once exactly for groups that are tallied. -/
theorem settle_map_settle_iff :
    settle (groups.map settle) = settle groups.flatten ↔ Tallied groups := by
  constructor
  · intro h
    rcases hflatten : failures groups.flatten with _ | ⟨e, _ | ⟨second, errors⟩⟩
    · exact Or.inl (by rw [hflatten]; exact Nat.zero_le 1)
    · exact Or.inl (by rw [hflatten]; exact Nat.le_refl 1)
    · have hresult := settle_of_failures_cons_cons hflatten
      rcases hmap : failures (groups.map settle) with _ | ⟨error, _ | ⟨other, more⟩⟩
      · rw [failures_flatten_eq_nil hmap] at hflatten
        cases hflatten
      · obtain ⟨group, hgroup, hfailures, hsettle⟩ := exists_of_failures_map_settle hmap
        refine Or.inr (Or.inl ⟨group, hgroup, ?_⟩)
        rw [settle_of_failures_singleton hmap, ← hsettle, hresult,
          settle_of_failures_cons_cons (hfailures.symm.trans hflatten)] at h
        injection h with h
        injection h
      · refine Or.inr (Or.inr ?_)
        rw [settle_of_failures_cons_cons hmap, hresult, List.length_map] at h
        injection h with h
        injection h with hfailed htotal _
        refine ⟨htotal, le_one_of_length_failures_map_settle ?_⟩
        rw [hmap, hflatten, List.length_cons, List.length_cons, List.length_cons,
          List.length_cons]
        exact hfailed
  · intro h
    rcases h with hone | ⟨group, hgroup, hlength⟩ | ⟨hlength, hones⟩
    · refine settle_congr_of_le_one (failures_map_settle fun group hgroup => ?_) hone
      refine Nat.le_trans ?_ hone
      obtain ⟨before, after, rfl⟩ := List.append_of_mem hgroup
      simp only [List.flatten_append, List.flatten_cons, failures_append, List.length_append]
      omega
    · exact settle_map_settle_of_mem hgroup hlength
    · exact settle_congr (failures_map_settle hones) (by rw [List.length_map, hlength])

end Groups

/-! ## Plans -/

namespace Plan

variable {agent : Agent} {past batch : List Notification} {plan : Plan}

/-- The answers to a plan that is sent after `past`, batch by batch. -/
def answersByBatch (agent : Agent) (past : List Notification) : Plan → List (List Delivery)
  | [] => []
  | batch :: plan => agent.answers past batch :: answersByBatch agent (past ++ batch) plan

theorem flatten_answersByBatch (plan : Plan) :
    (plan.answersByBatch agent past).flatten = agent.answers past plan.sent := by
  induction plan generalizing past with
  | nil => rfl
  | cons batch plan ih =>
    have hsent : sent (batch :: plan) = batch ++ sent plan := List.flatten_cons
    rw [answersByBatch, List.flatten_cons, ih, hsent, Agent.answers_append]

theorem results_eq (plan : Plan) :
    plan.results agent past = (plan.answersByBatch agent past).map settle := by
  induction plan generalizing past with
  | nil => rfl
  | cons batch plan ih => rw [results, answersByBatch, List.map_cons, ih]

theorem map_length_answersByBatch (plan : Plan) :
    (plan.answersByBatch agent past).map List.length = plan.map List.length := by
  induction plan generalizing past with
  | nil => rfl
  | cons batch plan ih =>
    rw [answersByBatch, List.map_cons, List.map_cons, ih, Agent.length_answers]

/-- What comes of a plan is reported right exactly if its batches are tallied. -/
theorem reports_deliver_iff (plan : Plan) :
    Reports (agent.answers past plan.sent) (plan.deliver agent past) ↔
      Tallied (plan.answersByBatch agent past) := by
  rw [reports_iff, deliver, results_eq, ← flatten_answersByBatch, settle_map_settle_iff]

/-- What is reported of a plan leads to the first failure. -/
theorem deliver_leadsTo {e : NotifyError} {errors : List NotifyError}
    (h : failures (agent.answers past plan.sent) = e :: errors) :
    ∃ error, plan.deliver agent past = .error error ∧ e.LeadsTo error := by
  rw [← flatten_answersByBatch] at h
  obtain ⟨first, more, hfailures, hfirst⟩ := map_settle_leadsTo h
  obtain ⟨error, herror, hleads⟩ := settle_leadsTo hfailures
  exact ⟨error, by rw [deliver, results_eq, herror], hfirst.trans hleads⟩

/-! ### Plans that are always tallied -/

theorem length_failures_le (answers : List Delivery) :
    (failures answers).length ≤ answers.length :=
  List.length_filterMap_le _ _

/-- A single notification can only fail once. -/
theorem tallied_of_length_sent_le_one (h : plan.sent.length ≤ 1) :
    Tallied (plan.answersByBatch agent past) := by
  refine Or.inl ?_
  rw [flatten_answersByBatch]
  have hle := length_failures_le (agent.answers past plan.sent)
  rw [Agent.length_answers] at hle
  exact Nat.le_trans hle h

theorem tallied_nil : Tallied (answersByBatch agent past []) :=
  tallied_of_length_sent_le_one (Nat.zero_le 1)

theorem tallied_singleton (batch : List Notification) :
    Tallied (answersByBatch agent past [batch]) := by
  refine Or.inr (Or.inl ⟨_, List.mem_singleton_self _, ?_⟩)
  rw [answersByBatch, answersByBatch, List.flatten_singleton]

/-- Batches of one notification each are counted like notifications. -/
theorem tallied_of_forall_length (h : ∀ batch ∈ plan, batch.length = 1) :
    Tallied (plan.answersByBatch agent past) := by
  have hgroups : ∀ group ∈ plan.answersByBatch agent past, group.length = 1 := by
    intro group hgroup
    have hmem := List.mem_map_of_mem (f := List.length) hgroup
    rw [map_length_answersByBatch] at hmem
    obtain ⟨batch, hbatch, hlength⟩ := List.mem_map.1 hmem
    rw [← hlength]
    exact h batch hbatch
  refine Or.inr (Or.inr ⟨?_, fun group hgroup => ?_⟩)
  · have hones : (plan.answersByBatch agent past).map List.length =
        List.replicate (plan.answersByBatch agent past).length 1 :=
      List.eq_replicate_iff.2 ⟨List.length_map _, by simpa using hgroups⟩
    rw [List.length_flatten, hones, List.sum_replicate_nat, Nat.mul_one]
  · exact Nat.le_trans (length_failures_le group) (Nat.le_of_eq (hgroups group hgroup))

end Plan

/-! ## Announcements -/

/-- A change is announced by several batches, of any number of notifications. -/
def Change.Batched : Change → Prop
  | .vpnDeleted _ | .routerDeleted _ => True
  | _ => False

instance : DecidablePred Change.Batched
  | .vpnDeleted _ | .routerDeleted _ => inferInstanceAs (Decidable True)
  | .vpnCreated _ | .vpnUpdated _ _ | .networkCreated _ | .networkDeleted _
  | .routerCreated _ | .routerUpdated _ _ | .portCreated _ | .portUpdated _ _
  | .portDeleted _ => inferInstanceAs (Decidable False)

namespace Rules

variable {policy : Policy} {topology : Topology} {t : Tables} {agent : Agent}
  {past : List Notification}

/-- A withdrawal sends one notification at most for each network. -/
theorem length_sent_withdraw_le (vpn : Vpn) (networks : List String) :
    (withdraw policy topology t vpn networks).sent.length ≤ networks.length := by
  have hdeletes (networks : List String) :
      (pushDeletes policy topology vpn networks).length ≤ networks.length := by
    rw [pushDeletes, List.length_map]
    exact List.length_filter_le _ _
  have hupdates (networks : List String) :
      (pushUpdates policy topology vpn networks).length ≤ networks.length := by
    rw [pushUpdates, List.length_map]
    exact List.length_filter_le _ _
  have hsplit := List.length_eq_length_filter_add (l := networks)
    (stillReaches topology t vpn)
  have hgone := hdeletes (networks.filter fun n => !stillReaches topology t vpn n)
  have hreached := hupdates (networks.filter (stillReaches topology t vpn))
  simp only [withdraw, Plan.sent, List.flatten_cons, List.flatten_nil, List.append_nil,
    List.length_append]
  omega

theorem length_pushUpdates_singleton (vpn : Vpn) {network : String}
    (h : topology.hasActivePort network = true) :
    (pushUpdates policy topology vpn [network]).length = 1 := by
  simp [pushUpdates, h]

theorem length_pushDeletes_singleton (vpn : Vpn) {network : String}
    (h : topology.hasActivePort network = true) :
    (pushDeletes policy topology vpn [network]).length = 1 := by
  simp [pushDeletes, h]

theorem tallied_aboutOwner {owner : String} {plan : Vpn → Plan}
    (h : ∀ vpn, Tallied ((plan vpn).answersByBatch agent past)) :
    Tallied ((aboutOwner t owner plan).answersByBatch agent past) := by
  rw [aboutOwner]
  cases t.vpn? owner with
  | none => exact Plan.tallied_nil
  | some vpn => exact h vpn

theorem tallied_plan (change : Change) (h : ¬change.Batched) :
    Tallied ((plan policy topology t change).answersByBatch agent past) := by
  cases change with
  | vpnCreated _ | portCreated _ | portDeleted _ => exact Plan.tallied_singleton _
  | vpnUpdated _ _ =>
    rw [plan]
    split
    · exact Plan.tallied_singleton _
    · exact Plan.tallied_nil
  | portUpdated _ _ =>
    rw [plan]
    split
    · exact Plan.tallied_nil
    · exact Plan.tallied_singleton _
  | vpnDeleted _ | routerDeleted _ => exact (h trivial).elim
  | networkCreated _ | routerCreated _ =>
    exact tallied_aboutOwner fun _ => Plan.tallied_singleton _
  | networkDeleted a =>
    exact tallied_aboutOwner fun vpn =>
      Plan.tallied_of_length_sent_le_one (length_sent_withdraw_le vpn [a.target])
  | routerUpdated _ _ =>
    rw [plan]
    split
    · exact tallied_aboutOwner fun _ => Plan.tallied_singleton _
    · exact Plan.tallied_nil

theorem tallied_eventPlan (event : TopologyEvent) :
    Tallied ((eventPlan policy topology t event).answersByBatch agent past) := by
  cases event with
  | portCreated _ | portUpdated _ _ =>
    rw [eventPlan]
    split
    · exact Plan.tallied_nil
    · exact Plan.tallied_singleton _
  | portDeleted id =>
    rw [eventPlan]
    cases topology.port? id with
    | none => exact Plan.tallied_nil
    | some port =>
      dsimp only
      split
      · exact Plan.tallied_nil
      · exact Plan.tallied_singleton _
  | interfaceAdded router network =>
    rw [eventPlan]
    split
    · rename_i hactive
      refine Plan.tallied_of_forall_length fun batch hbatch => ?_
      obtain ⟨vpn, -, rfl⟩ := List.mem_map.1 hbatch
      exact length_pushUpdates_singleton vpn hactive
    · exact Plan.tallied_nil
  | interfaceRemoved router network =>
    rw [eventPlan]
    split
    · rename_i hactive
      refine Plan.tallied_of_forall_length fun batch hbatch => ?_
      rcases List.mem_append.1 hbatch with hgone | hdirect
      · obtain ⟨vpn, -, rfl⟩ := List.mem_map.1 hgone
        exact length_pushDeletes_singleton vpn hactive
      · obtain ⟨vpn, -, rfl⟩ := List.mem_map.1 hdirect
        exact length_pushUpdates_singleton vpn hactive
    · exact Plan.tallied_nil

end Rules

namespace Service

variable {setup : Setup} {s : Service}

/-- Whatever the agent answers, what is reported of an event is right, and so is what is
reported of a change that is not announced by several batches of any size.  What is
reported of the others is right exactly if their batches are tallied, and leads to the
first failure in any case. -/
theorem failures_reported_iff (setup : Setup) (s : Service) :
    (∀ event, let plan := Rules.eventPlan setup.policy s.topology s.tables event
      Reports (setup.agent.answers s.past plan.sent) (s.send setup plan).1) ∧
    ∀ change,
      let plan := Rules.plan setup.policy s.topology s.tables change
      let answers := setup.agent.answers s.past plan.sent
      let result := ((hooks setup s.topology).announce s.tables change s.past).1
      (¬change.Batched → Reports answers result) ∧
        (Reports answers result ↔ Tallied (plan.answersByBatch setup.agent s.past)) ∧
        ∀ first more, failures answers = first :: more →
          ∃ error, result = .error error ∧ first.LeadsTo error := by
  refine ⟨fun event => ?_, fun change => ⟨fun hchange => ?_, ?_, fun first more h => ?_⟩⟩
  · exact (Plan.reports_deliver_iff _).2 (Rules.tallied_eventPlan event)
  · exact (Plan.reports_deliver_iff _).2 (Rules.tallied_plan change hchange)
  · exact Plan.reports_deliver_iff _
  · exact Plan.deliver_leadsTo h

/-- An agent that cannot be told of anything that ends. -/
def deafToEnds : Setup :=
  { Setup.plain with agent := .unreachable [.pushDelete, .detachPort] }

/-- A VPN of two networks with active ports, and of one of the ports. -/
def onTwoNetworks : List Command := [
  .createPort (Scenario.activePort "p1" "n1"),
  .createPort (Scenario.activePort "p2" "n2"),
  .mutate (.createVpn (Scenario.vpn .l3 "v1" [])),
  .mutate (.createNetwork "v1" (Scenario.association "a1" "n1" ())),
  .mutate (.createNetwork "v1" (Scenario.association "a2" "n2" ())),
  .mutate (.createPort "v1" (Scenario.association "a3" "p1" {}))]

/-- The end of the VPN fails three times, and two failures out of two are reported: one
for the networks and one for the port. -/
theorem miscounted_onTwoNetworks :
    let s := applyAll deafToEnds {} onTwoNetworks
    let failure := NotifyError.transport "push_delete" "agent unreachable"
    Reachable deafToEnds s ∧
      ∃ staged, s.tables.stage (s.freshId deafToEnds) (.deleteVpn "v1") = .ok staged ∧
        let plan := Rules.plan deafToEnds.policy s.topology staged.committed staged.change
        let answers := deafToEnds.agent.answers s.past plan.sent
        let result :=
          ((hooks deafToEnds s.topology).announce staged.committed staged.change s.past).1
        answers.length = 3 ∧ (failures answers).length = 3 ∧
          result = .error (.several 2 2 (.several 2 2 failure)) ∧ ¬Reports answers result := by
  intro s failure
  refine ⟨Reachable.start.applyAll (by decide), _, rfl, ?_⟩
  intro plan answers result
  refine ⟨by decide, by decide, by decide, ?_⟩
  rw [reports_iff]
  decide

/-- The end of one network association fails once, and that is what is reported. -/
theorem failures_reported_iff_onTwoNetworks :
    let c := Command.mutate (.deleteNetwork "v1" "a1")
    let s := ((applyAll deafToEnds {} onTwoNetworks).apply deafToEnds c).service
    let change := Change.networkDeleted ⟨"a1", "v1", "n1", Scenario.tenant, ()⟩
    let failure := NotifyError.transport "push_delete" "agent unreachable"
    let plan := Rules.plan deafToEnds.policy s.topology s.tables change
    let answers := deafToEnds.agent.answers s.past plan.sent
    let result := ((hooks deafToEnds s.topology).announce s.tables change s.past).1
    ¬change.Batched ∧ failures answers = [failure] ∧ Reports answers result ∧
      ∃ error, result = .error error ∧ failure.LeadsTo error := by
  intro c s change failure plan answers result
  have hbatched : ¬change.Batched := by decide
  have hfailures : failures answers = [failure] := by decide
  obtain ⟨hreports, -, hleads⟩ := (failures_reported_iff deafToEnds s).2 change
  exact ⟨hbatched, hfailures, hreports hbatched, hleads failure [] hfailures⟩

end Service
end VpnAttach
