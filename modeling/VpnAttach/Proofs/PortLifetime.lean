import Mathlib.Data.List.Induction
import VpnAttach.Proofs.Service.Runs
import VpnAttach.Proofs.Rules.Announcement
import VpnAttach.Scenario.Samples

/-!
# The life of a port

A port is created, takes on one status after the other and is deleted, while
nothing else happens.  The agent is told when the port becomes active, when it
goes down, and when it is deleted while it is active.  It is not told of the other
statuses, so a port that leaves the active status for one of these and is then
deleted stays attached.  `Faded` names these lives, and the main result says that
every other life ends with a detachment if there was an attachment at all.

A life is followed status by status.  Nothing but the ports and what was sent
changes in it (`Service.during`), and after every status `Heard` relates the last
word that the agent got to the statuses so far.
-/

namespace VpnAttach

open Notification (IsAttach IsDetach)

/-! ## Words and statuses -/

/-- A notification attaches or detaches the port `id`. -/
def Notification.Names (id : String) (n : Notification) : Prop :=
  IsAttach id n ∨ IsDetach id n

instance (id : String) : DecidablePred (Notification.Names id) :=
  fun n => inferInstanceAs (Decidable (IsAttach id n ∨ IsDetach id n))

/-- The last notification that attaches or detaches the port `id`. -/
def lastWord (id : String) (sent : List Notification) : Option Notification :=
  sent.reverse.find? fun n => n.Names id

/-- Whether the agent is told when a port takes on a status. -/
def PortStatus.isTold : PortStatus → Bool
  | .active | .down => true
  | .build | .error => false

/-- The last of some statuses that the agent is told of. -/
def lastTold (statuses : List PortStatus) : Option PortStatus :=
  statuses.reverse.find? PortStatus.isTold

/-- A port with these statuses was active, is so no more, and was not down since. -/
def Faded (statuses : List PortStatus) : Prop :=
  lastTold statuses = some .active ∧ statuses.getLast? ≠ some .active

instance (statuses : List PortStatus) : Decidable (Faded statuses) :=
  inferInstanceAs (Decidable (_ ∧ _))

theorem lastWord_append (id : String) (sent more : List Notification) :
    lastWord id (sent ++ more) = (lastWord id more).or (lastWord id sent) := by
  rw [lastWord, List.reverse_append, List.find?_append]
  rfl

theorem lastWord_ne_none {id : String} {sent : List Notification}
    (h : Sends sent (IsAttach id)) : lastWord id sent ≠ none := by
  obtain ⟨n, hn, hattach⟩ := h
  intro hnone
  have hnot := List.find?_eq_none.1 hnone n (List.mem_reverse.2 hn)
  exact hnot (decide_eq_true (Or.inl hattach))

theorem lastTold_append (statuses : List PortStatus) (status : PortStatus) :
    lastTold (statuses ++ [status]) =
      if status.isTold then some status else lastTold statuses := by
  rw [lastTold, List.reverse_append, List.reverse_singleton, List.singleton_append,
    List.find?_cons]
  cases status.isTold <;> rfl

/-- To have the same status again makes no difference. -/
theorem lastTold_append_getLast {statuses : List PortStatus} {status : PortStatus}
    (h : statuses.getLast? = some status) :
    lastTold (statuses ++ [status]) = lastTold statuses := by
  obtain ⟨before, rfl⟩ := List.getLast?_eq_some_iff.1 h
  rw [lastTold_append, lastTold_append]
  split <;> rfl

/-! ## What is told of a port -/

section Life

variable {setup : Setup} {policy : Policy} {s : Service} {port : Port}
  {status new : PortStatus} {statuses : List PortStatus} {ports : List Port}
  {sent : List Notification} {word : Option Notification}

/-- The notification that attaches a port. -/
def attachment (policy : Policy) (s : Service) (port : Port) : Notification :=
  .attach (Rules.attachPayload policy s.topology s.tables port
    (vpnsOfPort s.topology s.tables port)) port.host

/-- The notification that detaches a port. -/
def detachment (port : Port) : Notification :=
  .detach (PortPayload.detach port) port.host

/-- What the agent is told when a port changes to a status. -/
def wordsOn (policy : Policy) (s : Service) (port : Port) : PortStatus → List Notification
  | .active => [attachment policy s port]
  | .down => [detachment port]
  | .build | .error => []

/-- A port is followed if it is not ignored and some VPN reaches its network. -/
structure Followed (policy : Policy) (s : Service) (port : Port) : Prop where
  heeded : ignoresPort policy s.topology port = false
  reached : vpnsOfNetwork s.topology s.tables port.network ≠ []

instance (policy : Policy) (s : Service) (port : Port) : Decidable (Followed policy s port) :=
  decidable_of_iff (ignoresPort policy s.topology port = false ∧
    vpnsOfNetwork s.topology s.tables port.network ≠ [])
    ⟨fun h => ⟨h.1, h.2⟩, fun h => ⟨h.heeded, h.reached⟩⟩

theorem Followed.vpnsOfPort_ne_nil (h : Followed policy s port) :
    vpnsOfPort s.topology s.tables port ≠ [] := by
  obtain ⟨vpn, hvpn⟩ := List.exists_mem_of_ne_nil _ h.reached
  intro hnil
  have hmem : vpn.id ∈ (vpnsOfPort s.topology s.tables port).map (·.id) := by
    rw [vpnsOfPort, mem_map_distinctBy, List.map_append]
    exact List.mem_append_left _ (List.mem_map_of_mem hvpn)
  rw [hnil] at hmem
  exact List.not_mem_nil hmem

/-- The state `s` with other ports, and after more was sent. -/
def Service.during (s : Service) (ports : List Port) (sent : List Notification) : Service :=
  { s with
    topology := { s.topology with ports := ports }
    past := s.past ++ sent }

/-! ### Events

Attachments and detachments depend neither on the ports that are known nor on the
status of the port. -/

theorem Followed.attachPort_eq (h : Followed policy s port) (ports : List Port)
    (status : PortStatus) :
    Rules.attachPort policy { s.topology with ports := ports } s.tables
      { port with status := status } = [attachment policy s port] := by
  have hsome : (vpnsOfPort s.topology s.tables port).isEmpty = false :=
    List.isEmpty_eq_false_iff.2 h.vpnsOfPort_ne_nil
  exact if_neg (Bool.eq_false_iff.1 hsome)

theorem Followed.detachPort_eq (h : Followed policy s port) (ports : List Port)
    (status : PortStatus) :
    Rules.detachPort { s.topology with ports := ports } s.tables
      { port with status := status } = [detachment port] := by
  have hsome : (vpnsOfPort s.topology s.tables port).isEmpty = false :=
    List.isEmpty_eq_false_iff.2 h.vpnsOfPort_ne_nil
  exact if_neg (Bool.eq_false_iff.1 hsome)

theorem Followed.sent_created (h : Followed policy s port) (ports : List Port) :
    (Rules.eventPlan policy { s.topology with ports := ports } s.tables
        (.portCreated port)).sent =
      if port.status = .active then [attachment policy s port] else [] := by
  have hheeded : ignoresPort policy { s.topology with ports := ports } port = false := h.heeded
  have hattach := h.attachPort_eq ports port.status
  rw [Rules.eventPlan, hheeded, hattach]
  cases port.status <;> rfl

theorem Followed.sent_updated (h : Followed policy s port) (ports : List Port) :
    (Rules.eventPlan policy { s.topology with ports := ports } s.tables
        (.portUpdated { port with status := new } { port with status := status })).sent =
      if new = status then [] else wordsOn policy s port new := by
  have hheeded : ignoresPort policy { s.topology with ports := ports }
      { port with status := new } = false := h.heeded
  rw [Rules.eventPlan, hheeded, Bool.or_false]
  by_cases hsame : new = status
  · simp [hsame, Plan.sent]
  · simp only [hsame, decide_false, if_false, Bool.false_eq_true, Rules.notifyStatus,
      h.attachPort_eq, h.detachPort_eq]
    cases new <;> rfl

theorem Followed.sent_deleted (h : Followed policy s port)
    (hport : ports.find? (·.id == port.id) = some { port with status := status }) :
    (Rules.eventPlan policy { s.topology with ports := ports } s.tables
        (.portDeleted port.id)).sent =
      if status = .active then [detachment port] else [] := by
  have hknown : Topology.port? { s.topology with ports := ports } port.id =
      some { port with status := status } := hport
  have hheeded : ignoresPort policy { s.topology with ports := ports }
      { port with status := status } = false := h.heeded
  simp only [Rules.eventPlan, hknown, hheeded, h.detachPort_eq]
  cases status <;> rfl

/-! ### Commands -/

theorem Followed.service_createPort (h : Followed setup.policy s port)
    (hunknown : s.topology.port? port.id = none) :
    (s.apply setup (.createPort port)).service =
      s.during (upsert (·.id) port s.topology.ports)
        (if port.status = .active then [attachment setup.policy s port] else []) := by
  rw [← h.sent_created (upsert (·.id) port s.topology.ports)]
  have hevent : s.portEvent port = .portCreated port := by
    rw [Service.portEvent, hunknown]
  have hservice : (s.putPort setup port).service = _ := (Service.putPort_eq port).2
  rw [hevent] at hservice
  exact hservice

theorem Followed.service_setPortStatus (h : Followed setup.policy s port)
    (hport : ports.find? (·.id == port.id) = some { port with status := status }) :
    ((s.during ports sent).apply setup (.setPortStatus port.id new)).service =
      s.during (upsert (·.id) { port with status := new } ports)
        (sent ++ if new = status then [] else wordsOn setup.policy s port new) := by
  rw [← h.sent_updated (upsert (·.id) { port with status := new } ports)]
  have hknown : (s.during ports sent).topology.port? port.id =
      some { port with status := status } := hport
  have hevent : (s.during ports sent).portEvent { port with status := new } =
      .portUpdated { port with status := new } { port with status := status } := by
    rw [Service.portEvent, hknown]
  have hservice :
      ((s.during ports sent).putPort setup { port with status := new }).service = _ :=
    (Service.putPort_eq { port with status := new }).2
  rw [hevent] at hservice
  rw [Service.apply, Service.setPortStatus_eq new hknown]
  refine hservice.trans ?_
  simp only [Service.during, Topology.putPort, List.append_assoc]

theorem Followed.service_deletePort (h : Followed setup.policy s port)
    (hport : ports.find? (·.id == port.id) = some { port with status := status }) :
    ((s.during ports sent).apply setup (.deletePort port.id)).service =
      s.during (ports.filter (·.id != port.id))
        (sent ++ if status = .active then [detachment port] else []) := by
  rw [← h.sent_deleted hport]
  have hknown : (s.during ports sent).topology.port? port.id =
      some { port with status := status } := hport
  refine (Service.deletePort_eq hknown).trans ?_
  simp only [Service.during, Topology.removePort, List.append_assoc]

/-! ## The last word -/

/-- After these statuses the agent last heard of the attachment, or of the
detachment if it heard anything. -/
def Heard (policy : Policy) (s : Service) (port : Port) (statuses : List PortStatus)
    (word : Option Notification) : Prop :=
  if lastTold statuses = some .active then word = some (attachment policy s port)
  else word = none ∨ word = some (detachment port)

theorem lastWord_attachment : lastWord port.id [attachment policy s port] =
    some (attachment policy s port) :=
  List.find?_cons_of_pos (decide_eq_true (Or.inl rfl))

theorem lastWord_detachment : lastWord port.id [detachment port] = some (detachment port) :=
  List.find?_cons_of_pos (decide_eq_true (Or.inr rfl))

/-- A new port is attached if it is active. -/
theorem heard_created : Heard policy s port [port.status]
    (lastWord port.id
      (if port.status = .active then [attachment policy s port] else [])) := by
  unfold Heard
  cases port.status with
  | active => exact lastWord_attachment
  | down | build | error => exact Or.inl rfl

theorem Heard.changed (h : Heard policy s port statuses word) (new : PortStatus) :
    Heard policy s port (statuses ++ [new])
      ((lastWord port.id (wordsOn policy s port new)).or word) := by
  unfold Heard
  rw [lastTold_append]
  cases new with
  | active => rw [wordsOn, lastWord_attachment]; rfl
  | down => rw [wordsOn, lastWord_detachment]; exact Or.inr rfl
  | build | error => exact h

theorem Heard.same (h : Heard policy s port statuses word)
    (hlast : statuses.getLast? = some status) :
    Heard policy s port (statuses ++ [status]) word := by
  unfold Heard
  rw [lastTold_append_getLast hlast]
  exact h

/-! ## Lives -/

/-- A port is created, takes on some statuses one after the other and is deleted. -/
def portLife (port : Port) (statuses : List PortStatus) : List Command :=
  .createPort port :: statuses.map (.setPortStatus port.id) ++ [.deletePort port.id]

namespace Service

/-- What some commands send. -/
def sentByAll (setup : Setup) (s : Service) (commands : List Command) :
    List Notification :=
  (applyAll setup s commands).past.drop s.past.length

theorem applyAll_append (setup : Setup) (s : Service) (commands more : List Command) :
    applyAll setup s (commands ++ more) = applyAll setup (applyAll setup s commands) more :=
  List.foldl_append

theorem sentByAll_of_during {commands : List Command}
    (h : applyAll setup s commands = s.during ports sent) :
    sentByAll setup s commands = sent := by
  rw [sentByAll, h]
  exact List.drop_left

/-- From its creation on, the last word on a port fits its statuses. -/
theorem heard_applyAll (hfollowed : Followed setup.policy s port)
    (hunknown : s.topology.port? port.id = none) (statuses : List PortStatus) :
    ∃ ports sent status,
      applyAll setup s (.createPort port :: statuses.map (.setPortStatus port.id)) =
        s.during ports sent ∧
      ports.find? (·.id == port.id) = some { port with status := status } ∧
      (port.status :: statuses).getLast? = some status ∧
      Heard setup.policy s port (port.status :: statuses) (lastWord port.id sent) := by
  -- From the back: the statuses so far decide what the next one is told as.
  induction statuses using List.reverseRecOn with
  | nil =>
    exact ⟨_, _, port.status, hfollowed.service_createPort hunknown,
      find?_upsert_self Port.id port _, rfl, heard_created⟩
  | append_singleton statuses new ih =>
    obtain ⟨ports, sent, status, hrun, hport, hlast, hheard⟩ := ih
    refine ⟨_, sent ++ if new = status then [] else wordsOn setup.policy s port new, new, ?_,
      find?_upsert_self Port.id { port with status := new } ports, ?_, ?_⟩
    · rw [List.map_append, ← List.cons_append, applyAll_append, hrun]
      exact hfollowed.service_setPortStatus hport
    · rw [← List.cons_append]
      exact List.getLast?_concat
    · rw [← List.cons_append, lastWord_append]
      by_cases hsame : new = status
      · rw [if_pos hsame, hsame]
        exact hheard.same hlast
      · rw [if_neg hsame]
        exact hheard.changed new

/-- If a port was attached in its life, the last word on it is its detachment, or its
attachment if it was active, is so no more, and was not down since. -/
theorem lastWord_portLife (setup : Setup) (s : Service) (port : Port)
    (statuses : List PortStatus) (hfollowed : Followed setup.policy s port)
    (hunknown : s.topology.port? port.id = none)
    (hattached : Sends (sentByAll setup s (portLife port statuses)) (IsAttach port.id)) :
    lastWord port.id (sentByAll setup s (portLife port statuses)) =
      some (if Faded (port.status :: statuses) then attachment setup.policy s port
        else detachment port) := by
  obtain ⟨ports, sent, status, hrun, hport, hlast, hheard⟩ :=
    heard_applyAll hfollowed hunknown statuses
  have hlife : applyAll setup s (portLife port statuses) =
      s.during (ports.filter (·.id != port.id))
        (sent ++ if status = .active then [detachment port] else []) := by
    rw [portLife, applyAll_append, hrun]
    exact hfollowed.service_deletePort hport
  rw [sentByAll_of_during hlife] at hattached ⊢
  by_cases hactive : status = .active
  · have hkept : ¬Faded (port.status :: statuses) := fun hfaded =>
      hfaded.2 (hactive ▸ hlast)
    rw [if_pos hactive, if_neg hkept, lastWord_append, lastWord_detachment]
    rfl
  · rw [if_neg hactive, List.append_nil] at hattached ⊢
    have hfaded : Faded (port.status :: statuses) ↔
        lastTold (port.status :: statuses) = some .active := by
      refine and_iff_left fun hnow => hactive ?_
      exact Option.some.inj (hlast.symm.trans hnow)
    unfold Heard at hheard
    split at hheard
    · rename_i htold
      rw [if_pos (hfaded.2 htold), hheard]
    · rename_i htold
      rw [if_neg fun h => htold (hfaded.1 h)]
      exact hheard.resolve_left (lastWord_ne_none hattached)

/-- A network that a VPN reaches, without ports. -/
def reachedNetwork : List Command := [
  .addNetwork (Scenario.tenantNetwork "net"),
  .mutate (.createVpn (Scenario.vpn .l3 "vpn" [])),
  .mutate (.createNetwork "vpn" (Scenario.association "a" "net" ()))]

/-- A port that is deleted in the error status stays attached. -/
theorem attached_portInError :
    let s := applyAll .plain {} reachedNetwork
    let port := Scenario.activePort "port" "net"
    let sent := sentByAll .plain s (portLife port [.error])
    Reachable .plain s ∧ s.topology.port? port.id = none ∧
      Followed Setup.plain.policy s port ∧ Sends sent (IsAttach port.id) ∧
      (lastWord port.id sent).isSome ∧ ∀ n ∈ lastWord port.id sent, ¬IsDetach port.id n :=
  ⟨Reachable.start.applyAll (by decide), rfl, by decide, by decide, by decide, by decide⟩

/-- A port that was down after it was last active is not left attached. -/
theorem lastWord_portLife_downAtLast :
    let s := applyAll .plain {} reachedNetwork
    let port := Scenario.activePort "port" "net"
    let statuses : List PortStatus := [.error, .active, .down, .build]
    Followed Setup.plain.policy s port ∧ s.topology.port? port.id = none ∧
      Sends (sentByAll .plain s (portLife port statuses)) (IsAttach port.id) ∧
      ¬Faded (port.status :: statuses) ∧
      lastWord port.id (sentByAll .plain s (portLife port statuses)) =
        some (detachment port) := by
  intro s port statuses
  have hfollowed : Followed Setup.plain.policy s port := by decide
  have hattached : Sends (sentByAll .plain s (portLife port statuses)) (IsAttach port.id) := by
    decide
  have hkept : ¬Faded (port.status :: statuses) := by decide
  have hword := lastWord_portLife .plain s port statuses hfollowed rfl hattached
  rw [if_neg hkept] at hword
  exact ⟨hfollowed, rfl, hattached, hkept, hword⟩

end Service
end Life
end VpnAttach
