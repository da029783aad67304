import VpnAttach.Proofs.Payload.Json
import VpnAttach.Proofs.Rules.Announcement
import VpnAttach.Proofs.Service.Runs
import VpnAttach.Scenario.Samples

/-!
# Notifications survive being sent

There are four ways to draft a notification (`Notification.Drafted`), whatever
VPNs, ports and associations it is drafted from, and commands send nothing else
(`Service.drafted_sentBy`).  The target lists of a draft are projected, so they
are under wire keys in order.  Hence every draft is read back as it is written:
none of its named members is taken for a target list, and no target list for a
member (`Notification.Drafted.readBack`).
-/

namespace VpnAttach

variable {emitted : List VpnKind} {n : Notification} {policy : Policy} {topology : Topology}
  {t : Tables} {vpn : Vpn} {port : Port} {networks : List String} {id : String}
  {sent : List Notification}

namespace Notification

/-- The notification is drafted from VPNs, ports and associations, by an agent
to which the kinds `emitted` are shown. -/
inductive Drafted (emitted : List VpnKind) : Notification → Prop where
  | update (vpn : Vpn) (network : String) :
    Drafted emitted (.update (.make emitted vpn network))
  | delete (vpn : Vpn) (network : String) :
    Drafted emitted (.delete (.make emitted vpn network))
  | attach (port : Port) (gateway : Option Ip) (vpns : List Vpn)
      (associations : List PortAssociation) (lookup : String → Option Vpn) (host : String) :
    Drafted emitted (.attach (.attach emitted port gateway vpns associations lookup) host)
  | detach (port : Port) (host : String) :
    Drafted emitted (.detach (.detach port) host)

/-- Writing a notification and reading it again gives it back. -/
structure ReadBack (n : Notification) : Prop where
  /-- As it is written. -/
  plain : ofJson? n.toJson = some n
  /-- As it is kept, with its members sorted. -/
  kept : ∃ value, n.toJson.kept? = some value ∧ ofJson? value = some n ∧
    value.get? "op" = some (.str n.tag)
  /-- No target list is under the name of a member. -/
  distinct : ∀ entry ∈ n.targets, entry.1 ∉ n.memberNames
  /-- What is left beside the named members are the target lists. -/
  split : ∃ given rest, n.payloadToJson.membersAndRest? n.memberNames = some (given, rest) ∧
    rest.Perm n.targets.toMembers

theorem Drafted.keyed (h : n.Drafted emitted) : n.targets.Keyed := by
  cases h with
  | update vpn network => exact (TargetMap.keyed_project emitted [vpn]).dropEmpty
  | delete vpn network => exact (TargetMap.keyed_project emitted [vpn]).dropEmpty
  | attach port gateway vpns associations lookup host =>
    exact (TargetMap.keyed_project emitted vpns).dropEmpty
  | detach port host => exact TargetMap.keyed_nil

/-- Every draft is read back, and its target lists never collide with a member. -/
theorem Drafted.readBack (h : n.Drafted emitted) : n.ReadBack where
  plain := ofJson?_arranged .id h.keyed
  kept := by
    refine ⟨n.toJson.canonical, ?_, ofJson?_arranged .canonical h.keyed, ?_⟩
    · rw [Json.kept?, if_pos n.held_toJson]
    · have hget := (Json.Arrangement.canonical.obj n.nodup_keys).get? "op"
      rwa [List.lookup_cons_self, Option.map_some, Json.Arrangement.canonical.str,
        ← toJson_eq] at hget
  distinct := by
    intro entry hentry
    obtain ⟨kind, hkind⟩ := h.keyed.2 entry hentry
    rw [hkind]
    cases n with
    | update _ | delete _ => exact kind.wireKey_not_mem.1
    | attach _ _ | detach _ _ => exact kind.wireKey_not_mem.2
  split := by
    cases n with
    | update payload | delete payload =>
      obtain ⟨rest, hsplit, hperm⟩ := VpnPayload.membersAndRest?_arranged .id h.keyed
      rw [List.map_id'] at hperm
      exact ⟨_, rest, hsplit, hperm⟩
    | attach payload host | detach payload host =>
      obtain ⟨rest, hsplit, hperm⟩ := PortPayload.membersAndRest?_arranged .id h.keyed
      rw [List.map_id'] at hperm
      exact ⟨_, rest, hsplit, hperm⟩

end Notification

/-! ## What is sent -/

namespace Rules

theorem drafted_pushUpdates
    (h : Sends (pushUpdates policy topology vpn networks) (n = ·)) :
    n.Drafted policy.emitted := by
  obtain ⟨network, -, -, rfl⟩ := sends_pushUpdates.1 h
  exact .update vpn network

theorem drafted_pushDeletes
    (h : Sends (pushDeletes policy topology vpn networks) (n = ·)) :
    n.Drafted policy.emitted := by
  obtain ⟨network, -, -, rfl⟩ := sends_pushDeletes.1 h
  exact .delete vpn network

theorem drafted_withdraw
    (h : Sends (withdraw policy topology t vpn networks).sent (n = ·)) :
    n.Drafted policy.emitted := by
  rw [withdraw, sends_sent_cons, sends_sent_singleton] at h
  rcases h with h | h
  · exact drafted_pushDeletes h
  · exact drafted_pushUpdates h

theorem drafted_attachPort (h : Sends (attachPort policy topology t port) (n = ·)) :
    n.Drafted policy.emitted := by
  obtain ⟨-, rfl⟩ := sends_attachPort.1 h
  exact .attach ..

theorem drafted_detachPort (h : Sends (detachPort topology t port) (n = ·)) :
    n.Drafted policy.emitted := by
  obtain ⟨-, rfl⟩ := sends_detachPort.1 h
  exact .detach ..

theorem drafted_refreshPort (h : Sends (refreshPort policy topology t id) (n = ·)) :
    n.Drafted policy.emitted := by
  obtain ⟨port, -, -, ⟨-, rfl⟩ | ⟨-, rfl⟩⟩ := sends_refreshPort.1 h
  · exact .detach ..
  · exact .attach ..

/-- Whatever is announced of a change is drafted. -/
theorem drafted_plan {change : Change}
    (h : Sends (plan policy topology t change).sent (n = ·)) : n.Drafted policy.emitted := by
  cases change with
  | vpnCreated vpn => exact drafted_pushUpdates (sends_sent_singleton.1 h)
  | vpnUpdated old new =>
    rw [plan] at h
    split at h
    · exact drafted_pushUpdates (sends_sent_singleton.1 h)
    · exact (not_sends_sent_nil h).elim
  | vpnDeleted vpn =>
    rw [plan, sends_sent_cons, sends_sent_map] at h
    rcases h with h | ⟨_, -, h⟩
    · exact drafted_pushDeletes h
    · exact drafted_refreshPort h
  | networkCreated a | routerCreated a =>
    obtain ⟨vpn, -, h⟩ := sends_aboutOwner.1 h
    exact drafted_pushUpdates (sends_sent_singleton.1 h)
  | networkDeleted a | routerDeleted a =>
    obtain ⟨vpn, -, h⟩ := sends_aboutOwner.1 h
    exact drafted_withdraw h
  | routerUpdated old new =>
    rw [plan] at h
    split at h
    · obtain ⟨vpn, -, h⟩ := sends_aboutOwner.1 h
      exact drafted_pushUpdates (sends_sent_singleton.1 h)
    · exact (not_sends_sent_nil h).elim
  | portCreated a | portDeleted a => exact drafted_refreshPort (sends_sent_singleton.1 h)
  | portUpdated old new =>
    rw [plan] at h
    split at h
    · exact (not_sends_sent_nil h).elim
    · exact drafted_refreshPort (sends_sent_singleton.1 h)

/-- So is whatever is told of an event. -/
theorem drafted_eventPlan {event : TopologyEvent}
    (h : Sends (eventPlan policy topology t event).sent (n = ·)) :
    n.Drafted policy.emitted := by
  cases event with
  | portCreated port => exact drafted_attachPort (sends_portCreated.1 h).2
  | portUpdated port previous =>
    obtain ⟨-, -, ⟨-, h⟩ | ⟨-, h⟩⟩ := sends_portUpdated.1 h
    · exact drafted_attachPort h
    · exact drafted_detachPort h
  | portDeleted id =>
    obtain ⟨port, -, -, h⟩ := sends_portDeleted.1 h
    exact drafted_detachPort h
  | interfaceAdded router network =>
    obtain ⟨-, vpn, -, rfl⟩ := sends_interfaceAdded.1 h
    exact .update vpn network
  | interfaceRemoved router network =>
    obtain ⟨-, ⟨vpn, -, -, rfl⟩ | ⟨vpn, -, rfl⟩⟩ := sends_interfaceRemoved.1 h
    · exact .delete vpn network
    · exact .update vpn network

end Rules

namespace Service

variable {setup : Setup} {s : Service} {c : Command}

theorem Accepts.drafted {tables : Tables} (h : Accepts setup s c tables topology sent)
    (hn : n ∈ sent) : n.Drafted setup.policy.emitted := by
  have hsends := sends_of_mem hn
  cases h with
  | mutate _ _ => exact Rules.drafted_plan hsends
  | createPort _ | updatePort _ | setPortStatus _ _ | deletePort _ | plug _ _ | unplug _ =>
    exact Rules.drafted_eventPlan hsends
  | _ => exact (not_sends_nil hsends).elim

/-- Whatever a command sends is drafted. -/
theorem drafted_sentBy (setup : Setup) (s : Service) (c : Command) :
    ∀ n ∈ s.sentBy setup c, n.Drafted setup.policy.emitted := by
  intro n hn
  rcases apply_cases setup s c with hkept | haccepts
  · rw [sentBy, hkept, List.drop_length] at hn
    cases hn
  · exact haccepts.drafted hn

/-- Commands send drafts only, and every draft survives being written and read. -/
theorem drafts_survive (setup : Setup) (s : Service) (c : Command) :
    (∀ n ∈ s.sentBy setup c, n.Drafted setup.policy.emitted) ∧
      ∀ (emitted : List VpnKind) (n : Notification), n.Drafted emitted → n.ReadBack :=
  ⟨drafted_sentBy setup s c, fun _ _ h => h.readBack⟩

/-- A setup that shows both kinds of VPN to the agent. -/
def bothKinds : Setup :=
  { Setup.plain with policy := { emitted := [.l3, .l2] } }

theorem isText_ownTarget : RouteTarget.isText "64512:1".toList = true := by
  decide

/-- A port of two VPNs of different kinds, associated with one of them for a
static route and for the routes of a third. -/
def leakingPort : List Command := [
  .addSubnet (Scenario.subnet "net"),
  .createPort (Scenario.activePort "port" "net"),
  .mutate (.createVpn (Scenario.vpn .l3 "vpn" [⟨"64512:1", isText_ownTarget⟩])),
  .mutate (.createVpn (Scenario.vpn .l3 "shared" [⟨"64512:2", by decide⟩])),
  .mutate (.createVpn (Scenario.vpn .l2 "bridge" [⟨"64512:3", by decide⟩])),
  .mutate (.createNetwork "bridge" (Scenario.association "a" "net" ()))]

/-- The attachment of the port has every member there is. -/
theorem drafts_survive_leakingPort :
    let s := applyAll bothKinds {} leakingPort
    let c := Command.mutate (.createPort "vpn" (Scenario.association "b" "port"
      { routes := [.static ⟨.v4 ⟨192, 0, 2, 0⟩, 24, by decide⟩ (some 100), .leak "shared" none] }))
    let n := Notification.attach
      { id := "port"
        network := "net"
        mac := some (Scenario.activePort "port" "net").mac
        ip := some (.v4 ⟨10, 0, 0, Scenario.portOctet "port"⟩)
        gateway := some (.v4 ⟨10, 0, 0, 1⟩)
        advertiseFixedIps := some true
        staticRoutes := [⟨⟨.v4 ⟨192, 0, 2, 0⟩, 24, by decide⟩, some 100⟩]
        readvertise := some ⟨["64512:2"], ["64512:1"]⟩
        targets := [
          ("l2vpn", ⟨["64512:3"], ["64512:3"]⟩), ("l3vpn", ⟨["64512:1"], ["64512:1"]⟩)] }
      Scenario.computeHost
    s.sentBy bothKinds c = [n] ∧ n.Drafted [.l3, .l2] ∧ n.ReadBack := by
  intro s c n
  have hsent : s.sentBy bothKinds c = [n] := by decide +kernel
  obtain ⟨hdrafted, hsurvive⟩ := drafts_survive bothKinds s c
  have hn : n.Drafted [.l3, .l2] := hdrafted n (hsent ▸ List.mem_singleton_self n)
  exact ⟨hsent, hn, hsurvive [.l3, .l2] n hn⟩

end Service
end VpnAttach
