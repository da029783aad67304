import VpnAttach.Command.Json
import VpnAttach.Proofs.Topology.Json
import VpnAttach.Proofs.Vpn.Records

/-!
# Commands are read back

Every command is read back from its encoding, and from the value that is kept
of it, in which the members of all objects are sorted (`survives`).  The tag is
read first; what is left of the object are the members of the command, in
whatever order.
-/

namespace VpnAttach.Command

open Json

variable {α : Type} {arrange : Json → Json} {body : Json} {encode : α → Json}
  {decode : Json → Option α}

/-! ## Bodies -/

theorem one?_of_arranged (h : ReadsBack encode decode) (harrange : Arrangement arrange)
    {key : String} {x : α} (hbody : Arranged arrange [(key, encode x)] body)
    (build : α → Command) : one? key decode build body = some (build x) := by
  rw [one?, hbody.record? (by decide)]
  simp [lookup_cons_ite, h.required harrange]

theorem two?_of_arranged (h : ReadsBack encode decode) (harrange : Arrangement arrange)
    {first second name : String} (hne : second ≠ first) {x : α}
    (hbody : Arranged arrange [(first, .str name), (second, encode x)] body)
    (build : String → α → Command) : two? first second decode build body = some (build name x) := by
  rw [two?, hbody.record? (by decide)]
  simp [lookup_cons_ite, hne, h.required harrange, ReadsBack.str.required harrange]

theorem terms?_of_arranged (h : ReadsBack encode decode) (harrange : Arrangement arrange)
    {owner id : String} {x : α} (hbody : Arranged arrange
      [("bgpvpn_id", .str owner), ("id", .str id), ("changes", encode x)] body)
    (build : String → String → α → Mutation) :
    terms? decode build body = some (.mutate (build owner id x)) := by
  rw [terms?, hbody.record? (by decide)]
  simp [lookup_cons_ite, h.required harrange, ReadsBack.str.required harrange]

/-- The body of a command is read back once its name is known. -/
theorem ofBody?_of_arranged (harrange : Arrangement arrange) (command : Command)
    (hbody : Arranged arrange command.toMembers body) :
    ofBody? command.name body = some command := by
  have htagged : Dialect.tagged ≠ .document := by decide
  cases command with
  | mutate m =>
    cases m with
    | createVpn request =>
      exact one?_of_arranged (VpnRequest.readsBack htagged) harrange hbody _
    | updateVpn id changes =>
      exact two?_of_arranged (VpnUpdate.readsBack htagged) harrange (by decide) hbody _
    | deleteVpn id => exact one?_of_arranged .str harrange hbody _
    | createNetwork owner request =>
      exact two?_of_arranged (AssociationRequest.readsBack_network htagged) harrange
        (by decide) hbody _
    | createRouter owner request =>
      exact two?_of_arranged (AssociationRequest.readsBack_router htagged) harrange
        (by decide) hbody _
    | createPort owner request =>
      exact two?_of_arranged (AssociationRequest.readsBack_port htagged) harrange
        (by decide) hbody _
    | updateRouter owner id changes =>
      exact terms?_of_arranged (RouterTermsUpdate.readsBack htagged) harrange hbody _
    | updatePort owner id changes =>
      exact terms?_of_arranged (PortTermsUpdate.readsBack htagged) harrange hbody _
    | deleteNetwork owner id => exact two?_of_arranged .str harrange (by decide) hbody _
    | deleteRouter owner id => exact two?_of_arranged .str harrange (by decide) hbody _
    | deletePort owner id => exact two?_of_arranged .str harrange (by decide) hbody _
  | showVpn id => exact one?_of_arranged .str harrange hbody _
  | listVpns => exact if_pos hbody.isBare
  | addNetwork network =>
    exact one?_of_arranged (Network.readsBack htagged) harrange hbody _
  | addSubnet subnet => exact one?_of_arranged (Subnet.readsBack htagged) harrange hbody _
  | createPort port => exact one?_of_arranged (Port.readsBack htagged) harrange hbody _
  | updatePort port => exact one?_of_arranged (Port.readsBack htagged) harrange hbody _
  | setPortStatus port status =>
    exact two?_of_arranged (PortStatus.readsBack _) harrange (by decide) hbody _
  | deletePort port => exact one?_of_arranged .str harrange hbody _
  | addInterface router network =>
    exact two?_of_arranged .str harrange (by decide) hbody _
  | removeInterface router network =>
    exact two?_of_arranged .str harrange (by decide) hbody _

/-! ## Commands -/

/-- No member of a command is called like its tag, and none is there twice. -/
theorem nodup_keys (command : Command) :
    ((("command", .str command.name) :: command.toMembers).map (·.1)).Nodup := by
  cases command with
  | mutate m => cases m <;> simp [toMembers, Mutation.toMembers]
  | _ => simp [toMembers]

theorem heldMembers_toMembers (command : Command) :
    heldMembers command.toMembers = true := by
  have htagged : Dialect.tagged ≠ .document := by decide
  cases command with
  | mutate m =>
    cases m <;> simp [toMembers, Mutation.toMembers, (VpnRequest.readsBack htagged).held,
      (VpnUpdate.readsBack htagged).held, (AssociationRequest.readsBack_network htagged).held,
      (AssociationRequest.readsBack_router htagged).held,
      (AssociationRequest.readsBack_port htagged).held,
      (RouterTermsUpdate.readsBack htagged).held, (PortTermsUpdate.readsBack htagged).held]
  | _ =>
    simp [toMembers, (Network.readsBack htagged).held, (Subnet.readsBack htagged).held,
      (Port.readsBack htagged).held, (PortStatus.readsBack .tagged).held]

theorem readsBack : ReadsBack toJson ofJson? where
  held command := by simp [toJson, heldMembers_toMembers]
  null := rfl
  reads harrange command := by
    have hheld : command.toJson.held = true := by simp [toJson, heldMembers_toMembers]
    obtain ⟨body, htag, hbody⟩ := Arranged.tagged? (harrange.obj command.nodup_keys)
      (harrange.str command.name) (harrange.held hheld)
    rw [ofJson?, toJson, htag]
    exact ofBody?_of_arranged harrange command hbody

/-- Every command survives being written and read, with the members of all
objects where the encoding puts them or sorted.  Its tag is its name, and the
tag of a route is its type. -/
theorem survives (command : Command) :
    ofJson? command.toJson = some command ∧
      (∃ value, command.toJson.kept? = some value ∧ ofJson? value = some command ∧
        value.get? "command" = some (.str command.name)) ∧
      ∀ route : Route, route.toJson.get? "type" = some (.str route.tag) := by
  refine ⟨readsBack.reads .id command, ⟨command.toJson.canonical,
    readsBack.kept?_encode command, readsBack.reads .canonical command, ?_⟩, fun route => ?_⟩
  · have hget := (Arrangement.canonical.obj command.nodup_keys).get? "command"
    rwa [List.lookup_cons_self, Option.map_some, Arrangement.canonical.str] at hget
  · cases route <;> rfl

end VpnAttach.Command
