import VpnAttach.Proofs.Tables.Lookup
import VpnAttach.Tables.Mutation

/-!
# What a mutation stages

`Tables.Stages` lists, mutation by mutation, what has to be there for a
mutation to be worked out and what comes of it.  `stages_of_stage` says that
the list is complete; everything about a mutation of the tables is proved by
cases on it.
-/

namespace VpnAttach

/-- A sequence of two steps succeeds if both do. -/
theorem bind_eq_ok {α β : Type} {x : Except Refusal α} {f : α → Except Refusal β}
    {b : β} : x >>= f = .ok b ↔ ∃ a, x = .ok a ∧ f a = .ok b := by
  cases x with
  | error refusal => simp [bind, Except.bind]
  | ok a => simp [bind, Except.bind]

theorem pure_eq_ok {α : Type} {a b : α} :
    (pure a : Except Refusal α) = .ok b ↔ a = b := by
  simp [pure, Except.pure]

theorem Rows.find_eq_ok {τ : Type} {kind : Attachment} {owner id : String}
    {rows : List (Association τ)} {a : Association τ} :
    Rows.find kind owner id rows = .ok a ↔ rows.find? (Rows.isAt owner id) = some a := by
  rw [Rows.find]
  cases rows.find? (Rows.isAt owner id) <;> simp

namespace Tables

variable {t : Tables} {fresh : String} {staged : Staged}

/-- A router association is read through a stored VPN. -/
theorem getRouter_eq_ok {owner id : String} {a : RouterAssociation} :
    t.getRouter owner id = .ok a ↔
      (∃ row, t.row? owner = some row) ∧ t.routers.find? (Rows.isAt owner id) = some a := by
  simp only [getRouter, bind_eq_ok, row_eq_ok, Rows.find_eq_ok, exists_and_right]

/-- A port association is read through a stored VPN. -/
theorem getPort_eq_ok {owner id : String} {a : PortAssociation} :
    t.getPort owner id = .ok a ↔
      (∃ row, t.row? owner = some row) ∧ t.ports.find? (Rows.isAt owner id) = some a := by
  simp only [getPort, bind_eq_ok, row_eq_ok, Rows.find_eq_ok, exists_and_right]

/-- The tables without a VPN and everything it owns. -/
def without (t : Tables) (id : String) : Tables where
  vpns := t.vpns.filter (·.id != id)
  networks := Rows.removeOwned id t.networks
  routers := Rows.removeOwned id t.routers
  ports := Rows.removeOwned id t.ports

section Without

variable {id : String}

@[simp] theorem without_networks :
    (t.without id).networks = Rows.removeOwned id t.networks := rfl

@[simp] theorem without_routers :
    (t.without id).routers = Rows.removeOwned id t.routers := rfl

@[simp] theorem without_ports :
    (t.without id).ports = Rows.removeOwned id t.ports := rfl

theorem row?_without {other : String} (h : other ≠ id) : (t.without id).row? other = t.row? other :=
  find?_filter_of_ne h t.vpns

end Without

/-- A mutation is worked out to a staged change. -/
inductive Stages (t : Tables) (fresh : String) : Mutation → Staged → Prop where
  | createVpn {request : VpnRequest} {id : String}
    (hid : Rows.chooseId t.vpnIds "bgpvpn" fresh request.id = .ok id) :
    Stages t fresh (.createVpn request)
      ⟨.vpnCreated (request.toVpn id),
        { t with vpns := t.vpns ++ [request.toVpn id] },
        { t with vpns := t.vpns ++ [request.toVpn id] }⟩
  | updateVpn {id : String} {changes : VpnUpdate} {row : Vpn}
    (hrow : t.row? id = some row) :
    Stages t fresh (.updateVpn id changes)
      ⟨.vpnUpdated (t.fill row) (t.fill (changes.apply row)),
        { t with vpns := updateRow id changes t.vpns },
        { t with vpns := updateRow id changes t.vpns }⟩
  | deleteVpn {id : String} {row : Vpn} (hrow : t.row? id = some row) :
    Stages t fresh (.deleteVpn id)
      ⟨.vpnDeleted (t.fill row), t, t.without id⟩
  | createNetwork {owner : String} {request : NetworkAssociationRequest} {row : Vpn}
    {a : NetworkAssociation} (hrow : t.row? owner = some row)
    (ha : Rows.make .network row fresh request t.networks = .ok a) :
    Stages t fresh (.createNetwork owner request)
      ⟨.networkCreated a, { t with networks := t.networks ++ [a] },
        { t with networks := t.networks ++ [a] }⟩
  | deleteNetwork {owner id : String} {row : Vpn} {a : NetworkAssociation}
    (hrow : t.row? owner = some row)
    (ha : t.networks.find? (Rows.isAt owner id) = some a) :
    Stages t fresh (.deleteNetwork owner id)
      ⟨.networkDeleted a, t, { t with networks := Rows.remove owner id t.networks }⟩
  | createRouter {owner : String} {request : RouterAssociationRequest} {row : Vpn}
    {a : RouterAssociation} (hrow : t.row? owner = some row)
    (ha : Rows.make .router row fresh request t.routers = .ok a) :
    Stages t fresh (.createRouter owner request)
      ⟨.routerCreated a, { t with routers := t.routers ++ [a] },
        { t with routers := t.routers ++ [a] }⟩
  | updateRouter {owner id : String} {changes : RouterTermsUpdate} {row : Vpn}
    {a : RouterAssociation} (hrow : t.row? owner = some row)
    (ha : t.routers.find? (Rows.isAt owner id) = some a) :
    Stages t fresh (.updateRouter owner id changes)
      ⟨.routerUpdated a { a with terms := changes.apply a.terms },
        { t with routers := Rows.modify owner id changes.apply t.routers },
        { t with routers := Rows.modify owner id changes.apply t.routers }⟩
  | deleteRouter {owner id : String} {row : Vpn} {a : RouterAssociation}
    (hrow : t.row? owner = some row)
    (ha : t.routers.find? (Rows.isAt owner id) = some a) :
    Stages t fresh (.deleteRouter owner id)
      ⟨.routerDeleted a, t, { t with routers := Rows.remove owner id t.routers }⟩
  | createPort {owner : String} {request : PortAssociationRequest} {row : Vpn}
    {a : PortAssociation} (hrow : t.row? owner = some row)
    (ha : Rows.make .port row fresh request t.ports = .ok a) :
    Stages t fresh (.createPort owner request)
      ⟨.portCreated a, { t with ports := t.ports ++ [a] },
        { t with ports := t.ports ++ [a] }⟩
  | updatePort {owner id : String} {changes : PortTermsUpdate} {row : Vpn}
    {a : PortAssociation} (hrow : t.row? owner = some row)
    (ha : t.ports.find? (Rows.isAt owner id) = some a) :
    Stages t fresh (.updatePort owner id changes)
      ⟨.portUpdated a { a with terms := changes.apply a.terms },
        { t with ports := Rows.modify owner id changes.apply t.ports },
        { t with ports := Rows.modify owner id changes.apply t.ports }⟩
  | deletePort {owner id : String} {row : Vpn} {a : PortAssociation}
    (hrow : t.row? owner = some row)
    (ha : t.ports.find? (Rows.isAt owner id) = some a) :
    Stages t fresh (.deletePort owner id)
      ⟨.portDeleted a, t, { t with ports := Rows.remove owner id t.ports }⟩

/-- Whatever is staged is in the list. -/
theorem stages_of_stage {m : Mutation} (h : t.stage fresh m = .ok staged) :
    t.Stages fresh m staged := by
  cases m with
  | createVpn request =>
    simp only [stage, Tables.createVpn, bind_eq_ok, pure_eq_ok] at h
    obtain ⟨_, ⟨id, hid, rfl⟩, rfl⟩ := h
    exact .createVpn hid
  | updateVpn id changes =>
    simp only [stage, Tables.updateVpn, bind_eq_ok, pure_eq_ok, getVpn_eq_ok,
      row_eq_ok] at h
    obtain ⟨_, hold, _, ⟨row, hrow, rfl⟩, rfl⟩ := h
    obtain rfl := Option.some.inj ((vpn?_of_row? hrow).symm.trans hold)
    exact .updateVpn hrow
  | deleteVpn id =>
    simp only [stage, Tables.deleteVpn, bind_eq_ok, pure_eq_ok, getVpn_eq_ok] at h
    obtain ⟨_, ⟨vpn, hvpn, rfl⟩, rfl⟩ := h
    obtain ⟨row, hrow, rfl⟩ := Option.map_eq_some_iff.1 hvpn
    exact .deleteVpn hrow
  | createNetwork owner request =>
    simp only [stage, Tables.createNetwork, bind_eq_ok, pure_eq_ok, row_eq_ok] at h
    obtain ⟨_, ⟨row, hrow, a, ha, rfl⟩, rfl⟩ := h
    exact .createNetwork hrow ha
  | deleteNetwork owner id =>
    simp only [stage, Tables.deleteNetwork, getNetwork, bind_eq_ok, pure_eq_ok,
      row_eq_ok, Rows.find_eq_ok] at h
    obtain ⟨_, ⟨a, ⟨row, hrow, ha⟩, rfl⟩, rfl⟩ := h
    exact .deleteNetwork hrow ha
  | createRouter owner request =>
    simp only [stage, Tables.createRouter, bind_eq_ok, pure_eq_ok, row_eq_ok] at h
    obtain ⟨_, ⟨row, hrow, a, ha, rfl⟩, rfl⟩ := h
    exact .createRouter hrow ha
  | updateRouter owner id changes =>
    simp only [stage, Tables.updateRouter, getRouter, bind_eq_ok, pure_eq_ok,
      row_eq_ok, Rows.find_eq_ok] at h
    obtain ⟨old, ⟨_, _, hold⟩, _, ⟨a, ⟨row, hrow, ha⟩, rfl⟩, rfl⟩ := h
    obtain rfl := Option.some.inj (ha.symm.trans hold)
    exact .updateRouter hrow ha
  | deleteRouter owner id =>
    simp only [stage, Tables.deleteRouter, getRouter, bind_eq_ok, pure_eq_ok,
      row_eq_ok, Rows.find_eq_ok] at h
    obtain ⟨_, ⟨a, ⟨row, hrow, ha⟩, rfl⟩, rfl⟩ := h
    exact .deleteRouter hrow ha
  | createPort owner request =>
    simp only [stage, Tables.createPort, bind_eq_ok, pure_eq_ok, row_eq_ok] at h
    obtain ⟨_, ⟨row, hrow, a, ha, rfl⟩, rfl⟩ := h
    exact .createPort hrow ha
  | updatePort owner id changes =>
    simp only [stage, Tables.updatePort, getPort, bind_eq_ok, pure_eq_ok,
      row_eq_ok, Rows.find_eq_ok] at h
    obtain ⟨old, ⟨_, _, hold⟩, _, ⟨a, ⟨row, hrow, ha⟩, rfl⟩, rfl⟩ := h
    obtain rfl := Option.some.inj (ha.symm.trans hold)
    exact .updatePort hrow ha
  | deletePort owner id =>
    simp only [stage, Tables.deletePort, getPort, bind_eq_ok, pure_eq_ok,
      row_eq_ok, Rows.find_eq_ok] at h
    obtain ⟨_, ⟨a, ⟨row, hrow, ha⟩, rfl⟩, rfl⟩ := h
    exact .deletePort hrow ha

/-- Whatever is in the list is staged. -/
theorem Stages.stage_eq {m : Mutation} (h : t.Stages fresh m staged) :
    t.stage fresh m = .ok staged := by
  cases h with
  | createVpn hid =>
    simp only [stage, Tables.createVpn, bind_eq_ok, pure_eq_ok]
    exact ⟨_, ⟨_, hid, rfl⟩, rfl⟩
  | updateVpn hrow =>
    simp only [stage, Tables.updateVpn, bind_eq_ok, pure_eq_ok, getVpn_eq_ok, row_eq_ok]
    exact ⟨_, vpn?_of_row? hrow, _, ⟨_, hrow, rfl⟩, rfl⟩
  | deleteVpn hrow =>
    simp only [stage, Tables.deleteVpn, bind_eq_ok, pure_eq_ok, getVpn_eq_ok]
    exact ⟨_, ⟨_, vpn?_of_row? hrow, rfl⟩, rfl⟩
  | createNetwork hrow ha =>
    simp only [stage, Tables.createNetwork, bind_eq_ok, pure_eq_ok, row_eq_ok]
    exact ⟨_, ⟨_, hrow, _, ha, rfl⟩, rfl⟩
  | deleteNetwork hrow ha =>
    simp only [stage, Tables.deleteNetwork, getNetwork, bind_eq_ok, pure_eq_ok,
      row_eq_ok, Rows.find_eq_ok]
    exact ⟨_, ⟨_, ⟨_, hrow, ha⟩, rfl⟩, rfl⟩
  | createRouter hrow ha =>
    simp only [stage, Tables.createRouter, bind_eq_ok, pure_eq_ok, row_eq_ok]
    exact ⟨_, ⟨_, hrow, _, ha, rfl⟩, rfl⟩
  | updateRouter hrow ha =>
    simp only [stage, Tables.updateRouter, getRouter, bind_eq_ok, pure_eq_ok,
      row_eq_ok, Rows.find_eq_ok]
    exact ⟨_, ⟨_, hrow, ha⟩, _, ⟨_, ⟨_, hrow, ha⟩, rfl⟩, rfl⟩
  | deleteRouter hrow ha =>
    simp only [stage, Tables.deleteRouter, getRouter, bind_eq_ok, pure_eq_ok,
      row_eq_ok, Rows.find_eq_ok]
    exact ⟨_, ⟨_, ⟨_, hrow, ha⟩, rfl⟩, rfl⟩
  | createPort hrow ha =>
    simp only [stage, Tables.createPort, bind_eq_ok, pure_eq_ok, row_eq_ok]
    exact ⟨_, ⟨_, hrow, _, ha, rfl⟩, rfl⟩
  | updatePort hrow ha =>
    simp only [stage, Tables.updatePort, getPort, bind_eq_ok, pure_eq_ok,
      row_eq_ok, Rows.find_eq_ok]
    exact ⟨_, ⟨_, hrow, ha⟩, _, ⟨_, ⟨_, hrow, ha⟩, rfl⟩, rfl⟩
  | deletePort hrow ha =>
    simp only [stage, Tables.deletePort, getPort, bind_eq_ok, pure_eq_ok,
      row_eq_ok, Rows.find_eq_ok]
    exact ⟨_, ⟨_, ⟨_, hrow, ha⟩, rfl⟩, rfl⟩

end Tables
end VpnAttach
