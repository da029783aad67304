import VpnAttach.Proofs.Reach
import VpnAttach.Proofs.Service.Runs
import VpnAttach.Scenario.Samples

/-!
# Exclusivity of layer-three VPNs

A network may not be tied to two layer-three VPNs: to one by an association of
its own, and to another by an association of a router that is plugged into it.
Three checks stand guard over this, and each looks from its own side: at the
routers of a network that is associated, at the networks of a router that is
associated, and at both ends of a new interface.

Each guard is shown to pass exactly if the one association or interface that it
is about breaks nothing (`Rules.guards_checkNetwork`, `Rules.guards_checkRouter`,
`Rules.guards_checkInterface`), in the words in which the invariant changes by that
association or interface (`exclusive_append_network` and the lemmas after it).
The other commands take ties away or leave them alone.
-/

namespace VpnAttach

variable {topology : Topology} {t t' : Tables} {id : String}

/-! ## The invariant -/

namespace Tables

/-- A layer-three VPN is stored under an id. -/
def IsLayerThree (t : Tables) (id : String) : Prop :=
  ∃ row, t.row? id = some row ∧ row.kind = .l3

/-- One of `rows` ties a layer-three VPN to a target. -/
def LayerThreeOn {τ : Type} (t : Tables) (rows : List (Association τ))
    (id target : String) : Prop :=
  t.IsLayerThree id ∧ Rows.Joined rows id target

end Tables

/-- The layer-three VPN of a router and that of a network which the router is
plugged into are the same. -/
def Exclusive (topology : Topology) (t : Tables) : Prop :=
  ∀ router network, ⟨router, network⟩ ∈ topology.interfaces →
    ∀ viaRouter viaNetwork, t.LayerThreeOn t.routers viaRouter router →
      t.LayerThreeOn t.networks viaNetwork network → viaRouter = viaNetwork

/-- Taking ties and interfaces away breaks nothing. -/
theorem Exclusive.mono {topology' : Topology} (h : Exclusive topology t)
    (hinterfaces : ∀ i ∈ topology'.interfaces, i ∈ topology.interfaces)
    (hrouters : ∀ id router, t'.LayerThreeOn t'.routers id router →
      t.LayerThreeOn t.routers id router)
    (hnetworks : ∀ id network, t'.LayerThreeOn t'.networks id network →
      t.LayerThreeOn t.networks id network) : Exclusive topology' t' := by
  intro router network hplugged viaRouter viaNetwork hrouter hnetwork
  exact h router network (hinterfaces _ hplugged) viaRouter viaNetwork
    (hrouters _ _ hrouter) (hnetworks _ _ hnetwork)

/-- A new network association breaks nothing if the routers of the network are
not tied to another layer-three VPN. -/
theorem exclusive_append_network {a : NetworkAssociation} :
    Exclusive topology { t with networks := t.networks ++ [a] } ↔
      Exclusive topology t ∧ (t.IsLayerThree a.owner →
        ∀ router, ⟨router, a.target⟩ ∈ topology.interfaces →
          ∀ other, t.LayerThreeOn t.routers other router → other = a.owner) := by
  constructor
  · intro h
    refine ⟨h.mono (fun _ hi => hi) (fun _ _ hr => hr) fun id network hn => ?_,
      fun hkind router hplugged other hother => ?_⟩
    · exact ⟨hn.1, Rows.joined_append.2 (Or.inl hn.2)⟩
    · exact h router a.target hplugged other a.owner hother
        ⟨hkind, Rows.joined_append.2 (Or.inr ⟨rfl, rfl⟩)⟩
  · intro h router network hplugged viaRouter viaNetwork hrouter hnetwork
    obtain ⟨hbefore, hnew⟩ := h
    obtain ⟨hkind, hjoined⟩ := hnetwork
    rcases Rows.joined_append.1 hjoined with hold | ⟨rfl, rfl⟩
    · exact hbefore router network hplugged viaRouter viaNetwork hrouter ⟨hkind, hold⟩
    · exact hnew hkind router hplugged viaRouter hrouter

/-- A new router association breaks nothing if the networks of the router are
not tied to another layer-three VPN. -/
theorem exclusive_append_router {a : RouterAssociation} :
    Exclusive topology { t with routers := t.routers ++ [a] } ↔
      Exclusive topology t ∧ (t.IsLayerThree a.owner →
        ∀ network, ⟨a.target, network⟩ ∈ topology.interfaces →
          ∀ other, t.LayerThreeOn t.networks other network → other = a.owner) := by
  constructor
  · intro h
    refine ⟨h.mono (fun _ hi => hi) (fun id router hr => ?_) fun _ _ hn => hn,
      fun hkind network hplugged other hother => ?_⟩
    · exact ⟨hr.1, Rows.joined_append.2 (Or.inl hr.2)⟩
    · exact (h a.target network hplugged a.owner other
        ⟨hkind, Rows.joined_append.2 (Or.inr ⟨rfl, rfl⟩)⟩ hother).symm
  · intro h router network hplugged viaRouter viaNetwork hrouter hnetwork
    obtain ⟨hbefore, hnew⟩ := h
    obtain ⟨hkind, hjoined⟩ := hrouter
    rcases Rows.joined_append.1 hjoined with hold | ⟨rfl, rfl⟩
    · exact hbefore router network hplugged viaRouter viaNetwork ⟨hkind, hold⟩ hnetwork
    · exact (hnew hkind network hplugged viaNetwork hnetwork).symm

/-- A new interface breaks nothing if its two ends are not tied to different
layer-three VPNs. -/
theorem exclusive_plug {router network : String} :
    Exclusive (topology.plug router network) t ↔
      Exclusive topology t ∧ ∀ viaRouter viaNetwork,
        t.LayerThreeOn t.routers viaRouter router →
        t.LayerThreeOn t.networks viaNetwork network → viaRouter = viaNetwork := by
  constructor
  · intro h
    refine ⟨h.mono (fun i hi => ?_) (fun _ _ hr => hr) fun _ _ hn => hn,
      h router network ?_⟩
    · exact Topology.mem_interfaces_plug.2 (Or.inl hi)
    · exact Topology.mem_interfaces_plug.2 (Or.inr rfl)
  · intro h router' network' hplugged
    obtain ⟨hbefore, hnew⟩ := h
    rcases Topology.mem_interfaces_plug.1 hplugged with hold | hsame
    · exact hbefore router' network' hold
    · obtain ⟨rfl, rfl⟩ := Interface.mk.inj hsame
      exact hnew

/-! ## The guards -/

/-- A check either passes, and then `p` holds, or it reports a conflict, and then
`p` fails. -/
def Guards (check : Except Refusal Unit) (p : Prop) : Prop :=
  (check = .ok () ∧ p) ∨ ∃ cause, check = .error (.conflict cause) ∧ ¬p

namespace Guards

variable {check : Except Refusal Unit} {p q : Prop}

theorem congr (h : Guards check p) (hiff : p ↔ q) : Guards check q := by
  rcases h with ⟨hok, hp⟩ | ⟨cause, hcause, hp⟩
  · exact Or.inl ⟨hok, hiff.1 hp⟩
  · exact Or.inr ⟨cause, hcause, fun hq => hp (hiff.2 hq)⟩

theorem ok_iff (h : Guards check p) : check = .ok () ↔ p := by
  rcases h with ⟨hok, hp⟩ | ⟨cause, hcause, hp⟩
  · exact iff_of_true hok hp
  · exact iff_of_false (by rw [hcause]; exact nofun) hp

end Guards

namespace Rules

/-- The guards look for a VPN on one side that is in conflict with one on the
other. -/
theorem guards_findSome? {α : Type} {xs : List α} {owner : α → String}
    {others : α → List Vpn} {cause : α → Vpn → Conflict} :
    Guards
      (failWith (xs.findSome? fun x =>
        (otherLayerThree (owner x) (others x)).map (cause x)))
      (∀ x ∈ xs, ∀ vpn ∈ others x, vpn.kind = .l3 → vpn.id = owner x) := by
  cases hfound : xs.findSome? fun x =>
      (otherLayerThree (owner x) (others x)).map (cause x) with
  | none =>
    refine Or.inl ⟨rfl, fun x hx vpn hvpn hkind => ?_⟩
    have hnone := List.findSome?_eq_none_iff.1 hfound x hx
    rw [Option.map_eq_none_iff, otherLayerThree, List.find?_eq_none] at hnone
    simpa [hkind] using hnone vpn hvpn
  | some conflict =>
    refine Or.inr ⟨conflict, rfl, fun hall => ?_⟩
    obtain ⟨x, hx, hsome⟩ := List.exists_of_findSome?_eq_some hfound
    obtain ⟨vpn, hvpn, -⟩ := Option.map_eq_some_iff.1 hsome
    have hother := List.find?_some hvpn
    simp only [Bool.and_eq_true, beq_iff_eq, bne_iff_ne] at hother
    exact hother.2 (hall x hx vpn (List.mem_of_find?_eq_some hvpn) hother.1)

end Rules

namespace Tables

theorem isLayerThree_of_vpn? {vpn : Vpn} (hvpn : t.vpn? id = some vpn)
    (hkind : vpn.kind = .l3) : t.IsLayerThree id := by
  obtain ⟨row, hrow, rfl⟩ := Option.map_eq_some_iff.1 hvpn
  exact ⟨row, hrow, hkind⟩

theorem IsLayerThree.vpn? (h : t.IsLayerThree id) :
    ∃ vpn, t.vpn? id = some vpn ∧ vpn.kind = .l3 := by
  obtain ⟨row, hrow, hkind⟩ := h
  exact ⟨t.fill row, vpn?_of_row? hrow, hkind⟩

/-- The layer-three VPNs among those with given ids. -/
theorem forall_vpnsWithIds {ids : List String} {p : String → Prop} :
    (∀ vpn ∈ t.vpnsWithIds ids, vpn.kind = .l3 → p vpn.id) ↔
      ∀ other ∈ ids, t.IsLayerThree other → p other := by
  constructor
  · intro h other hother hlayer
    obtain ⟨vpn, hvpn, hkind⟩ := hlayer.vpn?
    obtain rfl := id_of_vpn? hvpn
    exact h vpn (mem_vpnsWithIds.2 ⟨hother, hvpn⟩) hkind
  · intro h vpn hmem hkind
    obtain ⟨hid, hvpn⟩ := mem_vpnsWithIds.1 hmem
    exact h vpn.id hid (isLayerThree_of_vpn? hvpn hkind)

/-- The layer-three VPNs among those that `rows` tie to a target. -/
theorem forall_vpnsOnTarget {τ : Type} {rows : List (Association τ)} {target : String}
    {p : String → Prop} :
    (∀ vpn ∈ t.vpnsWithIds ((Rows.onTarget target rows).map (·.owner)),
        vpn.kind = .l3 → p vpn.id) ↔
      ∀ other, t.LayerThreeOn rows other target → p other := by
  rw [forall_vpnsWithIds]
  simp only [Rows.mem_map_owner_onTarget, LayerThreeOn]
  exact forall_congr' fun other => ⟨fun h ho => h ho.2 ho.1, fun h hj hk => h ⟨hk, hj⟩⟩

theorem forall_vpnsOnRouter {router : String} {p : String → Prop} :
    (∀ vpn ∈ t.vpnsOnRouter router, vpn.kind = .l3 → p vpn.id) ↔
      ∀ other, t.LayerThreeOn t.routers other router → p other :=
  forall_vpnsOnTarget

theorem forall_vpnsOnNetwork {network : String} {p : String → Prop} :
    (∀ vpn ∈ t.vpnsOnNetwork network, vpn.kind = .l3 → p vpn.id) ↔
      ∀ other, t.LayerThreeOn t.networks other network → p other :=
  forall_vpnsOnTarget

end Tables

namespace Rules

variable {policy : Policy}

/-- The guard of network associations. -/
theorem guards_checkNetwork {a : NetworkAssociation} {row : Vpn}
    (hinternal : topology.isExternal a.target = false) (hrow : t.row? a.owner = some row) :
    Guards (checkNetwork topology t a) (t.IsLayerThree a.owner →
      ∀ router, ⟨router, a.target⟩ ∈ topology.interfaces →
        ∀ other, t.LayerThreeOn t.routers other router → other = a.owner) := by
  have hget := Tables.getVpn_eq_ok.2 (Tables.vpn?_of_row? hrow)
  have hid : (t.fill row).id = a.owner := Tables.fill_id.trans (Tables.id_of_row? hrow)
  by_cases hkind : row.kind = .l3
  · have hcheck : checkNetwork topology t a =
        failWith ((topology.routersOf a.target).findSome? fun router =>
          (otherLayerThree (t.fill row).id (t.vpnsOnRouter router)).map fun other =>
            .networkBehindRouter a.target router other.id) := by
      have hfilled : (t.fill row).kind = .l3 := hkind
      simp [checkNetwork, hinternal, hget, bind, Except.bind, hfilled]
    rw [hcheck]
    refine guards_findSome?.congr ?_
    simp only [Topology.mem_routersOf, hid,
      Tables.forall_vpnsOnRouter (p := (· = a.owner))]
    exact ⟨fun h _ => h, fun h => h ⟨row, hrow, hkind⟩⟩
  · refine Or.inl ⟨?_, fun hlayer => ?_⟩
    · have hfilled : (t.fill row).kind ≠ .l3 := hkind
      simp [checkNetwork, hinternal, hget, bind, Except.bind, hfilled]
      rfl
    · obtain ⟨row', hrow', hkind'⟩ := hlayer
      obtain rfl := Option.some.inj (hrow.symm.trans hrow')
      exact (hkind hkind').elim

/-- The guard of router associations. -/
theorem guards_checkRouter {a : RouterAssociation} {row : Vpn}
    (hrow : t.row? a.owner = some row) (hkind : row.kind = .l3)
    (hlimit : (Rows.targetsOf a.owner t.routers).length ≤ policy.routerLimit) :
    Guards (checkRouter policy topology t a) (t.IsLayerThree a.owner →
      ∀ network, ⟨a.target, network⟩ ∈ topology.interfaces →
        ∀ other, t.LayerThreeOn t.networks other network → other = a.owner) := by
  have hget := Tables.getVpn_eq_ok.2 (Tables.vpn?_of_row? hrow)
  have hid : (t.fill row).id = a.owner := Tables.fill_id.trans (Tables.id_of_row? hrow)
  have hfilled : (t.fill row).kind = .l3 := hkind
  have hwithin : ¬policy.routerLimit < (t.fill row).routers.length := by
    rw [Nat.not_lt]
    have hrouters : (t.fill row).routers = Rows.targetsOf a.owner t.routers := by
      rw [← hid]
      rfl
    rw [hrouters]
    exact hlimit
  have hcheck : checkRouter policy topology t a =
      failWith ((topology.networksOf a.target).findSome? fun network =>
        (otherLayerThree (t.fill row).id (t.vpnsOnNetwork network)).map fun other =>
          .routerOnNetwork a.target network other.id) := by
    simp [checkRouter, hget, bind, Except.bind, hfilled, hwithin]
  rw [hcheck]
  refine guards_findSome?.congr ?_
  simp only [Topology.mem_networksOf, hid,
    Tables.forall_vpnsOnNetwork (p := (· = a.owner))]
  exact ⟨fun h _ => h, fun h => h ⟨row, hrow, hkind⟩⟩

/-- The guard of interfaces. -/
theorem guards_checkInterface {router network : String} :
    Guards (checkInterface t router network) (∀ viaRouter viaNetwork,
      t.LayerThreeOn t.routers viaRouter router →
      t.LayerThreeOn t.networks viaNetwork network → viaRouter = viaNetwork) := by
  refine guards_findSome?.congr ?_
  have hnetwork (id : String) :
      (∀ vpn ∈ t.vpnsOnNetwork network, vpn.kind = .l3 → vpn.id = id) ↔
        ∀ other, t.LayerThreeOn t.networks other network → other = id :=
    Tables.forall_vpnsOnNetwork (p := (· = id))
  simp only [layerThree, List.mem_filter, beq_iff_eq, and_imp, hnetwork]
  rw [Tables.forall_vpnsOnRouter (p := fun id => ∀ other,
    t.LayerThreeOn t.networks other network → other = id)]
  exact ⟨fun h viaRouter viaNetwork hr hn => (h viaRouter hr viaNetwork hn).symm,
    fun h viaRouter hr viaNetwork hn => (h viaRouter viaNetwork hr hn).symm⟩

/-- An associated network does not face the provider. -/
theorem internal_of_checkNetwork {a : NetworkAssociation}
    (h : checkNetwork topology t a = .ok ()) : topology.isExternal a.target = false := by
  rw [checkNetwork] at h
  split at h
  · cases h
  · rename_i hinternal
    exact Bool.eq_false_iff.2 hinternal

end Rules

/-! ## Mutations -/

namespace Tables.Stages

variable {policy : Policy} {fresh : String} {m : Mutation} {staged : Staged}

/-- No mutation turns a stored VPN into a layer-three VPN. -/
theorem isLayerThree_of_committed (hm : t.Stages fresh m staged) (hstored : id ∈ t.vpnIds)
    (h : staged.committed.IsLayerThree id) : t.IsLayerThree id := by
  obtain ⟨row, hrow⟩ := exists_row?_iff.2 hstored
  obtain ⟨row', hrow', hkind⟩ := h
  cases hm with
  | createVpn _ =>
    -- A row that is there already is found before a new one with the same id.
    rw [row?, List.find?_append, ← row?, hrow, Option.some_or] at hrow'
    obtain rfl := Option.some.inj hrow'
    exact ⟨row, hrow, hkind⟩
  | @updateVpn updated changes _ _ =>
    by_cases hid : id = updated
    · subst hid
      rw [row?, find?_updateRow_self, ← row?, hrow, Option.map_some] at hrow'
      obtain rfl := Option.some.inj hrow'
      exact ⟨row, hrow, hkind⟩
    · rw [row?, find?_updateRow_of_ne hid] at hrow'
      exact ⟨row', hrow', hkind⟩
  | @deleteVpn deleted _ _ =>
    by_cases hid : id = deleted
    · subst hid
      exact (Option.some_ne_none row' (hrow'.symm.trans (find?_filter_self t.vpns))).elim
    · exact ⟨row', (find?_filter_of_ne hid t.vpns).symm.trans hrow', hkind⟩
  | _ => exact ⟨row', hrow', hkind⟩

/-- An accepted mutation keeps layer-three VPNs apart. -/
theorem exclusive (hm : t.Stages fresh m staged) (ht : t.Owned)
    (hcheck : Rules.check policy topology staged.pending staged.change = .ok ())
    (h : Exclusive topology t) : Exclusive topology staged.committed := by
  have hkept {τ : Type} {rows rows' : List (Association τ)} (hrows : Rows.Owned t.vpnIds rows)
      (hjoined : ∀ id target, Rows.Joined rows' id target → Rows.Joined rows id target)
      (id target : String) (hon : staged.committed.LayerThreeOn rows' id target) :
      t.LayerThreeOn rows id target := by
    have hbefore := hjoined id target hon.2
    obtain ⟨a, ha, rfl, -⟩ := hbefore
    exact ⟨hm.isLayerThree_of_committed (hrows a ha) hon.1, hjoined _ _ hon.2⟩
  -- Only creations tie a VPN to something: `hless` settles all other mutations.
  have hless
      (hrouters : ∀ id router, Rows.Joined staged.committed.routers id router →
        Rows.Joined t.routers id router)
      (hnetworks : ∀ id network, Rows.Joined staged.committed.networks id network →
        Rows.Joined t.networks id network) : Exclusive topology staged.committed :=
    h.mono (fun _ hi => hi) (hkept ht.routers hrouters) (hkept ht.networks hnetworks)
  cases hm with
  | deleteVpn _ =>
    exact hless (fun _ _ hj => (Rows.joined_removeOwned.1 hj).2)
      fun _ _ hj => (Rows.joined_removeOwned.1 hj).2
  | @createNetwork _ _ row a hrow ha =>
    have hrow : t.row? a.owner = some row := (owner_of_make hrow ha).1 ▸ hrow
    have hinternal := Rules.internal_of_checkNetwork hcheck
    have hguards := Rules.guards_checkNetwork (t := { t with networks := t.networks ++ [a] })
      hinternal hrow
    exact exclusive_append_network.2 ⟨h, hguards.ok_iff.1 hcheck⟩
  | deleteNetwork _ _ => exact hless (fun _ _ hj => hj) fun _ _ hj => hj.of_remove
  | createRouter _ _ =>
    obtain ⟨row, hrow, hkind, hlimit⟩ := Rules.checkRouter_ok hcheck
    have hnew := (Rules.guards_checkRouter hrow hkind hlimit).ok_iff.1 hcheck
    exact exclusive_append_router.2 ⟨h, hnew⟩
  | updateRouter _ _ =>
    exact hless (fun _ _ hj => Rows.joined_modify.1 hj) fun _ _ hj => hj
  | deleteRouter _ _ => exact hless (fun _ _ hj => hj.of_remove) fun _ _ hj => hj
  | _ => exact hless (fun _ _ hj => hj) fun _ _ hj => hj

end Tables.Stages

/-! ## Commands -/

namespace Service

variable {setup : Setup} {s : Service} {c : Command} {tables : Tables}
  {sent : List Notification}

/-- Every accepted command keeps layer-three VPNs apart. -/
theorem Accepts.exclusive (h : Accepts setup s c tables topology sent)
    (howned : s.tables.Owned) (hs : Exclusive s.topology s.tables) :
    Exclusive topology tables := by
  cases h with
  | mutate hstages hcheck => exact hstages.exclusive howned hcheck hs
  | plug hcheck _ =>
    exact exclusive_plug.2 ⟨hs, Rules.guards_checkInterface.ok_iff.1 hcheck⟩
  | unplug _ =>
    refine hs.mono (fun i hi => ?_) (fun _ _ hr => hr) fun _ _ hn => hn
    exact (Topology.mem_interfaces_unplug.1 hi).1
  | _ => exact hs

/-- A command would tie a network or a router to a VPN, or plug a router into a
network, and nothing stands against it but exclusivity.  It would lead to the
given tables and topology. -/
inductive Attempts (setup : Setup) (s : Service) : Command → Tables → Topology → Prop where
  | network {owner : String} {request : NetworkAssociationRequest} {row : Vpn}
    (hrow : s.tables.row? owner = some row)
    (hfits : Rows.Fits s.tables.networks owner request)
    (hinternal : s.topology.isExternal request.target = false) :
    Attempts setup s (.mutate (.createNetwork owner request))
      { s.tables with networks := s.tables.networks ++
          [⟨request.id.getD (s.freshId setup), owner, request.target,
            request.tenant.getD row.tenant, request.terms⟩] }
      s.topology
  | router {owner : String} {request : RouterAssociationRequest} {row : Vpn}
    (hrow : s.tables.row? owner = some row)
    (hfits : Rows.Fits s.tables.routers owner request)
    (hkind : row.kind = .l3)
    (hlimit : (Rows.targetsOf owner s.tables.routers).length < setup.policy.routerLimit) :
    Attempts setup s (.mutate (.createRouter owner request))
      { s.tables with routers := s.tables.routers ++
          [⟨request.id.getD (s.freshId setup), owner, request.target,
            request.tenant.getD row.tenant, request.terms⟩] }
      s.topology
  | interface (router network : String) :
    Attempts setup s (.addInterface router network) s.tables
      (s.topology.plug router network)

/-- How an attempt ends: it succeeds and breaks nothing, or it would break
something and is in conflict. -/
def Decided (setup : Setup) (s : Service) (c : Command) (tables : Tables)
    (topology : Topology) : Prop :=
  (Exclusive topology tables ∧ (s.apply setup c).answer.isOk = true ∧
      (s.apply setup c).service.tables = tables ∧
      (s.apply setup c).service.topology = topology) ∨
    (¬Exclusive topology tables ∧
      ∃ cause, (s.apply setup c).answer = .error (.conflict cause))

/-- A mutation is decided by the guard that checks it. -/
theorem decided_of_guards {m : Mutation} {staged : Staged}
    (hstages : s.tables.Stages (s.freshId setup) m staged)
    (hguards : Guards (Rules.check setup.policy s.topology staged.pending staged.change)
      (Exclusive s.topology staged.committed)) :
    s.Decided setup (.mutate m) staged.committed s.topology := by
  rcases hguards with ⟨hok, hexclusive⟩ | ⟨cause, herror, hbroken⟩
  · obtain ⟨hanswer, htables, htopology⟩ := mutate_of_check_ok hstages hok
    exact Or.inl ⟨hexclusive, by rw [hanswer]; rfl, htables, htopology⟩
  · exact Or.inr ⟨hbroken, cause, mutate_of_check_error hstages herror⟩

/-- Plugging a router is decided by the guard of interfaces. -/
theorem decided_addInterface {router network : String}
    (hguards : Guards (Rules.checkInterface s.tables router network)
      (Exclusive (s.topology.plug router network) s.tables)) :
    s.Decided setup (.addInterface router network) s.tables
      (s.topology.plug router network) := by
  rcases hguards with ⟨hok, hexclusive⟩ | ⟨cause, herror, hbroken⟩
  · refine Or.inl ⟨hexclusive, ?_⟩
    cases hplugged : s.topology.isPlugged router network with
    | true =>
      have hsame : s.topology.plug router network = s.topology := by
        rw [Topology.plug, if_pos hplugged]
      rw [hsame, apply, addInterface_of_plugged hok hplugged]
      exact ⟨rfl, rfl, rfl⟩
    | false =>
      rw [apply, addInterface_of_unplugged hok hplugged, (noted_eq _).1, (noted_eq _).2]
      exact ⟨rfl, rfl, rfl⟩
  · refine Or.inr ⟨hbroken, cause, ?_⟩
    rw [apply, addInterface_of_vetoed herror]

/-- Every attempt is decided by whether it would break something. -/
theorem Attempts.decided (h : Attempts setup s c tables topology)
    (hs : Exclusive s.topology s.tables) : s.Decided setup c tables topology := by
  cases h with
  | @network owner request row hrow hfits hinternal =>
    obtain rfl := Tables.id_of_row? hrow
    have hmake := Rows.make_of_fits .network (s.freshId setup) hfits
    refine decided_of_guards (.createNetwork hrow hmake) ?_
    refine (Rules.guards_checkNetwork hinternal hrow).congr ?_
    rw [exclusive_append_network]
    exact ⟨fun hnew => ⟨hs, hnew⟩, And.right⟩
  | @router owner request row hrow hfits hkind hlimit =>
    obtain rfl := Tables.id_of_row? hrow
    have hmake := Rows.make_of_fits .router (s.freshId setup) hfits
    refine decided_of_guards (.createRouter hrow hmake) ?_
    refine (Rules.guards_checkRouter hrow hkind ?_).congr ?_
    · simp only [Rows.targetsOf, Rows.ownedBy, List.filter_append, List.map_append,
        List.length_append] at hlimit ⊢
      simpa using Nat.succ_le_of_lt hlimit
    · rw [exclusive_append_router]
      exact ⟨fun hnew => ⟨hs, hnew⟩, And.right⟩
  | interface router network =>
    refine decided_addInterface (Rules.guards_checkInterface.congr ?_)
    rw [exclusive_plug]
    exact ⟨fun hnew => ⟨hs, hnew⟩, And.right⟩

/-! ## Runs -/

/-- No run ties a network to two layer-three VPNs. -/
theorem ownedExclusive_applyAll (setup : Setup) (commands : List Command) :
    let s := applyAll setup {} commands
    s.tables.Owned ∧ Exclusive s.topology s.tables := by
  refine state_applyAll (P := fun t topology => t.Owned ∧ Exclusive topology t)
    ⟨Tables.sound_empty.toOwned,
      fun _ _ hplugged => (List.not_mem_nil hplugged).elim⟩ ?_ commands
  intro s c tables topology sent h haccepts
  obtain ⟨howned, hexclusive⟩ := h
  exact ⟨haccepts.owned howned, haccepts.exclusive howned hexclusive⟩

/-- After every run layer-three VPNs are apart.  A command that would tie or plug
something, and against which nothing else stands, is in conflict exactly if it
would break this, and otherwise it is carried out. -/
theorem exclusive_applyAll (setup : Setup) (commands : List Command) :
    let s := applyAll setup {} commands
    Exclusive s.topology s.tables ∧
      ∀ c tables topology, s.Attempts setup c tables topology →
        ((∃ cause, (s.apply setup c).answer = .error (.conflict cause)) ↔
          ¬Exclusive topology tables) ∧
        ((s.apply setup c).answer.isOk = true ↔ Exclusive topology tables) ∧
        ((s.apply setup c).answer.isOk = true →
          (s.apply setup c).service.tables = tables ∧
          (s.apply setup c).service.topology = topology) := by
  have hexclusive := (ownedExclusive_applyAll setup commands).2
  refine ⟨hexclusive, fun c tables topology hattempts => ?_⟩
  rcases hattempts.decided hexclusive with ⟨hkept, hok, hstate⟩ | ⟨hbroken, cause, hcause⟩
  · refine ⟨iff_of_false ?_ (not_not.2 hkept), iff_of_true hok hkept, fun _ => hstate⟩
    intro hconflict
    obtain ⟨_, hcause⟩ := hconflict
    rw [hcause] at hok
    cases hok
  · have hnotOk : ¬((applyAll setup {} commands).apply setup c).answer.isOk = true := by
      rw [hcause]
      exact nofun
    exact ⟨iff_of_true ⟨cause, hcause⟩ hbroken, iff_of_false hnotOk hbroken,
      fun hok => (hnotOk hok).elim⟩

/-- Two layer-three VPNs, one behind a router and one on a network, and a third
without associations. -/
def routerAndNetwork : List Command := [
  .mutate (.createVpn (Scenario.vpn .l3 "v1" [])),
  .mutate (.createVpn (Scenario.vpn .l3 "v2" [])),
  .mutate (.createVpn (Scenario.vpn .l3 "v3" [])),
  .addInterface "r1" "n1",
  .addInterface "r2" "n2",
  .mutate (.createRouter "v1" (Scenario.association "a1" "r1" {})),
  .mutate (.createNetwork "v2" (Scenario.association "a2" "n2" ()))]

/-- Here each of the three guards has something to refuse. -/
theorem exclusive_applyAll_routerAndNetwork :
    let s := applyAll .plain {} routerAndNetwork
    Exclusive s.topology s.tables ∧
      ¬Exclusive (s.topology.plug "r1" "n2") s.tables ∧
      (∃ tables, s.Attempts .plain
          (.mutate (.createNetwork "v3" (Scenario.association "a3" "n1" ())))
          tables s.topology ∧ ¬Exclusive s.topology tables) ∧
      ∃ tables, s.Attempts .plain
          (.mutate (.createRouter "v3" (Scenario.association "a3" "r2" {})))
          tables s.topology ∧ ¬Exclusive s.topology tables := by
  intro s
  obtain ⟨hexclusive, hguards⟩ := exclusive_applyAll .plain routerAndNetwork
  have hplug : s.Attempts .plain (.addInterface "r1" "n2") _ _ := .interface "r1" "n2"
  have hnetwork : s.Attempts .plain
      (.mutate (.createNetwork "v3" (Scenario.association "a3" "n1" ()))) _ _ :=
    .network rfl (by decide) rfl
  have hrouter : s.Attempts .plain
      (.mutate (.createRouter "v3" (Scenario.association "a3" "r2" {}))) _ _ :=
    .router rfl (by decide) rfl (by decide)
  exact ⟨hexclusive, (hguards _ _ _ hplug).1.1 ⟨_, rfl⟩,
    ⟨_, hnetwork, (hguards _ _ _ hnetwork).1.1 ⟨_, rfl⟩⟩,
    ⟨_, hrouter, (hguards _ _ _ hrouter).1.1 ⟨_, rfl⟩⟩⟩

end Service
end VpnAttach
