import VpnAttach.Proofs.Exclusivity

/-!
# What holds along runs

The policy of the driver is enforced when an object is created or updated, and no
other mutation undoes it: no VPN has route distinguishers, and router associations
are with layer-three VPNs, of which none has more than the policy allows.

`Fixed` is what an object keeps for life: kind and tenant of a VPN, owner, target
and tenant of an association.  `Mutation.Ends` says which deletions end an object.
Where ids are fresh, these are exactly the mutations after which it is gone.
-/

namespace VpnAttach

/-- What is fixed of an object when it is created. -/
inductive Fixed where
  | vpn (id : String) (kind : VpnKind) (tenant : String)
  | association (kind : Attachment) (id owner target tenant : String)
  deriving DecidableEq

/-- The id of the object. -/
def Fixed.id : Fixed → String
  | .vpn id _ _ | .association _ id _ _ _ => id

/-- What is fixed of a VPN. -/
def Vpn.fixed (vpn : Vpn) : Fixed :=
  .vpn vpn.id vpn.kind vpn.tenant

/-- What is fixed of an association. -/
def Association.fixed {τ : Type} (kind : Attachment) (a : Association τ) : Fixed :=
  .association kind a.id a.owner a.target a.tenant

/-- What is fixed of the stored objects of a type. -/
def Tables.fixed (t : Tables) : ObjectType → List Fixed
  | .vpn => t.vpns.map Vpn.fixed
  | .association .network => t.networks.map (Association.fixed .network)
  | .association .router => t.routers.map (Association.fixed .router)
  | .association .port => t.ports.map (Association.fixed .port)

/-- A mutation deletes an object.  An association is deleted with its VPN, too. -/
def Mutation.Ends : Mutation → Fixed → Prop
  | .deleteVpn id, .vpn vpn _ _ => vpn = id
  | .deleteVpn id, .association _ _ owner _ _ => owner = id
  | .deleteNetwork owner id, .association .network a vpn _ _ => vpn = owner ∧ a = id
  | .deleteRouter owner id, .association .router a vpn _ _ => vpn = owner ∧ a = id
  | .deletePort owner id, .association .port a vpn _ _ => vpn = owner ∧ a = id
  | _, _ => False

/-- A command deletes an object. -/
def Command.Ends : Command → Fixed → Prop
  | .mutate m, f => m.Ends f
  | _, _ => False

variable {t : Tables} {fresh : String} {m : Mutation} {staged : Staged} {f : Fixed}
  {type : ObjectType}

/-! ## What a table keeps -/

namespace Rows

variable {τ : Type} {rows : List (Association τ)} {a : Association τ} {kind : Attachment}
  {owner id : String}

theorem mem_fixed_append (h : f ∈ rows.map (Association.fixed kind)) :
    f ∈ (rows ++ [a]).map (Association.fixed kind) := by
  rw [List.map_append]
  exact List.mem_append_left _ h

theorem fixed_modify (change : τ → τ) :
    (modify owner id change rows).map (Association.fixed kind) =
      rows.map (Association.fixed kind) :=
  map_modify _ fun _ _ => rfl

theorem mem_fixed_remove (h : f ∈ rows.map (Association.fixed kind))
    (hnot : ∀ a : Association τ, f = a.fixed kind → ¬(a.owner = owner ∧ a.id = id)) :
    f ∈ (remove owner id rows).map (Association.fixed kind) := by
  obtain ⟨a, ha, rfl⟩ := List.mem_map.1 h
  have hat : ¬isAt owner id a = true := fun hat => hnot a rfl (isAt_eq_true.1 hat)
  exact List.mem_map_of_mem ((List.mem_eraseP_of_neg hat).2 ha)

theorem mem_fixed_removeOwned (h : f ∈ rows.map (Association.fixed kind))
    (hnot : ∀ a : Association τ, f = a.fixed kind → a.owner ≠ owner) :
    f ∈ (removeOwned owner rows).map (Association.fixed kind) := by
  obtain ⟨a, ha, rfl⟩ := List.mem_map.1 h
  exact List.mem_map_of_mem (List.mem_filter.2 ⟨ha, bne_iff_ne.2 (hnot a rfl)⟩)

end Rows

namespace Tables

/-- What is stored is still there if each of the tables keeps it. -/
theorem mem_fixed_of {t' : Tables} (h : f ∈ t.fixed type)
    (hvpns : f ∈ t.vpns.map Vpn.fixed → f ∈ t'.vpns.map Vpn.fixed)
    (hnetworks : f ∈ t.networks.map (Association.fixed .network) →
      f ∈ t'.networks.map (Association.fixed .network))
    (hrouters : f ∈ t.routers.map (Association.fixed .router) →
      f ∈ t'.routers.map (Association.fixed .router))
    (hports : f ∈ t.ports.map (Association.fixed .port) →
      f ∈ t'.ports.map (Association.fixed .port)) : f ∈ t'.fixed type := by
  cases type with
  | vpn => exact hvpns h
  | association kind =>
    cases kind with
    | network => exact hnetworks h
    | router => exact hrouters h
    | port => exact hports h

/-- A mutation keeps what is fixed of every object that it does not delete. -/
theorem Stages.mem_fixed (hm : t.Stages fresh m staged) (h : f ∈ t.fixed type)
    (hends : ¬m.Ends f) : f ∈ staged.committed.fixed type := by
  cases hm with
  | createVpn _ =>
    refine mem_fixed_of h (fun hf => ?_) id id id
    rw [List.map_append]
    exact List.mem_append_left _ hf
  | updateVpn _ =>
    refine mem_fixed_of h (fun hf => ?_) id id id
    rw [map_updateRow _ fun _ => rfl]
    exact hf
  | @deleteVpn id _ _ =>
    refine mem_fixed_of h (fun hf => ?_) (fun hf => ?_) (fun hf => ?_) (fun hf => ?_)
    · obtain ⟨vpn, hvpn, rfl⟩ := List.mem_map.1 hf
      exact List.mem_map_of_mem (List.mem_filter.2 ⟨hvpn, bne_iff_ne.2 hends⟩)
    · exact Rows.mem_fixed_removeOwned hf fun a ha => by subst ha; exact hends
    · exact Rows.mem_fixed_removeOwned hf fun a ha => by subst ha; exact hends
    · exact Rows.mem_fixed_removeOwned hf fun a ha => by subst ha; exact hends
  | createNetwork _ _ => exact mem_fixed_of h id Rows.mem_fixed_append id id
  | deleteNetwork _ _ =>
    refine mem_fixed_of h id (fun hf => ?_) id id
    exact Rows.mem_fixed_remove hf fun a ha => by subst ha; exact hends
  | createRouter _ _ => exact mem_fixed_of h id id Rows.mem_fixed_append id
  | updateRouter _ _ => exact mem_fixed_of h id id (Rows.fixed_modify _ ▸ id) id
  | deleteRouter _ _ =>
    refine mem_fixed_of h id id (fun hf => ?_) id
    exact Rows.mem_fixed_remove hf fun a ha => by subst ha; exact hends
  | createPort _ _ => exact mem_fixed_of h id id id Rows.mem_fixed_append
  | updatePort _ _ => exact mem_fixed_of h id id id (Rows.fixed_modify _ ▸ id)
  | deletePort _ _ =>
    refine mem_fixed_of h id id id fun hf => ?_
    exact Rows.mem_fixed_remove hf fun a ha => by subst ha; exact hends

theorem mem_fixed_cases (h : f ∈ t.fixed type) :
    (∃ vpn ∈ t.vpns, vpn.fixed = f) ∨ (∃ a ∈ t.networks, a.fixed .network = f) ∨
      (∃ a ∈ t.routers, a.fixed .router = f) ∨ ∃ a ∈ t.ports, a.fixed .port = f := by
  cases type with
  | vpn => exact Or.inl (List.mem_map.1 h)
  | association kind =>
    cases kind with
    | network => exact Or.inr (Or.inl (List.mem_map.1 h))
    | router => exact Or.inr (Or.inr (Or.inl (List.mem_map.1 h)))
    | port => exact Or.inr (Or.inr (Or.inr (List.mem_map.1 h)))

/-- What a mutation deletes is gone afterwards. -/
theorem Stages.not_mem_fixed (hm : t.Stages fresh m staged) (ht : t.Sound)
    (hends : m.Ends f) : f ∉ staged.committed.fixed type := by
  intro hf
  rcases mem_fixed_cases hf with ⟨vpn, hvpn, rfl⟩ | ⟨a, ha, rfl⟩ | ⟨a, ha, rfl⟩ | ⟨a, ha, rfl⟩
  · cases hm with
    | deleteVpn _ => exact bne_iff_ne.1 (List.mem_filter.1 hvpn).2 hends
    | _ => exact hends
  · cases hm with
    | deleteVpn _ => exact bne_iff_ne.1 (List.mem_filter.1 ha).2 hends
    | deleteNetwork _ hfind =>
      exact Rows.not_at_of_mem_remove ht.uniqueNetworks.ids hfind ha hends
    | _ => exact hends
  · cases hm with
    | deleteVpn _ => exact bne_iff_ne.1 (List.mem_filter.1 ha).2 hends
    | deleteRouter _ hfind =>
      exact Rows.not_at_of_mem_remove ht.uniqueRouters.ids hfind ha hends
    | _ => exact hends
  · cases hm with
    | deleteVpn _ => exact bne_iff_ne.1 (List.mem_filter.1 ha).2 hends
    | deletePort _ hfind =>
      exact Rows.not_at_of_mem_remove ht.uniquePorts.ids hfind ha hends
    | _ => exact hends

/-- A deletion of a stored object is worked out, and no check stands against it. -/
theorem exists_stages_of_ends (fresh : String) (ht : t.Owned) (h : f ∈ t.fixed type)
    (hends : m.Ends f) :
    ∃ staged, t.Stages fresh m staged ∧ ∀ policy topology,
      Rules.check policy topology staged.pending staged.change = .ok () := by
  have hvpn {id : String} (hid : id ∈ t.vpnIds) : ∃ staged,
      t.Stages fresh (.deleteVpn id) staged ∧ ∀ policy topology,
        Rules.check policy topology staged.pending staged.change = .ok () := by
    obtain ⟨row, hrow⟩ := exists_row?_iff.2 hid
    exact ⟨_, .deleteVpn hrow, fun _ _ => rfl⟩
  rcases mem_fixed_cases h with ⟨vpn, hmem, rfl⟩ | ⟨a, ha, rfl⟩ | ⟨a, ha, rfl⟩ | ⟨a, ha, rfl⟩
  · cases m with
    | deleteVpn id =>
      obtain rfl : vpn.id = id := hends
      exact hvpn (List.mem_map_of_mem hmem)
    | _ => exact hends.elim
  · obtain ⟨row, hrow⟩ := exists_row?_iff.2 (ht.networks a ha)
    cases m with
    | deleteVpn id =>
      obtain rfl : a.owner = id := hends
      exact hvpn (ht.networks a ha)
    | deleteNetwork owner id =>
      obtain ⟨rfl, rfl⟩ : a.owner = owner ∧ a.id = id := hends
      obtain ⟨b, hb⟩ := Rows.exists_find? ha ⟨rfl, rfl⟩
      exact ⟨_, .deleteNetwork hrow hb, fun _ _ => rfl⟩
    | _ => exact hends.elim
  · obtain ⟨row, hrow⟩ := exists_row?_iff.2 (ht.routers a ha)
    cases m with
    | deleteVpn id =>
      obtain rfl : a.owner = id := hends
      exact hvpn (ht.routers a ha)
    | deleteRouter owner id =>
      obtain ⟨rfl, rfl⟩ : a.owner = owner ∧ a.id = id := hends
      obtain ⟨b, hb⟩ := Rows.exists_find? ha ⟨rfl, rfl⟩
      exact ⟨_, .deleteRouter hrow hb, fun _ _ => rfl⟩
    | _ => exact hends.elim
  · obtain ⟨row, hrow⟩ := exists_row?_iff.2 (ht.ports a ha)
    cases m with
    | deleteVpn id =>
      obtain rfl : a.owner = id := hends
      exact hvpn (ht.ports a ha)
    | deletePort owner id =>
      obtain ⟨rfl, rfl⟩ : a.owner = owner ∧ a.id = id := hends
      obtain ⟨b, hb⟩ := Rows.exists_find? ha ⟨rfl, rfl⟩
      exact ⟨_, .deletePort hrow hb, fun _ _ => rfl⟩
    | _ => exact hends.elim

/-- Where ids are unique, an object is known by its type and its id. -/
theorem Sound.nodup_fixed (ht : t.Sound) (type : ObjectType) :
    ((t.fixed type).map (·.id)).Nodup := by
  cases type with
  | vpn =>
    rw [fixed, List.map_map]
    exact ht.ids
  | association kind =>
    cases kind with
    | network =>
      rw [fixed, List.map_map]
      exact ht.uniqueNetworks.ids
    | router =>
      rw [fixed, List.map_map]
      exact ht.uniqueRouters.ids
    | port =>
      rw [fixed, List.map_map]
      exact ht.uniquePorts.ids

/-! ## What the policy asks for -/

/-- No VPN has route distinguishers. -/
def Undistinguished (t : Tables) : Prop :=
  ∀ vpn ∈ t.vpns, vpn.routeDistinguishers = []

/-- Router associations are with layer-three VPNs. -/
def RoutersLayerThree (t : Tables) : Prop :=
  ∀ a ∈ t.routers, t.IsLayerThree a.owner

end Tables

theorem Rules.checkDistinguishers_ok {vpn : Vpn} (h : checkDistinguishers vpn = .ok ()) :
    vpn.routeDistinguishers = [] := by
  rw [checkDistinguishers] at h
  split at h
  · rename_i hempty
    exact List.isEmpty_iff.1 hempty
  · cases h

namespace Tables

variable {policy : Policy} {topology : Topology}

/-- A VPN has no route distinguishers after a mutation that passed. -/
theorem Stages.undistinguished (hm : t.Stages fresh m staged)
    (hcheck : Rules.check policy topology staged.pending staged.change = .ok ())
    (h : t.Undistinguished) : staged.committed.Undistinguished := by
  cases hm with
  | createVpn _ =>
    exact List.forall_mem_append.2
      ⟨h, List.forall_mem_singleton.2 (Rules.checkDistinguishers_ok hcheck)⟩
  | updateVpn hrow =>
    intro vpn hvpn
    rcases mem_updateRow hvpn with hold | ⟨row, hfind, rfl⟩
    · exact h vpn hold
    · obtain rfl := Option.some.inj (hrow.symm.trans hfind)
      exact Rules.checkDistinguishers_ok hcheck
  | deleteVpn _ => exact fun vpn hvpn => h vpn (List.mem_filter.1 hvpn).1
  | _ => exact h

/-- A layer-three VPN stays one until it is deleted. -/
theorem Stages.isLayerThree {id : String} (hm : t.Stages fresh m staged)
    (h : t.IsLayerThree id) (hkept : m ≠ .deleteVpn id) :
    staged.committed.IsLayerThree id := by
  obtain ⟨row, hrow, hkind⟩ := h
  cases hm with
  | createVpn _ =>
    -- A row that is there already is found before a new one with the same id.
    refine ⟨row, ?_, hkind⟩
    rw [row?, List.find?_append, ← row?, hrow, Option.some_or]
  | @updateVpn updated changes old hold =>
    by_cases hid : id = updated
    · subst hid
      obtain rfl := Option.some.inj (hrow.symm.trans hold)
      exact ⟨changes.apply row, row?_updateVpn hrow, hkind⟩
    · exact ⟨row, (find?_updateRow_of_ne hid _ _).trans hrow, hkind⟩
  | @deleteVpn deleted _ _ =>
    have hid : id ≠ deleted := fun hid => hkept (hid ▸ rfl)
    exact ⟨row, (find?_filter_of_ne hid _).trans hrow, hkind⟩
  | _ => exact ⟨row, hrow, hkind⟩

/-- Router associations are with layer-three VPNs after a mutation that passed. -/
theorem Stages.routersLayerThree (hm : t.Stages fresh m staged)
    (hcheck : Rules.check policy topology staged.pending staged.change = .ok ())
    (h : t.RoutersLayerThree) : staged.committed.RoutersLayerThree := by
  have hkept {id : String} (hid : t.IsLayerThree id) (hm' : m ≠ .deleteVpn id) :
      staged.committed.IsLayerThree id := hm.isLayerThree hid hm'
  cases hm with
  | createVpn _ => exact fun a ha => hkept (h a ha) nofun
  | updateVpn _ => exact fun a ha => hkept (h a ha) nofun
  | deleteVpn _ =>
    intro a ha
    obtain ⟨hmem, howner⟩ := List.mem_filter.1 ha
    refine hkept (h a hmem) fun hsame => bne_iff_ne.1 howner ?_
    exact (Mutation.deleteVpn.inj hsame).symm
  | createRouter _ _ =>
    intro a ha
    rcases List.mem_append.1 ha with hold | hnew
    · exact hkept (h a hold) nofun
    · obtain rfl := List.mem_singleton.1 hnew
      obtain ⟨row, hrow, hkind, -⟩ := Rules.checkRouter_ok hcheck
      exact ⟨row, hrow, hkind⟩
  | updateRouter _ _ => exact Rows.forall_owner_modify h
  | deleteRouter _ _ => exact fun a ha => h a (List.mem_of_mem_eraseP ha)
  | _ => exact h

end Tables

/-! ## Runs -/

namespace Service

variable {setup : Setup} {s : Service} {c : Command}

/-- A command keeps what is fixed of every object that it does not delete. -/
theorem mem_fixed_apply (h : f ∈ s.tables.fixed type) (hends : ¬c.Ends f) :
    f ∈ (s.apply setup c).service.tables.fixed type :=
  tables_apply (P := fun t => f ∈ t.fixed type) h fun m staged hc hstages _ =>
    hstages.mem_fixed h (by subst hc; exact hends)

/-- So does a run. -/
theorem mem_fixed_applyAll {commands : List Command} (h : f ∈ s.tables.fixed type)
    (hends : ∀ c ∈ commands, ¬c.Ends f) :
    f ∈ (applyAll setup s commands).tables.fixed type := by
  induction commands generalizing s with
  | nil => exact h
  | cons c commands ih =>
    have hfirst : f ∈ (s.apply setup c).service.tables.fixed type :=
      mem_fixed_apply h (hends c List.mem_cons_self)
    exact ih hfirst fun d hd => hends d (List.mem_cons_of_mem c hd)

/-- Where ids are unique, an object is gone exactly after it was deleted. -/
theorem mem_fixed_apply_iff (hsound : s.tables.Sound) (h : f ∈ s.tables.fixed type) :
    f ∈ (s.apply setup c).service.tables.fixed type ↔ ¬c.Ends f := by
  constructor
  · intro hf hends
    cases c with
    | mutate m =>
      -- No check stands against a deletion, so it takes effect.
      obtain ⟨staged, hstages, hcheck⟩ :=
        Tables.exists_stages_of_ends (s.freshId setup) hsound.toOwned h hends
      obtain ⟨-, htables, -⟩ := mutate_of_check_ok hstages (hcheck setup.policy s.topology)
      rw [htables] at hf
      exact hstages.not_mem_fixed hsound hends hf
    | _ => exact hends
  · exact mem_fixed_apply h

/-- Along every run the policy holds: no VPN has route distinguishers, and router
associations are with layer-three VPNs, with no more of them for each than the limit.
What is fixed of an object stays until it is deleted; and where ids are fresh, no two
objects of a type have the same id, and an object is gone exactly after it was
deleted. -/
theorem policy_applyAll (setup : Setup) (before later : List Command) :
    let s := applyAll setup {} before
    let t := s.tables
    (∀ vpn ∈ t.listVpns, vpn.routeDistinguishers = []) ∧
      (∀ a ∈ t.routers, ∃ vpn, t.getVpn a.owner = .ok vpn ∧ vpn.kind = .l3) ∧
      (∀ owner, (Rows.ownedBy owner t.routers).length ≤ setup.policy.routerLimit) ∧
      (∀ type, ∀ f ∈ t.fixed type, (∀ c ∈ later, ¬c.Ends f) →
        f ∈ (applyAll setup s later).tables.fixed type) ∧
      (FreshAlong setup {} before → ∀ type, ((t.fixed type).map (·.id)).Nodup ∧
        ∀ f ∈ t.fixed type, ∀ c,
          f ∈ (s.apply setup c).service.tables.fixed type ↔ ¬c.Ends f) := by
  intro s t
  have hundistinguished : t.Undistinguished :=
    tables_applyAll (fun _ hvpn => (List.not_mem_nil hvpn).elim)
      (fun _ _ _ hkept hstages hcheck => hstages.undistinguished hcheck hkept) before
  have hlayer : t.RoutersLayerThree :=
    tables_applyAll (fun _ ha => (List.not_mem_nil ha).elim)
      (fun _ _ _ hkept hstages hcheck => hstages.routersLayerThree hcheck hkept) before
  refine ⟨?_, ?_, ?_, ?_, ?_⟩
  · intro vpn hvpn
    obtain ⟨row, hrow, rfl⟩ := List.mem_map.1 hvpn
    exact hundistinguished row hrow
  · intro a ha
    obtain ⟨vpn, hvpn, hkind⟩ := (hlayer a ha).vpn?
    exact ⟨vpn, Tables.getVpn_eq_ok.2 hvpn, hkind⟩
  · intro owner
    have hwithin := routersWithin_applyAll setup before owner
    rwa [Rows.targetsOf, List.length_map] at hwithin
  · intro type f hf hends
    exact mem_fixed_applyAll hf hends
  · intro hfresh type
    have hsound : t.Sound := (Reachable.start.applyAll hfresh).sound
    exact ⟨hsound.nodup_fixed type, fun f hf c => mem_fixed_apply_iff hsound hf⟩

/-- A VPN and its association with a router. -/
def vpnWithRouter : List Command := [
  .mutate (.createVpn (Scenario.vpn .l3 "vpn" [])),
  .mutate (.createRouter "vpn" (Scenario.association "a" "router" {}))]

/-- Both are changed, and another VPN comes and goes. -/
def changesAround : List Command := [
  .mutate (.updateVpn "vpn" { name := some "renamed" }),
  .mutate (.updateRouter "vpn" "a" { advertiseExtraRoutes := some false }),
  .mutate (.createVpn (Scenario.vpn .l2 "other" [])),
  .mutate (.deleteVpn "other")]

theorem policy_applyAll_changesAround :
    let s := applyAll .plain {} vpnWithRouter
    let a := Fixed.association .router "a" "vpn" "router" "tenant-a"
    a ∈ s.tables.fixed (.association .router) ∧
      a ∈ (applyAll .plain s changesAround).tables.fixed (.association .router) ∧
      a ∉ (s.apply .plain (.mutate (.deleteVpn "vpn"))).service.tables.fixed
        (.association .router) := by
  intro s a
  obtain ⟨-, -, -, hkept, hexact⟩ := policy_applyAll .plain vpnWithRouter changesAround
  have ha : a ∈ s.tables.fixed (.association .router) := by decide
  have hends : ∀ c ∈ changesAround, ¬c.Ends a := by
    simp [changesAround, Command.Ends, Mutation.Ends, a]
  have hfresh : FreshAlong .plain {} vpnWithRouter := by decide
  refine ⟨ha, hkept _ a ha hends, fun hleft => ?_⟩
  exact ((hexact hfresh _).2 a ha _).1 hleft rfl

end Service
end VpnAttach
