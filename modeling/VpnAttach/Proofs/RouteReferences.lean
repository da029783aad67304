import Mathlib.Data.List.Induction
import VpnAttach.Proofs.Payload
import VpnAttach.Proofs.Service.Runs
import VpnAttach.Scenario.Samples

/-!
# References of routes

A route of a port association may refer to another VPN, whose routes it hands
on.  Such a route is checked when the association is made or changed: the VPN
has to be stored, and it has to be of the kind and tenant of the association's
owner.

As long as this holds, no payload hands on a route of another tenant.  It is
lost when a VPN is deleted to which an association of another VPN refers: the
association stays, and its route dangles until some VPN, of whatever tenant,
is created under the same id.  The main result says that nothing else breaks a
reference.
-/

namespace VpnAttach

variable {t t' : Tables} {a : PortAssociation} {id : String}

namespace Tables

/-- The routes of an association are valid. -/
def Backs (t : Tables) (a : PortAssociation) : Prop :=
  ∃ owner, t.row? a.owner = some owner ∧ ∀ route ∈ a.terms.routes, route.Valid t owner

/-- The routes of every port association are valid. -/
def RoutesValid (t : Tables) : Prop :=
  ∀ a ∈ t.ports, t.Backs a

/-- Every VPN is still stored, with its kind and tenant. -/
def Keeps (t t' : Tables) : Prop :=
  ∀ id row, t.row? id = some row →
    ∃ row', t'.row? id = some row' ∧ row'.kind = row.kind ∧ row'.tenant = row.tenant

theorem Keeps.of_vpns (h : t'.vpns = t.vpns) : t.Keeps t' := by
  intro id row hrow
  refine ⟨row, ?_, rfl, rfl⟩
  rw [row?, h]
  exact hrow

theorem Keeps.createVpn (vpn : Vpn) : t.Keeps { t with vpns := t.vpns ++ [vpn] } := by
  intro id row hrow
  refine ⟨row, ?_, rfl, rfl⟩
  rw [row?] at hrow ⊢
  rw [List.find?_append, hrow, Option.some_or]

theorem Keeps.updateVpn (updated : String) (changes : VpnUpdate) :
    t.Keeps { t with vpns := updateRow updated changes t.vpns } := by
  intro id row hrow
  by_cases hid : id = updated
  · subst hid
    refine ⟨changes.apply row, ?_, rfl, rfl⟩
    rw [row?] at hrow ⊢
    rw [find?_updateRow_self, hrow, Option.map_some]
  · refine ⟨row, ?_, rfl, rfl⟩
    rw [row?] at hrow ⊢
    rw [find?_updateRow_of_ne hid, hrow]

/-- Valid routes stay valid while VPNs are kept. -/
theorem Backs.mono (h : t.Backs a) (hkeeps : t.Keeps t') : t'.Backs a := by
  obtain ⟨owner, howner, hvalid⟩ := h
  obtain ⟨owner', howner', hkind, htenant⟩ := hkeeps a.owner owner howner
  refine ⟨owner', howner', fun route hroute => ?_⟩
  have hroute := hvalid route hroute
  cases route with
  | static pfx pref => exact trivial
  | leak id pref =>
    obtain ⟨vpn, hvpn, hsameKind, hsameTenant⟩ := hroute
    obtain ⟨vpn', hvpn', hkind', htenant'⟩ := hkeeps id vpn hvpn
    exact ⟨vpn', hvpn', (hkind'.trans hsameKind).trans hkind.symm,
      (htenant'.trans hsameTenant).trans htenant.symm⟩

end Tables

/-! ## Mutations -/

/-- A mutation deletes a VPN to which an association of another VPN refers. -/
def Mutation.Strands (t : Tables) : Mutation → Prop
  | .deleteVpn id =>
    ∃ a ∈ t.ports, a.owner ≠ id ∧ ∃ pref, Route.leak id pref ∈ a.terms.routes
  | _ => False

namespace Tables

/-- A VPN can go if no association of another VPN refers to it, and only then. -/
theorem routesValid_without_iff (h : t.RoutesValid) :
    (t.without id).RoutesValid ↔ ¬(Mutation.deleteVpn id).Strands t := by
  constructor
  · intro hvalid hstrands
    obtain ⟨a, ha, hne, pref, hroute⟩ := hstrands
    obtain ⟨_, -, hroutes⟩ := hvalid a (List.mem_filter.2 ⟨ha, by simpa using hne⟩)
    obtain ⟨vpn, hvpn, -⟩ := hroutes _ hroute
    exact Option.some_ne_none vpn (hvpn.symm.trans (find?_filter_self t.vpns))
  · intro hstrands a ha
    obtain ⟨hstored, hne⟩ := List.mem_filter.1 ha
    have hne : a.owner ≠ id := by simpa using hne
    obtain ⟨owner, howner, hroutes⟩ := h a hstored
    refine ⟨owner, (row?_without hne).trans howner, fun route hroute => ?_⟩
    have hvalid := hroutes route hroute
    cases route with
    | static pfx pref => exact trivial
    | leak other pref =>
      have hother : other ≠ id := by
        intro hsame
        obtain rfl := hsame
        exact hstrands ⟨a, hstored, hne, pref, hroute⟩
      obtain ⟨vpn, hvpn, hsame⟩ := hvalid
      exact ⟨vpn, (row?_without hother).trans hvpn, hsame⟩

/-- An accepted mutation keeps the routes valid unless it strands one. -/
theorem Stages.routesValid_iff {policy : Policy} {topology : Topology} {fresh : String}
    {m : Mutation} {staged : Staged} (hm : t.Stages fresh m staged)
    (hcheck : Rules.check policy topology staged.pending staged.change = .ok ())
    (h : t.RoutesValid) : staged.committed.RoutesValid ↔ ¬m.Strands t := by
  have hkept (hkeeps : t.Keeps staged.committed)
      (hports : ∀ a ∈ staged.committed.ports, a ∈ t.ports ∨ staged.committed.Backs a) :
      staged.committed.RoutesValid := by
    intro a ha
    rcases hports a ha with hold | hnew
    · exact (h a hold).mono hkeeps
    · exact hnew
  cases hm with
  | deleteVpn _ => exact routesValid_without_iff h
  | createVpn _ =>
    exact iff_of_true (hkept (.createVpn _) fun _ => Or.inl) not_false
  | updateVpn _ =>
    exact iff_of_true (hkept (.updateVpn _ _) fun _ => Or.inl) not_false
  | createPort _ _ =>
    refine iff_of_true (hkept (.of_vpns rfl) fun b hb => ?_) not_false
    rcases List.mem_append.1 hb with hb | hb
    · exact Or.inl hb
    · obtain rfl := List.mem_singleton.1 hb
      exact Or.inr (Rules.checkRoutes_ok (Rules.checkPort_ok hcheck).2)
  | updatePort _ ha =>
    refine iff_of_true (hkept (.of_vpns rfl) fun b hb => ?_) not_false
    obtain ⟨before, after, hrows, hmodify⟩ := Rows.modify_split ha
    have hb : b ∈ Rows.modify _ _ _ t.ports := hb
    rw [hmodify, List.mem_append, List.mem_cons] at hb
    rcases hb with hb | rfl | hb
    · exact Or.inl (by rw [hrows]; exact List.mem_append_left _ hb)
    · exact Or.inr (Rules.checkRoutes_ok hcheck)
    · exact Or.inl (by
        rw [hrows]
        exact List.mem_append_right _ (List.mem_cons_of_mem _ hb))
  | deletePort _ _ =>
    refine iff_of_true (hkept (.of_vpns rfl) fun b hb => ?_) not_false
    exact Or.inl (List.mem_of_mem_eraseP hb)
  | _ => exact iff_of_true (hkept (.of_vpns rfl) fun _ => Or.inl) not_false

end Tables

/-! ## Payloads -/

/-- A target is one from which a VPN of the kind and tenant of `owner` takes
routes. -/
def Tables.OffersWithin (t : Tables) (owner : Vpn) (target : String) : Prop :=
  ∃ source, t.row? source.id = some source ∧ source.kind = owner.kind ∧
    source.tenant = owner.tenant ∧ target ∈ (TargetLists.ofVpn source).imports

/-- While all routes are valid, what is handed on at a port stays within the
kind and tenant of the owner of one of its associations. -/
theorem Tables.RoutesValid.sources_within {policy : Policy} {topology : Topology}
    {port : Port} {vpns : List Vpn} {readvertise : Readvertise} {target : String}
    (h : t.RoutesValid)
    (hpayload : (Rules.attachPayload policy topology t port vpns).readvertise =
      some readvertise)
    (htarget : target ∈ readvertise.sources) :
    ∃ a ∈ t.associationsOnPort port.id, ∃ owner,
      t.row? a.owner = some owner ∧ t.OffersWithin owner target := by
  simp only [Rules.attachPayload, PortPayload.attach] at hpayload
  split at hpayload
  · cases hpayload
  · obtain rfl := Option.some.inj hpayload
    simp only [PortPayload.readvertiseOf, List.mem_flatMap, Route.mem_sources] at htarget
    obtain ⟨a, ha, _, hroute, id, pref, vpn, rfl, hvpn, -, himport⟩ := htarget
    obtain ⟨owner, howner, hroutes⟩ := h a (List.mem_filter.1 ha).1
    obtain ⟨source, hsource, hkind, htenant⟩ := hroutes _ hroute
    rw [vpn?, hsource, Option.map_some, Option.some.injEq] at hvpn
    subst hvpn
    have hid : source.id = id := id_of_row? hsource
    exact ⟨a, ha, owner, howner, source, hid ▸ hsource, hkind, htenant, himport⟩

/-! ## Runs -/

namespace Service

variable {setup : Setup} {s : Service} {c : Command}

/-- A command deletes a VPN to which an association of another VPN refers. -/
def Strands (s : Service) (c : Command) : Prop :=
  ∃ m, c = .mutate m ∧ m.Strands s.tables

/-- A stored VPN can always be deleted. -/
theorem tables_deleteVpn {row : Vpn} (hrow : s.tables.row? id = some row) :
    (s.apply setup (.mutate (.deleteVpn id))).service.tables = s.tables.without id := by
  have hstage : s.tables.stage (s.freshId setup) (.deleteVpn id) =
      .ok ⟨.vpnDeleted (s.tables.fill row), s.tables, s.tables.without id⟩ := by
    rw [Tables.stage, Tables.deleteVpn, Tables.getVpn_eq_ok.2 (Tables.vpn?_of_row? hrow)]
    rfl
  simp only [apply, mutate, Lifecycle.perform, hstage, hooks, Rules.check]

/-- A command keeps the routes valid unless it strands one. -/
theorem routesValid_apply_iff (h : s.tables.RoutesValid) :
    (s.apply setup c).service.tables.RoutesValid ↔ ¬s.Strands c := by
  by_cases hstrands : s.Strands c
  · -- The VPN exists, since a valid route refers to it, so the command succeeds.
    refine iff_of_false (fun hvalid => ?_) (not_not.2 hstrands)
    obtain ⟨m, rfl, hm⟩ := hstrands
    cases m with
    | deleteVpn id =>
      obtain ⟨a, ha, hne, pref, hroute⟩ := hm
      obtain ⟨_, -, hroutes⟩ := h a ha
      obtain ⟨vpn, hvpn, -⟩ := hroutes _ hroute
      rw [tables_deleteVpn hvpn, Tables.routesValid_without_iff h] at hvalid
      exact hvalid ⟨a, ha, hne, pref, hroute⟩
    | _ => exact hm
  · refine iff_of_true (tables_apply h fun m staged hc hstages hcheck => ?_) hstrands
    exact (hstages.routesValid_iff hcheck h).2 fun hm => hstrands ⟨m, hc, hm⟩

/-- The routes are valid all along a run if no command of the run strands one,
and only then. -/
theorem routesValid_applyAll_iff (h : s.tables.RoutesValid) (commands : List Command) :
    (∀ done, done <+: commands → (applyAll setup s done).tables.RoutesValid) ↔
      ∀ done c, done ++ [c] <+: commands → ¬(applyAll setup s done).Strands c := by
  constructor
  · intro hvalid done c hdone
    have hbefore := hvalid done ((List.prefix_append done [c]).trans hdone)
    have hafter := hvalid (done ++ [c]) hdone
    rw [applyAll, List.foldl_append] at hafter
    exact (routesValid_apply_iff hbefore).1 hafter
  · intro hstrands done
    induction done using List.reverseRecOn with
    | nil => exact fun _ => h
    | append_singleton done c ih =>
      intro hdone
      have hbefore := ih ((List.prefix_append done [c]).trans hdone)
      rw [applyAll, List.foldl_append]
      exact (routesValid_apply_iff hbefore).2 (hstrands done c hdone)

/-- The routes are valid all along a run exactly if no command of the run
deletes a VPN to which an association of another VPN refers.  In a state with
valid routes every payload hands on routes within kind and tenant only. -/
theorem routesValid_along_iff (setup : Setup) (commands : List Command) :
    ((∀ done, done <+: commands → (applyAll setup {} done).tables.RoutesValid) ↔
      ∀ done c, done ++ [c] <+: commands → ¬(applyAll setup {} done).Strands c) ∧
    ∀ done, done <+: commands → (applyAll setup {} done).tables.RoutesValid →
      let s := applyAll setup {} done
      ∀ (port : Port) (readvertise : Readvertise),
        (Rules.attachPayload setup.policy s.topology s.tables port
          (vpnsOfPort s.topology s.tables port)).readvertise = some readvertise →
        ∀ target ∈ readvertise.sources, ∃ a ∈ s.tables.associationsOnPort port.id,
          ∃ owner, s.tables.row? a.owner = some owner ∧
            s.tables.OffersWithin owner target := by
  refine ⟨routesValid_applyAll_iff (fun _ ha => (List.not_mem_nil ha).elim) commands, ?_⟩
  intro done _ hvalid s port readvertise hpayload target htarget
  exact hvalid.sources_within hpayload htarget

/-- A route refers to a VPN that is deleted and created again for someone else. -/
def handedOver : List Command := [
  .createPort (Scenario.activePort "port" "net"),
  .mutate (.createVpn (Scenario.vpn .l3 "own" [])),
  .mutate (.createVpn (Scenario.vpn .l3 "other" [])),
  .mutate (.createPort "own"
    (Scenario.association "a" "port" { routes := [.leak "other" none] })),
  .mutate (.deleteVpn "other"),
  .mutate (.createVpn { Scenario.vpn .l3 "other" [⟨"64512:99", by decide⟩] with
    tenant := "tenant-b" })]

/-- The port of one tenant hands on the routes of another. -/
theorem leaks_handedOver :
    let s := applyAll .plain {} handedOver
    let port := Scenario.activePort "port" "net"
    Reachable .plain s ∧
      (∃ a ∈ s.tables.ports, .leak "other" none ∈ a.terms.routes ∧
        (s.tables.row? a.owner).map (·.tenant) = some "tenant-a" ∧
        (s.tables.row? "other").map (·.tenant) = some "tenant-b") ∧
      (Rules.attachPayload Setup.plain.policy s.topology s.tables port
        (vpnsOfPort s.topology s.tables port)).readvertise =
          some ⟨["64512:99"], []⟩ :=
  ⟨Reachable.start.applyAll (by decide), by decide, by decide⟩

theorem routesValid_along_handedOver :
    ¬∀ done, done <+: handedOver →
      (applyAll .plain {} done).tables.RoutesValid := by
  intro hvalid
  have hstrands := (routesValid_along_iff .plain handedOver).1.1 hvalid
  refine hstrands (handedOver.take 4) (.mutate (.deleteVpn "other"))
    (List.take_prefix 5 handedOver) ⟨_, rfl, ?_⟩
  exact ⟨⟨"a", "own", "port", "tenant-a", { routes := [.leak "other" none] }⟩,
    by decide, by decide, none, by decide⟩

end Service
end VpnAttach
