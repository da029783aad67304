import VpnAttach.Proofs.Rules.Admission
import VpnAttach.Proofs.Service.Runs
import VpnAttach.Scenario.Samples

/-!
# When a port association is granted

What a port association has to meet is a list of conditions, each with the refusal of a
request that violates it.  A request that violates several conditions is refused for the
first one (`Decides`).  Some conditions are those of the tables, some of the topology, and
some of the routes, one after the other; steps in sequence decide the conditions of the
steps in sequence (`Decides.bind`), so the order of the list is the order of the steps
(`port_admission`).
-/

namespace VpnAttach

/-! ## Conditions in order -/

/-- A condition of a request, and why a request that violates it is refused. -/
structure Condition where
  holds : Prop
  refusal : Refusal

/-- A request is refused for the first condition that it violates, and granted if it meets
all of them. -/
inductive Decides {α : Type} : List Condition → Except Refusal α → Prop where
  | granted {a : α} : Decides [] (.ok a)
  | met {c : Condition} {cs : List Condition} {result : Except Refusal α} (h : c.holds)
    (rest : Decides cs result) : Decides (c :: cs) result
  | violated {c : Condition} {cs : List Condition} (h : ¬c.holds) :
    Decides (c :: cs) (.error c.refusal)

namespace Decides

variable {α β : Type} {cs ds : List Condition} {result : Except Refusal α}

/-- A request is granted exactly if it meets all conditions. -/
theorem isOk_iff (h : Decides cs result) : result.isOk = true ↔ ∀ c ∈ cs, c.holds := by
  induction h with
  | granted => exact iff_of_true rfl fun _ hc => nomatch hc
  | met h rest ih => rw [ih, List.forall_mem_cons, and_iff_right h]
  | violated h =>
    exact iff_of_false (fun hok => nomatch hok) fun hall => h (hall _ List.mem_cons_self)

/-- Steps in sequence decide their conditions in sequence. -/
theorem bind {f : α → Except Refusal β} (h : Decides cs result)
    (hf : ∀ a, result = .ok a → Decides ds (f a)) : Decides (cs ++ ds) (result >>= f) := by
  induction h with
  | granted => exact hf _ rfl
  | met h rest ih => exact .met h (ih hf)
  | violated h => exact .violated h

theorem map {f : α → β} (h : Decides cs result) :
    Decides cs (result >>= fun a => pure (f a)) := by
  rw [← List.append_nil cs]
  exact h.bind fun _ _ => .granted

/-- A step that can be refused for one reason decides one condition. -/
theorem singleton {p : Prop} {refusal : Refusal} (hok : p → ∃ a, result = .ok a)
    (herror : ¬p → result = .error refusal) : Decides [⟨p, refusal⟩] result := by
  by_cases hp : p
  · obtain ⟨a, rfl⟩ := hok hp
    exact .met hp .granted
  · rw [herror hp]
    exact .violated hp

end Decides

/-! ## The conditions of a port association -/

/-- What a request for an association with a target has to meet, given those there are:
the VPN is not associated with the target, and nothing else has the requested id. -/
def Rows.conditions {τ : Type} (kind : Attachment) (owner : String)
    (request : AssociationRequest τ) (rows : List (Association τ)) : List Condition :=
  ⟨¬Joined rows owner request.target,
      .conflict (.alreadyAssociated kind request.target owner)⟩ ::
    request.id.toList.map fun id =>
      ⟨id ∉ rows.map (·.id), .conflict (.idTaken kind.phrase id)⟩

/-- What a route of an association of `owner` has to meet: the VPN that it refers to is
stored, and of the kind and the tenant of the owner. -/
def Route.conditions (t : Tables) (owner : Vpn) : Route → List Condition
  | .static _ _ => []
  | .leak id _ =>
    ⟨id ∈ t.vpnIds, .invalidRoute (.missing id)⟩ ::
      (t.row? id).toList.flatMap fun vpn => [
        ⟨vpn.kind = owner.kind,
          .invalidRoute (.otherKind id vpn.kind owner.id owner.kind)⟩,
        ⟨vpn.tenant = owner.tenant, .invalidRoute (.otherTenant id)⟩]

/-- What the terms of a port association of `owner` have to meet. -/
def PortTerms.conditions (t : Tables) (owner : Vpn) (terms : PortTerms) : List Condition :=
  terms.routes.flatMap (Route.conditions t owner)

/-- What a request for a port association has to meet. -/
def portConditions (topology : Topology) (t : Tables) (owner : String)
    (request : PortAssociationRequest) : List Condition :=
  ⟨owner ∈ t.vpnIds, .notFound "bgpvpn" owner⟩ ::
    (Rows.conditions .port owner request t.ports ++
      ⟨∃ port, topology.port? request.target = some port, .notFound "port" request.target⟩ ::
        (t.row? owner).toList.flatMap fun vpn => request.terms.conditions t vpn)

section Conditions

variable {t : Tables} {topology : Topology} {owner : Vpn}

theorem Route.forall_conditions {route : Route} :
    (∀ c ∈ route.conditions t owner, c.holds) ↔ route.Valid t owner := by
  cases route with
  | static _ _ => exact iff_of_true (fun _ h => nomatch h) trivial
  | leak id _ =>
    rw [Route.conditions, Route.Valid, List.forall_mem_cons, ← Tables.exists_row?_iff]
    cases t.row? id with
    | none => simp
    | some vpn => simp

theorem PortTerms.forall_conditions {terms : PortTerms} :
    (∀ c ∈ terms.conditions t owner, c.holds) ↔
      ∀ route ∈ terms.routes, route.Valid t owner := by
  rw [PortTerms.conditions, List.forall_mem_flatMap]
  simp only [Route.forall_conditions]

theorem Rows.forall_conditions {τ : Type} {kind : Attachment} {owner : String}
    {request : AssociationRequest τ} {rows : List (Association τ)} :
    (∀ c ∈ Rows.conditions kind owner request rows, c.holds) ↔
      ¬Joined rows owner request.target ∧
        ∀ id, request.id = some id → id ∉ rows.map (·.id) := by
  rw [Rows.conditions, List.forall_mem_cons]
  cases request.id with
  | none => simp
  | some id => simp

theorem forall_portConditions {owner : String} {request : PortAssociationRequest} :
    (∀ c ∈ portConditions topology t owner request, c.holds) ↔
      ∃ vpn, t.row? owner = some vpn ∧
        ¬Rows.Joined t.ports owner request.target ∧
        (∀ id, request.id = some id → id ∉ t.ports.map (·.id)) ∧
        (∃ port, topology.port? request.target = some port) ∧
        ∀ route ∈ request.terms.routes, route.Valid t vpn := by
  rw [portConditions, List.forall_mem_cons, List.forall_mem_append, List.forall_mem_cons,
    Rows.forall_conditions, ← Tables.exists_row?_iff]
  cases t.row? owner with
  | none => simp
  | some vpn => simp [PortTerms.forall_conditions, and_assoc]

end Conditions

/-! ## The steps decide their conditions -/

section Steps

variable {t : Tables} {topology : Topology} {vpn : Vpn}

theorem Tables.decides_row {owner : String} :
    Decides [⟨owner ∈ t.vpnIds, .notFound "bgpvpn" owner⟩] (t.row owner) := by
  refine .singleton (fun h => ?_) Tables.row_of_not_mem
  obtain ⟨vpn, hvpn⟩ := Tables.exists_row?_iff.2 h
  exact ⟨vpn, Tables.row_eq_ok.2 hvpn⟩

theorem Rows.decides_chooseId {taken : List String} {object fresh : String}
    {requested : Option String} :
    Decides (requested.toList.map fun id =>
      ⟨id ∉ taken, .conflict (.idTaken object id)⟩) (chooseId taken object fresh requested) := by
  cases requested with
  | none => exact .granted
  | some id => exact .singleton (fun h => ⟨id, if_neg h⟩) fun h => if_pos (not_not.1 h)

/-- A new association is made if there is none yet and its id is free. -/
theorem Rows.decides_make {τ : Type} {kind : Attachment} {fresh : String}
    {request : AssociationRequest τ} {rows : List (Association τ)} :
    Decides (Rows.conditions kind vpn.id request rows) (make kind vpn fresh request rows) := by
  have hjoined : (rows.any fun a => a.owner == vpn.id && a.target == request.target) = true ↔
      Joined rows vpn.id request.target := by
    simp [Joined]
  rw [make]
  by_cases h : Joined rows vpn.id request.target
  · rw [if_pos (hjoined.2 h)]
    exact .violated (not_not.2 h)
  · rw [if_neg fun hany => h (hjoined.1 hany)]
    refine .met h ?_
    exact Rows.decides_chooseId.map

/-- What becomes of a check that looks for a fault. -/
def Rules.verdict : Option RouteFault → Except Refusal Unit
  | none => .ok ()
  | some fault => .error (.invalidRoute fault)

/-- The fault of a route is the first condition that it violates. -/
theorem Rules.decides_routeFault {route : Route} :
    Decides (route.conditions t vpn) (verdict (routeFault? t (t.fill vpn) route)) := by
  cases route with
  | static _ _ => exact .granted
  | leak id _ =>
    rw [Route.conditions, routeFault?, Tables.vpn?]
    cases hrow : t.row? id with
    | none => exact .violated (Tables.row?_eq_none.1 hrow)
    | some other =>
      obtain rfl := Tables.id_of_row? hrow
      refine .met (Tables.exists_row?_iff.1 ⟨other, hrow⟩) ?_
      simp only [Option.map_some]
      by_cases hkind : (t.fill other).kind = (t.fill vpn).kind
      · rw [if_neg (not_not.2 hkind)]
        refine .met hkind ?_
        by_cases htenant : (t.fill other).tenant = (t.fill vpn).tenant
        · rw [if_neg (not_not.2 htenant)]
          exact .met htenant .granted
        · rw [if_pos htenant]
          exact .violated htenant
      · rw [if_pos hkind]
        exact .violated hkind

/-- Routes are looked through until one has a fault. -/
theorem Rules.decides_findFault (routes : List Route) :
    Decides (routes.flatMap (Route.conditions t vpn))
      (verdict (routes.findSome? (routeFault? t (t.fill vpn)))) := by
  induction routes with
  | nil => exact .granted
  | cons route routes ih =>
    have hfirst : verdict ((route :: routes).findSome? (routeFault? t (t.fill vpn))) =
        verdict (routeFault? t (t.fill vpn) route) >>= fun _ =>
          verdict (routes.findSome? (routeFault? t (t.fill vpn))) := by
      rw [List.findSome?_cons]
      cases routeFault? t (t.fill vpn) route <;> rfl
    rw [hfirst, List.flatMap_cons]
    exact decides_routeFault.bind fun _ _ => ih

/-- The check of routes decides the conditions of the terms, whatever port associations
are pending. -/
theorem Rules.decides_checkRoutes (rows : List PortAssociation) {a : PortAssociation}
    (hrow : t.row? a.owner = some vpn) :
    Decides (a.terms.conditions t vpn) (checkRoutes { t with ports := rows } a) := by
  let pending : Tables := { t with ports := rows }
  have hpending : pending.row? a.owner = some vpn := hrow
  have hverdict : checkRoutes pending a =
      verdict (a.terms.routes.findSome? (routeFault? pending (pending.fill vpn))) := by
    rw [checkRoutes, Tables.getVpn_eq_ok.2 (Tables.vpn?_of_row? hpending)]
    simp only [bind, Except.bind]
    cases a.terms.routes.findSome? (routeFault? pending (pending.fill vpn)) <;> rfl
  have hconditions : a.terms.conditions t vpn = a.terms.conditions pending vpn := rfl
  rw [hverdict, hconditions]
  exact decides_findFault a.terms.routes

/-- The check of a new port association looks for the port first. -/
theorem Rules.decides_checkPort (rows : List PortAssociation) {a : PortAssociation}
    (hrow : t.row? a.owner = some vpn) :
    Decides (⟨∃ port, topology.port? a.target = some port, .notFound "port" a.target⟩ ::
      a.terms.conditions t vpn) (checkPort topology { t with ports := rows } a) := by
  rw [checkPort]
  cases hport : topology.port? a.target with
  | none =>
    refine .violated fun hknown => ?_
    obtain ⟨port, h⟩ := hknown
    cases h
  | some port => exact .met ⟨port, rfl⟩ (decides_checkRoutes rows hrow)

end Steps

/-! ## Port associations that are granted -/

namespace Service

variable {setup : Setup} {s : Service}

theorem answer_createPort (owner : String) (request : PortAssociationRequest) :
    (s.apply setup (.mutate (.createPort owner request))).answer = (do
      let vpn ← s.tables.row owner
      let a ← Rows.make .port vpn (s.freshId setup) request s.tables.ports
      Rules.checkPort s.topology { s.tables with ports := s.tables.ports ++ [a] } a
      return .port a) := by
  rw [answer_mutate]
  simp only [Tables.stage, Tables.createPort, bind_assoc, pure_bind]
  rfl

/-- A new port association is granted or refused for the first condition that the request
violates. -/
theorem decides_createPort (setup : Setup) (s : Service) (owner : String)
    (request : PortAssociationRequest) :
    Decides (portConditions s.topology s.tables owner request)
      (s.apply setup (.mutate (.createPort owner request))).answer := by
  rw [answer_createPort, portConditions, ← List.singleton_append]
  refine Tables.decides_row.bind fun vpn hvpn => ?_
  have hrow := Tables.row_eq_ok.1 hvpn
  obtain rfl := Tables.id_of_row? hrow
  refine Rows.decides_make.bind fun a ha => ?_
  obtain ⟨-, -, heq⟩ := Rows.make_eq_ok ha
  have howner : a.owner = vpn.id := congrArg Association.owner heq
  have htarget : a.target = request.target := congrArg Association.target heq
  have hterms : a.terms = request.terms := congrArg Association.terms heq
  rw [hrow, Option.toList_some, List.flatMap_singleton, ← htarget, ← hterms]
  rw [← howner] at hrow
  exact (Rules.decides_checkPort _ hrow).map

/-- New terms of a port association are granted or refused for the first condition that
they violate. -/
theorem decides_updatePort (setup : Setup) {owner id : String} (changes : PortTermsUpdate)
    {old : PortAssociation} {vpn : Vpn} (hrow : s.tables.row? owner = some vpn)
    (hold : s.tables.ports.find? (Rows.isAt owner id) = some old) :
    Decides ((changes.apply old.terms).conditions s.tables vpn)
      (s.apply setup (.mutate (.updatePort owner id changes))).answer := by
  have hstages : s.tables.Stages (s.freshId setup) (.updatePort owner id changes) _ :=
    .updatePort hrow hold
  rw [answer_mutate, hstages.stage_eq]
  obtain ⟨-, rfl, -⟩ := Rows.mem_of_find? hold
  let new := { old with terms := changes.apply old.terms }
  have hnew : s.tables.row? new.owner = some vpn := hrow
  exact (Rules.decides_checkRoutes _ hnew).map

/-- Whatever was done before, a request for a port association is granted exactly if it is
valid, and is refused for the first condition that it violates otherwise; so are new terms
of an association. -/
theorem port_admission (setup : Setup) (s : Service) :
    (∀ owner request,
      let answer := (s.apply setup (.mutate (.createPort owner request))).answer
      (answer.isOk = true ↔ ∃ vpn, s.tables.row? owner = some vpn ∧
        ¬Rows.Joined s.tables.ports owner request.target ∧
        (∀ id, request.id = some id → id ∉ s.tables.ports.map (·.id)) ∧
        (∃ port, s.topology.port? request.target = some port) ∧
        ∀ route ∈ request.terms.routes, route.Valid s.tables vpn) ∧
      Decides (portConditions s.topology s.tables owner request) answer) ∧
    ∀ owner id changes old, s.tables.getPort owner id = .ok old →
      let answer := (s.apply setup (.mutate (.updatePort owner id changes))).answer
      let terms := changes.apply old.terms
      ∃ vpn, s.tables.row? owner = some vpn ∧
        (answer.isOk = true ↔ ∀ route ∈ terms.routes, route.Valid s.tables vpn) ∧
        Decides (terms.conditions s.tables vpn) answer := by
  refine ⟨fun owner request => ?_, fun owner id changes old hold => ?_⟩
  · have hdecides := decides_createPort setup s owner request
    exact ⟨hdecides.isOk_iff.trans forall_portConditions, hdecides⟩
  · obtain ⟨⟨vpn, hrow⟩, hfind⟩ := Tables.getPort_eq_ok.1 hold
    have hdecides := decides_updatePort setup changes hrow hfind
    exact ⟨vpn, hrow, hdecides.isOk_iff.trans PortTerms.forall_conditions, hdecides⟩

/-- Two VPNs of a tenant, and a port of one of them. -/
def portOfOne : List Command := [
  .createPort (Scenario.activePort "p1" "n1"),
  .mutate (.createVpn (Scenario.vpn .l3 "v1" [])),
  .mutate (.createVpn (Scenario.vpn .l3 "v2" [])),
  .mutate (.createPort "v1" (Scenario.association "a1" "p1" {}))]

/-- The routes of the other VPN may be advertised through the port.  A request for an
association of the other VPN with a taken id is refused for the id, although the port is
unknown, too, and the route does not lead anywhere. -/
theorem port_admission_portOfOne :
    let s := applyAll .plain {} portOfOne
    let leak : Route := .leak "v2" none
    let request := Scenario.association "a1" "p2" { routes := [.leak "v3" none] }
    (∃ vpn, s.tables.row? "v1" = some vpn ∧ leak.Valid s.tables vpn) ∧
      (s.apply .plain (.mutate (.createPort "v2" request))).answer =
        .error (.conflict (.idTaken "port association" "a1")) ∧
      ¬∃ port, s.topology.port? "p2" = some port := by
  intro s leak request
  obtain ⟨-, hupdate⟩ := port_admission .plain s
  obtain ⟨vpn, hrow, hgranted, -⟩ := hupdate "v1" "a1" { routes := some [leak] } _ rfl
  have hvalid := hgranted.1 (by decide) leak List.mem_cons_self
  exact ⟨⟨vpn, hrow, hvalid⟩, by decide, fun ⟨port, h⟩ => nomatch h⟩

end Service
end VpnAttach
