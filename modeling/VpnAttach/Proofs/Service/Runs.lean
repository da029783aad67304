import VpnAttach.Proofs.Rules.Admission
import VpnAttach.Proofs.Service.Steps
import VpnAttach.Proofs.Tables.Soundness
import VpnAttach.Service.Ids

/-!
# Invariants of the service

Only an accepted mutation changes the tables (`tables_apply`), so what every
accepted mutation keeps holds after every run (`tables_applyAll`).  Whatever ids
are allocated, associations have owners and no VPN has more routers than the
policy allows.  Where allocated ids are not in use, the tables are sound as well
(`Reachable.sound`).
-/

namespace VpnAttach

/-- The default policy, an obliging agent, and ids from the first one on. -/
def Setup.plain : Setup where
  ids := Ids.after 0

namespace Service

variable {setup : Setup} {s : Service} {c : Command}

/-- The tables stay as they are, or a mutation was accepted. -/
theorem Accepts.tables_cases {tables : Tables} {topology : Topology}
    {sent : List Notification} (h : Accepts setup s c tables topology sent) :
    tables = s.tables ∨
      ∃ m staged, c = .mutate m ∧ s.tables.Stages (s.freshId setup) m staged ∧
        Rules.check setup.policy s.topology staged.pending staged.change = .ok () ∧
        tables = staged.committed := by
  cases h with
  | mutate hstages hcheck => exact Or.inr ⟨_, _, rfl, hstages, hcheck, rfl⟩
  | _ => exact Or.inl rfl

/-- Every association keeps its owner, whatever ids are used. -/
theorem Accepts.owned {tables : Tables} {topology : Topology} {sent : List Notification}
    (h : Accepts setup s c tables topology sent) (howned : s.tables.Owned) :
    tables.Owned := by
  rcases h.tables_cases with rfl | ⟨_, _, -, hstages, -, rfl⟩
  · exact howned
  · exact hstages.owned howned

/-- A command keeps a property of the tables if the mutation does that it asks
for. -/
theorem tables_apply {P : Tables → Prop} (h : P s.tables)
    (hmutate : ∀ (m : Mutation) (staged : Staged), c = .mutate m →
      s.tables.Stages (s.freshId setup) m staged →
      Rules.check setup.policy s.topology staged.pending staged.change = .ok () →
      P staged.committed) : P (s.apply setup c).service.tables := by
  rcases apply_cases setup s c with hkept | haccepts
  · rw [hkept]
    exact h
  · rcases haccepts.tables_cases with hkept | ⟨m, staged, hc, hstages, hcheck, htables⟩
    · rw [hkept]
      exact h
    · rw [htables]
      exact hmutate m staged hc hstages hcheck

/-! ## Runs -/

/-- A run keeps what every accepted mutation keeps. -/
theorem tables_applyAll {P : Tables → Prop} (h : P s.tables)
    (hmutate : ∀ (s : Service) (m : Mutation) (staged : Staged), P s.tables →
      s.tables.Stages (s.freshId setup) m staged →
      Rules.check setup.policy s.topology staged.pending staged.change = .ok () →
      P staged.committed) (commands : List Command) :
    P (applyAll setup s commands).tables := by
  induction commands generalizing s with
  | nil => exact h
  | cons c commands ih =>
    exact ih (tables_apply h fun m staged _ => hmutate s m staged h)

/-- A run keeps what every accepted command keeps. -/
theorem state_applyAll {P : Tables → Topology → Prop} (h : P s.tables s.topology)
    (haccepts : ∀ (s : Service) (c : Command) (tables : Tables) (topology : Topology)
      (sent : List Notification), P s.tables s.topology →
      Accepts setup s c tables topology sent → P tables topology)
    (commands : List Command) :
    P (applyAll setup s commands).tables (applyAll setup s commands).topology := by
  induction commands generalizing s with
  | nil => exact h
  | cons c commands ih =>
    have hstep : P (s.apply setup c).service.tables (s.apply setup c).service.topology := by
      rcases apply_cases setup s c with hkept | hdone
      · rw [hkept]
        exact h
      · exact haccepts s c _ _ _ h hdone
    exact ih hstep

/-- Every association has an owner. -/
theorem owned_applyAll (setup : Setup) (commands : List Command) :
    (applyAll setup {} commands).tables.Owned :=
  tables_applyAll Tables.sound_empty.toOwned
    (fun _ _ _ howned hstages _ => hstages.owned howned) commands

/-- Ids are unique and associations have owners. -/
theorem Reachable.sound (hs : Reachable setup s) : s.tables.Sound := by
  induction hs with
  | start => exact Tables.sound_empty
  | step _ hfresh c ih =>
    exact tables_apply ih fun _ _ _ hstages _ =>
      hstages.sound ih (Tables.fresh_of_not_mem_usedIds hfresh)

/-- The id that may be used next is fresh before each of some commands. -/
def FreshAlong (setup : Setup) : Service → List Command → Prop
  | _, [] => True
  | s, c :: commands =>
    FreshId setup s ∧ FreshAlong setup (s.apply setup c).service commands

instance (setup : Setup) : (s : Service) → (commands : List Command) →
    Decidable (FreshAlong setup s commands)
  | _, [] => inferInstanceAs (Decidable True)
  | s, c :: commands =>
    have := instDecidableFreshAlong setup (s.apply setup c).service commands
    inferInstanceAs (Decidable (s.freshId setup ∉ s.tables.usedIds ∧
      FreshAlong setup (s.apply setup c).service commands))

/-- Commands lead from reachable states to reachable states. -/
theorem Reachable.applyAll (hs : Reachable setup s) {commands : List Command}
    (hfresh : FreshAlong setup s commands) :
    Reachable setup (applyAll setup s commands) := by
  induction commands generalizing s with
  | nil => exact hs
  | cons c commands ih => exact ih (hs.step hfresh.1 c) hfresh.2

/-! ## The limit on routers -/

/-- No VPN is associated with more than `limit` routers. -/
def RoutersWithin (limit : Nat) (rows : List RouterAssociation) : Prop :=
  ∀ owner, (Rows.targetsOf owner rows).length ≤ limit

theorem RoutersWithin.sublist {limit : Nat} {rows kept : List RouterAssociation}
    (h : RoutersWithin limit rows) (hkept : kept.Sublist rows) :
    RoutersWithin limit kept := by
  intro owner
  have hle := ((hkept.filter (·.owner == owner)).map (·.target)).length_le
  exact Nat.le_trans hle (h owner)

theorem RoutersWithin.mono {limit more : Nat} {rows : List RouterAssociation}
    (h : RoutersWithin limit rows) (hle : limit ≤ more) : RoutersWithin more rows :=
  fun owner => Nat.le_trans (h owner) hle

theorem RoutersWithin.modify {limit : Nat} {rows : List RouterAssociation}
    (h : RoutersWithin limit rows) (owner id : String)
    (change : RouterTerms → RouterTerms) :
    RoutersWithin limit (Rows.modify owner id change rows) := by
  intro o
  rw [Rows.targetsOf_eq, Rows.map_modify _ fun _ _ => rfl, ← Rows.targetsOf_eq]
  exact h o

/-- A new association passed the check, which counts it. -/
theorem RoutersWithin.append {policy : Policy} {topology : Topology} {t : Tables}
    {a : RouterAssociation} (h : RoutersWithin policy.routerLimit t.routers)
    (hcheck : Rules.checkRouter policy topology
      { t with routers := t.routers ++ [a] } a = .ok ()) :
    RoutersWithin policy.routerLimit (t.routers ++ [a]) := by
  intro owner
  by_cases ho : a.owner = owner
  · obtain ⟨_, _, _, hlimit⟩ := Rules.checkRouter_ok hcheck
    rw [← ho]
    exact hlimit
  · have hsame : Rows.targetsOf owner (t.routers ++ [a]) = Rows.targetsOf owner t.routers := by
      simp [Rows.targetsOf, Rows.ownedBy, ho]
    rw [hsame]
    exact h owner

/-- No VPN ever has more routers than the policy allows. -/
theorem routersWithin_applyAll (setup : Setup) (commands : List Command) :
    RoutersWithin setup.policy.routerLimit (applyAll setup {} commands).tables.routers := by
  refine tables_applyAll (P := fun t => RoutersWithin setup.policy.routerLimit t.routers)
    (fun _ => Nat.zero_le _) (fun s m staged hwithin hstages hcheck => ?_) commands
  cases hstages with
  | deleteVpn _ => exact hwithin.sublist List.filter_sublist
  | createRouter _ _ => exact hwithin.append hcheck
  | updateRouter _ _ => exact hwithin.modify _ _ _
  | deleteRouter _ _ => exact hwithin.sublist List.eraseP_sublist
  | _ => exact hwithin

end Service
end VpnAttach
