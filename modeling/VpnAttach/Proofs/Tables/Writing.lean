import VpnAttach.Proofs.Tables.Soundness
import VpnAttach.Tables.Writing

/-!
# Writing in place

An operation that writes in place either comes to what staging its mutation comes
to, or it fails before it has written anything (`run_write`).  This takes the order
in which the operations go about their work: whatever can fail is a look-up, and
the look-ups come first (`run_lookUp_ok`, `run_lookUp_error`).

So writing in place keeps what every mutation keeps.  After any sequence of writes,
failed ones included, nothing is stored twice, every association has its owner, and
the stored VPNs have empty lists of associated objects (`sound_writeAll`).

A mutation that is checked on the way may fail after it has written (`run_attempt`),
and has to be carried out on a copy of the tables.
-/

namespace VpnAttach

variable {t t' : Tables} {fresh : String} {m : Mutation}

/-! ## Operations -/

namespace Writing

variable {α β τ : Type}

/-- What comes of an operation that takes effect as a whole or not at all, if `next`
comes after it.  If it fails the state is as it was at the start. -/
def andThen {ρ : Type} (start : ρ) (next : α → Tables → EStateM.Result Refusal ρ β) :
    Except Refusal (α × Tables) → EStateM.Result Refusal ρ β
  | .ok (a, t') => next a t'
  | .error refusal => .error refusal start

/-- The end of an operation that takes effect as a whole or not at all. -/
def settled (t : Tables) : Except Refusal (α × Tables) → EStateM.Result Refusal Tables α :=
  andThen t .ok

theorem run_lookUp (find : Tables → Except Refusal α) (t : Tables) :
    (lookUp find).run t = (match find t with
      | .ok found => (pure found : Writing α)
      | .error refusal => throw refusal).run t :=
  rfl

/-- After a look-up that finds something the tables are as before. -/
theorem run_lookUp_ok {find : Tables → Except Refusal α} {a : α} (h : find t = .ok a)
    (next : α → Writing β) : (lookUp find >>= next).run t = (next a).run t := by
  have hfound : lookUp find t = .ok a t := by
    have hrun := run_lookUp find t
    rw [h] at hrun
    exact hrun
  simp only [bind, EStateM.bind, EStateM.run, hfound]

/-- A look-up that fails is the end of an operation. -/
theorem run_lookUp_error {find : Tables → Except Refusal α} {refusal : Refusal}
    (h : find t = .error refusal) (next : α → Writing β) :
    (lookUp find >>= next).run t = .error refusal t := by
  have hfailed : lookUp find t = .error refusal t := by
    have hrun := run_lookUp find t
    rw [h] at hrun
    exact hrun
  simp only [bind, EStateM.bind, EStateM.run, hfailed]

theorem run_createVpn (t : Tables) (fresh : String) (request : VpnRequest) :
    (createVpn fresh request).run t = settled t (t.createVpn fresh request) := by
  rw [createVpn, Tables.createVpn]
  cases hid : Rows.chooseId (t.vpns.map (·.id)) "bgpvpn" fresh request.id with
  | error refusal => exact run_lookUp_error hid _
  | ok id => exact run_lookUp_ok hid _

theorem run_updateVpn (t : Tables) (id : String) (changes : VpnUpdate) :
    (updateVpn id changes).run t = settled t (t.updateVpn id changes) := by
  rw [updateVpn, Tables.updateVpn]
  cases hrow : t.row id with
  | error refusal => exact run_lookUp_error hrow _
  | ok vpn => exact run_lookUp_ok hrow _

theorem run_deleteVpn (t : Tables) (id : String) :
    (deleteVpn id).run t = settled t (t.deleteVpn id) := by
  rw [deleteVpn, Tables.deleteVpn]
  cases hvpn : t.getVpn id with
  | error refusal => exact run_lookUp_error hvpn _
  | ok vpn => exact run_lookUp_ok hvpn _

theorem run_associate (part : Part τ) (t : Tables) (fresh owner : String)
    (request : AssociationRequest τ) :
    (associate part fresh owner request).run t = settled t (do
      let a ← Rows.make part.kind (← t.row owner) fresh request (part.rows t)
      return (a, part.put (part.rows t ++ [a]) t)) := by
  rw [associate]
  cases hrow : t.row owner with
  | error refusal => exact run_lookUp_error hrow _
  | ok vpn =>
    rw [run_lookUp_ok hrow]
    cases ha : Rows.make part.kind vpn fresh request (part.rows t) with
    | error refusal =>
      rw [run_lookUp_error ha]
      simp only [bind, Except.bind, ha]
      rfl
    | ok a =>
      rw [run_lookUp_ok ha]
      simp only [bind, Except.bind, ha]
      rfl

theorem run_amend (part : Part τ) (t : Tables) (owner id : String) (change : τ → τ) :
    (amend part owner id change).run t = settled t (do
      let a ← part.get owner id t
      return ({ a with terms := change a.terms },
        part.put (Rows.modify owner id change (part.rows t)) t)) := by
  rw [amend]
  cases ha : part.get owner id t with
  | error refusal => exact run_lookUp_error ha _
  | ok a => exact run_lookUp_ok ha _

theorem run_dissociate (part : Part τ) (t : Tables) (owner id : String) :
    (dissociate part owner id).run t = settled t (do
      let a ← part.get owner id t
      return (a, part.put (Rows.remove owner id (part.rows t)) t)) := by
  rw [dissociate]
  cases ha : part.get owner id t with
  | error refusal => exact run_lookUp_error ha _
  | ok a => exact run_lookUp_ok ha _

theorem run_createNetwork (t : Tables) (fresh owner : String)
    (request : NetworkAssociationRequest) :
    (createNetwork fresh owner request).run t =
      settled t (t.createNetwork fresh owner request) :=
  run_associate .networks t fresh owner request

theorem run_deleteNetwork (t : Tables) (owner id : String) :
    (deleteNetwork owner id).run t = settled t (t.deleteNetwork owner id) :=
  run_dissociate .networks t owner id

theorem run_createRouter (t : Tables) (fresh owner : String)
    (request : RouterAssociationRequest) :
    (createRouter fresh owner request).run t =
      settled t (t.createRouter fresh owner request) :=
  run_associate .routers t fresh owner request

theorem run_updateRouter (t : Tables) (owner id : String) (changes : RouterTermsUpdate) :
    (updateRouter owner id changes).run t = settled t (t.updateRouter owner id changes) :=
  run_amend .routers t owner id changes.apply

theorem run_deleteRouter (t : Tables) (owner id : String) :
    (deleteRouter owner id).run t = settled t (t.deleteRouter owner id) :=
  run_dissociate .routers t owner id

theorem run_createPort (t : Tables) (fresh owner : String)
    (request : PortAssociationRequest) :
    (createPort fresh owner request).run t =
      settled t (t.createPort fresh owner request) :=
  run_associate .ports t fresh owner request

theorem run_updatePort (t : Tables) (owner id : String) (changes : PortTermsUpdate) :
    (updatePort owner id changes).run t = settled t (t.updatePort owner id changes) :=
  run_amend .ports t owner id changes.apply

theorem run_deletePort (t : Tables) (owner id : String) :
    (deletePort owner id).run t = settled t (t.deletePort owner id) :=
  run_dissociate .ports t owner id

/-! ## Mutations -/

/-- Giving the result of an operation another form. -/
theorem run_map {op : Writing α} {x : Except Refusal (α × Tables)}
    (h : op.run t = settled t x) (f : α → β) :
    (f <$> op).run t = settled t (x.map fun r => (f r.1, r.2)) := by
  have hrun : op t = settled t x := h
  cases x with
  | error refusal => simp only [Functor.map, EStateM.map, EStateM.run, hrun]; rfl
  | ok r => simp only [Functor.map, EStateM.map, EStateM.run, hrun]; rfl

end Writing

/-- The object that a change is about, as it is afterwards or as it was last. -/
def Change.object : Change → Reply
  | .vpnCreated vpn | .vpnUpdated _ vpn | .vpnDeleted vpn => .vpn vpn
  | .networkCreated a | .networkDeleted a => .network a
  | .routerCreated a | .routerUpdated _ a | .routerDeleted a => .router a
  | .portCreated a | .portUpdated _ a | .portDeleted a => .port a

namespace Writing

/-- Writing in place comes to what staging comes to, or it leaves the tables alone. -/
theorem run_write (t : Tables) (fresh : String) (m : Mutation) :
    (write fresh m).run t = settled t
      ((t.stage fresh m).map fun staged => (staged.change.object, staged.committed)) := by
  cases m with
  | createVpn request =>
    rw [write, run_map (run_createVpn t fresh request), Tables.stage]
    cases t.createVpn fresh request <;> rfl
  | updateVpn id changes =>
    -- Staging looks an object up before its update does so again, so the cases are
    -- those of the look-up.
    rw [write, run_map (run_updateVpn t id changes), Tables.stage, Tables.updateVpn,
      Tables.getVpn]
    cases t.row id <;> rfl
  | deleteVpn id =>
    rw [write, run_map (run_deleteVpn t id), Tables.stage]
    cases t.deleteVpn id <;> rfl
  | createNetwork owner request =>
    rw [write, run_map (run_createNetwork t fresh owner request), Tables.stage]
    cases t.createNetwork fresh owner request <;> rfl
  | deleteNetwork owner id =>
    rw [write, run_map (run_deleteNetwork t owner id), Tables.stage]
    cases t.deleteNetwork owner id <;> rfl
  | createRouter owner request =>
    rw [write, run_map (run_createRouter t fresh owner request), Tables.stage]
    cases t.createRouter fresh owner request <;> rfl
  | updateRouter owner id changes =>
    rw [write, run_map (run_updateRouter t owner id changes), Tables.stage,
      Tables.updateRouter]
    cases t.getRouter owner id <;> rfl
  | deleteRouter owner id =>
    rw [write, run_map (run_deleteRouter t owner id), Tables.stage]
    cases t.deleteRouter owner id <;> rfl
  | createPort owner request =>
    rw [write, run_map (run_createPort t fresh owner request), Tables.stage]
    cases t.createPort fresh owner request <;> rfl
  | updatePort owner id changes =>
    rw [write, run_map (run_updatePort t owner id changes), Tables.stage, Tables.updatePort]
    cases t.getPort owner id <;> rfl
  | deletePort owner id =>
    rw [write, run_map (run_deletePort t owner id), Tables.stage]
    cases t.deletePort owner id <;> rfl

/-- A write comes to what its mutation is staged to, or it fails without a trace. -/
theorem write_cases (t : Tables) (fresh : String) (m : Mutation) :
    (∃ staged, t.Stages fresh m staged ∧
      (write fresh m).run t = .ok staged.change.object staged.committed) ∨
    ∃ refusal, (write fresh m).run t = .error refusal t := by
  rw [run_write]
  cases hstage : t.stage fresh m with
  | error refusal => exact Or.inr ⟨refusal, rfl⟩
  | ok staged => exact Or.inl ⟨staged, Tables.stages_of_stage hstage, rfl⟩

/-- A write that fails has written nothing. -/
theorem eq_of_write_error {refusal : Refusal}
    (h : (write fresh m).run t = .error refusal t') : t' = t := by
  rcases write_cases t fresh m with ⟨staged, -, hok⟩ | ⟨_, herror⟩
  · rw [h] at hok
    cases hok
  · rw [h] at herror
    exact (EStateM.Result.error.inj herror).2

/-! ## Checked mutations -/

section Checked

variable {σ : Type} (check : Tables → Change → σ → Except Refusal Unit × σ)

/-- The end of a mutation that has come to a check: it stops with the tables that the
check has seen, or it goes on. -/
def checked (t : Tables) (change : Change) (s : σ)
    (next : σ → EStateM.Result Refusal (Tables × σ) α) :
    EStateM.Result Refusal (Tables × σ) α :=
  match check t change s with
  | (.ok (), s') => next s'
  | (.error refusal, s') => .error refusal (t, s')

/-- After an operation that leaves the checks alone comes the next one, or the end. -/
theorem run_unchecked_bind {op : Writing α} {x : Except Refusal (α × Tables)}
    (h : op.run t = settled t x) (s : σ) (next : α → CheckedWriting σ β) :
    (unchecked op >>= next).run (t, s) =
      andThen (t, s) (fun a t' => (next a).run (t', s)) x := by
  cases x with
  | error refusal =>
    have hrun : unchecked op (t, s) = .error refusal (t, s) := by rw [unchecked, h]; rfl
    simp only [bind, EStateM.bind, EStateM.run, hrun, andThen]
  | ok r =>
    have hrun : unchecked op (t, s) = .ok r.1 (r.2, s) := by rw [unchecked, h]; rfl
    simp only [bind, EStateM.bind, EStateM.run, hrun, andThen]

theorem run_lookUp_settled (find : Tables → Except Refusal α) (t : Tables) :
    (lookUp find).run t = settled t ((find t).map (·, t)) := by
  rw [run_lookUp]
  cases find t <;> rfl

theorem run_approve_bind (t : Tables) (change : Change) (s : σ)
    (next : Change → CheckedWriting σ α) :
    (approve check change >>= next).run (t, s) =
      checked check t change s fun s' => (next change).run (t, s') := by
  rcases hcheck : check t change s with ⟨refusal | _, s'⟩
  · have hrun : approve check change (t, s) = .error refusal (t, s') := by
      simp only [approve, hcheck]
    simp only [bind, EStateM.bind, EStateM.run, hrun, checked, hcheck]
  · have hrun : approve check change (t, s) = .ok change (t, s') := by
      simp only [approve, hcheck]
    simp only [bind, EStateM.bind, EStateM.run, hrun, checked, hcheck]

theorem run_creating {op : Writing α} {x : Except Refusal (α × Tables)}
    (h : op.run t = settled t x) (change : α → Change) (s : σ) :
    (creating check op change).run (t, s) =
      andThen (t, s) (fun a t' =>
        checked check t' (change a) s fun s' => .ok (change a) (t', s')) x := by
  rw [creating, run_unchecked_bind h]
  rfl

theorem run_updating {find : Tables → Except Refusal α} {op : Writing α}
    {x : Except Refusal (α × Tables)} (h : op.run t = settled t x)
    (change : α → α → Change) (s : σ) :
    (updating check find op change).run (t, s) =
      match find t with
      | .ok old =>
        andThen (t, s) (fun new t' =>
          checked check t' (change old new) s fun s' => .ok (change old new) (t', s')) x
      | .error refusal => .error refusal (t, s) := by
  rw [updating, run_unchecked_bind (run_lookUp_settled find t)]
  cases find t with
  | error refusal => rfl
  | ok old => exact run_creating check h (change old) s

theorem run_deleting {find : Tables → Except Refusal α} {op : Writing α}
    {x : Except Refusal (α × Tables)} (h : op.run t = settled t x) (change : α → Change)
    (s : σ) :
    (deleting check find op change).run (t, s) =
      match find t with
      | .ok a =>
        checked check t (change a) s fun s' =>
          andThen (t, s') (fun b t' => .ok (change b) (t', s')) x
      | .error refusal => .error refusal (t, s) := by
  rw [deleting, run_unchecked_bind (run_lookUp_settled find t)]
  cases find t with
  | error refusal => rfl
  | ok a =>
    refine (run_approve_bind check t (change a) s _).trans ?_
    congr 1
    funext s'
    exact run_unchecked_bind h s' _

/-- Attempting a mutation comes to what staging and checking it comes to.  If it is
refused by the check, then the tables are left as the check has seen them. -/
theorem run_attempt (t : Tables) (s : σ) (fresh : String) (m : Mutation) :
    (attempt check fresh m).run (t, s) =
      match t.stage fresh m with
      | .ok staged =>
        checked check staged.pending staged.change s fun s' =>
          .ok staged.change (staged.committed, s')
      | .error refusal => .error refusal (t, s) := by
  cases m with
  | createVpn request =>
    rw [attempt, run_creating check (run_createVpn t fresh request), Tables.stage]
    cases t.createVpn fresh request <;> rfl
  | updateVpn id changes =>
    rw [attempt, run_updating check (run_updateVpn t id changes), Tables.stage,
      Tables.updateVpn, Tables.getVpn]
    cases t.row id <;> rfl
  | deleteVpn id =>
    rw [attempt, run_deleting check (run_deleteVpn t id), Tables.stage, Tables.deleteVpn]
    cases t.getVpn id <;> rfl
  | createNetwork owner request =>
    rw [attempt, run_creating check (run_createNetwork t fresh owner request), Tables.stage]
    cases t.createNetwork fresh owner request <;> rfl
  | deleteNetwork owner id =>
    rw [attempt, run_deleting check (run_deleteNetwork t owner id), Tables.stage,
      Tables.deleteNetwork]
    cases t.getNetwork owner id <;> rfl
  | createRouter owner request =>
    rw [attempt, run_creating check (run_createRouter t fresh owner request), Tables.stage]
    cases t.createRouter fresh owner request <;> rfl
  | updateRouter owner id changes =>
    rw [attempt, run_updating check (run_updateRouter t owner id changes), Tables.stage,
      Tables.updateRouter]
    cases t.getRouter owner id <;> rfl
  | deleteRouter owner id =>
    rw [attempt, run_deleting check (run_deleteRouter t owner id), Tables.stage,
      Tables.deleteRouter]
    cases t.getRouter owner id <;> rfl
  | createPort owner request =>
    rw [attempt, run_creating check (run_createPort t fresh owner request), Tables.stage]
    cases t.createPort fresh owner request <;> rfl
  | updatePort owner id changes =>
    rw [attempt, run_updating check (run_updatePort t owner id changes), Tables.stage,
      Tables.updatePort]
    cases t.getPort owner id <;> rfl
  | deletePort owner id =>
    rw [attempt, run_deleting check (run_deletePort t owner id), Tables.stage,
      Tables.deletePort]
    cases t.getPort owner id <;> rfl

end Checked

end Writing

/-! ## Sequences of writes -/

namespace Tables

/-- The ids that some writes may draw are not in use when they are drawn. -/
def FreshAlong : Tables → List (String × Mutation) → Prop
  | _, [] => True
  | t, w :: writes => t.Fresh w.1 w.2 ∧ FreshAlong ((Writing.write w.1 w.2).after t) writes

instance : (t : Tables) → (writes : List (String × Mutation)) →
    Decidable (t.FreshAlong writes)
  | _, [] => inferInstanceAs (Decidable True)
  | t, w :: writes =>
    have := instDecidableFreshAlong ((Writing.write w.1 w.2).after t) writes
    inferInstanceAs (Decidable (t.Fresh w.1 w.2 ∧
      ((Writing.write w.1 w.2).after t).FreshAlong writes))

/-- A sequence of writes keeps what each of its mutations keeps, whatever ids are drawn. -/
theorem writeAll_induction {P : Tables → Prop} (h : P t)
    {writes : List (String × Mutation)}
    (hstages : ∀ (t : Tables) (w : String × Mutation) (staged : Staged), w ∈ writes → P t →
      t.Stages w.1 w.2 staged → P staged.committed) :
    P (t.writeAll writes) := by
  refine List.foldlRecOn writes _ h fun t ht w hw => ?_
  rcases Writing.write_cases t w.1 w.2 with ⟨staged, hstaged, hok⟩ | ⟨_, herror⟩
  · rw [Writing.after, hok]
    exact hstages t w staged hw ht hstaged
  · rw [Writing.after, herror]
    exact ht

/-- A sequence of writes keeps what every mutation with a fresh id keeps. -/
theorem writeAll_of_stages {P : Tables → Prop} (h : P t)
    (hstages : ∀ (t : Tables) (fresh : String) (m : Mutation) (staged : Staged), P t →
      t.Fresh fresh m → t.Stages fresh m staged → P staged.committed)
    {writes : List (String × Mutation)} (hfresh : t.FreshAlong writes) :
    P (t.writeAll writes) := by
  induction writes generalizing t with
  | nil => exact h
  | cons w writes ih =>
    obtain ⟨fresh, m⟩ := w
    obtain ⟨hnow, hlater⟩ := hfresh
    have hstep : P ((Writing.write fresh m).after t) := by
      rcases Writing.write_cases t fresh m with ⟨staged, hstaged, hok⟩ | ⟨_, herror⟩
      · rw [Writing.after, hok]
        exact hstages t fresh m staged h hnow hstaged
      · rw [Writing.after, herror]
        exact h
    exact ih hstep hlater

/-- After any sequence of writes to empty tables, whether they succeed or fail,
associations have owners, nothing is stored twice, and the stored VPNs have empty
lists of associated objects.  A write that fails leaves the tables as they were. -/
theorem sound_writeAll (writes : List (String × Mutation))
    (hfresh : FreshAlong {} writes) :
    (writeAll {} writes).Sound ∧ (writeAll {} writes).Bare ∧
      ∀ (t t' : Tables) (fresh : String) (m : Mutation) (refusal : Refusal),
        (Writing.write fresh m).run t = .error refusal t' → t' = t := by
  have hkept : (writeAll {} writes).Sound ∧ (writeAll {} writes).Bare := by
    refine writeAll_of_stages (P := fun t => t.Sound ∧ t.Bare) ⟨sound_empty, nofun⟩ ?_ hfresh
    intro t fresh m staged h hnow hstaged
    exact ⟨hstaged.sound h.1 hnow, hstaged.bare h.2⟩
  exact ⟨hkept.1, hkept.2, fun _ _ _ _ _ herror => Writing.eq_of_write_error herror⟩

/-- Two VPNs that share a network and a router, and writes that fail: an id that is
taken, an association that is there already, and one of a VPN that is not. -/
def sharedNetwork : List (String × Mutation) := [
  ("u1", .createVpn { tenant := "tenant" }),
  ("u2", .createVpn { tenant := "tenant" }),
  ("u3", .createVpn { id := some "u1", tenant := "tenant" }),
  ("u1", .createNetwork "u1" { target := "net", terms := () }),
  ("u2", .createNetwork "u1" { target := "net", terms := () }),
  ("u2", .createNetwork "u2" { target := "net", terms := () }),
  ("u1", .createRouter "u2" { target := "router", terms := {} }),
  ("u2", .createRouter "gone" { target := "router", terms := {} }),
  ("u2", .createPort "u1" { target := "port", terms := {} }),
  ("u3", .updateVpn "u2" { name := some "renamed" }),
  ("u3", .deleteVpn "u1")]

theorem sound_writeAll_sharedNetwork :
    let t := writeAll {} sharedNetwork
    let taken := Mutation.createVpn { id := some "u2", tenant := "tenant" }
    FreshAlong {} sharedNetwork ∧ t.Sound ∧ t.Bare ∧
      t.vpnIds = ["u2"] ∧ t.networks.map (·.id) = ["u2"] ∧
      ∃ refusal t', (Writing.write "u3" taken).run t = .error refusal t' ∧ t' = t := by
  intro t taken
  have hfresh : FreshAlong {} sharedNetwork := by decide
  obtain ⟨hsound, hbare, hfailed⟩ := sound_writeAll sharedNetwork hfresh
  have herror : (Writing.write "u3" taken).run t = .error (.conflict (.idTaken "bgpvpn" "u2")) t := rfl
  exact ⟨hfresh, hsound, hbare, by decide, by decide, _, t, herror,
    hfailed t t "u3" taken _ herror⟩

end Tables
end VpnAttach
