import VpnAttach.Lifecycle.Protocol
import VpnAttach.Proofs.Tables.Request
import VpnAttach.Scenario.Samples

/-!
# Every mutation keeps the protocol of hooks

A mutation is checked on a copy of the tables, which takes their place if the check
passes (`Writing.transact_attempt`).  So performing a mutation is going about it step by
step (`Lifecycle.perform_eq_performInPlace`), whatever the hooks do.

`Tables.Stages.tells` says that the change which the hooks are shown is the one that was
asked for and is made.  The tables have to be sound for that: a new VPN must not find
associations that are there already, and an association must be the only one with its
id, or another one would be found after it was removed.
-/

namespace VpnAttach

/-! ## Step by step -/

namespace Writing

variable {σ : Type}

/-- A mutation is attempted on a copy of the tables.  These take its place if the
mutation can be worked out and passes the check. -/
theorem transact_attempt (check : Tables → Change → σ → Except Refusal Unit × σ)
    (t : Tables) (s : σ) (fresh : String) (m : Mutation) :
    transact (attempt check fresh m) t s =
      match t.stage fresh m with
      | .ok staged =>
        match check staged.pending staged.change s with
        | (.ok (), s') => (.ok staged.change, staged.committed, s')
        | (.error refusal, s') => (.error refusal, t, s')
      | .error refusal => (.error refusal, t, s) := by
  rw [transact, Tables.transaction, run_attempt]
  cases hstage : t.stage fresh m with
  | error refusal => rfl
  | ok staged =>
    simp only [checked]
    rcases hcheck : check staged.pending staged.change s with ⟨refusal | _, s'⟩
    · rfl
    · rfl

end Writing

namespace Lifecycle

variable {σ : Type}

/-- Performing a mutation is going about it step by step. -/
theorem perform_eq_performInPlace (hooks : Hooks σ) (fresh : String) (t : Tables)
    (m : Mutation) (s : σ) :
    perform hooks fresh t m s = performInPlace hooks fresh t m s := by
  rw [performInPlace, Writing.transact_attempt, perform]
  cases hstage : t.stage fresh m with
  | error refusal => rfl
  | ok staged =>
    rcases hcheck : hooks.check staged.pending staged.change s with ⟨refusal | _, s'⟩
    · simp only [hcheck]
    · simp only [hcheck]

/-- Noting the calls of hooks changes nothing else. -/
theorem map_perform_noting (hooks : Hooks σ) (fresh : String) (t : Tables) (m : Mutation)
    (s : σ) (calls : List HookCall) :
    (perform hooks.noting fresh t m (s, calls)).map (·.1) = perform hooks fresh t m s := by
  cases hstage : t.stage fresh m with
  | error refusal => simp only [perform, hstage]; rfl
  | ok staged =>
    rcases hcheck : hooks.check staged.pending staged.change s with ⟨refusal | _, s'⟩
    · simp only [perform, hstage, Hooks.noting, hcheck]
      rfl
    · simp only [perform, hstage, Hooks.noting, hcheck]
      rfl

end Lifecycle

/-! ## What a change tells -/

namespace Change.Tells

variable {change : Change} {fresh : String} {m : Mutation} {before after : Tables}
  {old : Reply}

theorem of_creation (haction : change.action = m.action) (hdeed : m.deed = .create)
    (hquery : m.query? = none)
    (hasked : m.deed ≠ .delete → m.AsksFor fresh before change.reply)
    (hafter : change.query.answer after = .ok change.reply) :
    change.Tells fresh m before after change.reply where
  action := haction
  addressed := by simp [hquery]
  found := fun hne => (hne hdeed).elim
  asked := hasked
  stored := fun _ => ⟨rfl, hafter⟩
  removed := by simp [hdeed]
  gone := by simp [hdeed]

theorem of_update (haction : change.action = m.action) (hdeed : m.deed = .update)
    (hquery : m.query? = some change.query) (hold : change.before? = some old)
    (hasked : m.deed ≠ .delete → m.AsksFor fresh before change.reply)
    (hbefore : change.query.answer before = .ok old)
    (hafter : change.query.answer after = .ok change.reply) :
    change.Tells fresh m before after change.reply where
  action := haction
  addressed := by simp [hquery]
  found := fun _ => ⟨old, hold, hbefore⟩
  asked := hasked
  stored := fun _ => ⟨rfl, hafter⟩
  removed := by simp [hdeed]
  gone := by simp [hdeed]

theorem of_deletion (haction : change.action = m.action) (hdeed : m.deed = .delete)
    (hquery : m.query? = some change.query) (hreply : change.reply = .nothing)
    (hold : change.before? = some old) (hbefore : change.query.answer before = .ok old)
    (hgone : m.deed = .delete →
      change.query.answer after = .error (.notFound m.objectType.phrase change.objectId)) :
    change.Tells fresh m before after old where
  action := haction
  addressed := by simp [hquery]
  found := fun _ => ⟨old, hold, hbefore⟩
  asked := fun hne => (hne hdeed).elim
  stored := fun hne => (hne hdeed).elim
  removed := fun _ => ⟨hold, hreply⟩
  gone := hgone

end Change.Tells

namespace Tables

variable {t : Tables} {fresh : String} {m : Mutation} {staged : Staged} {id : String}

theorem answer_getVpn {vpn : Vpn} (h : t.vpn? id = some vpn) :
    (Query.getVpn id).answer t = .ok (.vpn vpn) := by
  rw [Query.answer, getVpn_eq_ok.2 h]
  rfl

/-- An association is found with its VPN. -/
theorem find_of_row {τ : Type} (kind : Attachment) {rows : List (Association τ)}
    {row : Vpn} {a : Association τ} {owner : String} (hrow : t.row? owner = some row)
    (ha : rows.find? (Rows.isAt owner id) = some a) :
    (do let _ ← t.row owner; Rows.find kind owner id rows) = .ok a := by
  rw [row_eq_ok.2 hrow, Rows.find_eq_ok.2 ha]
  rfl

/-- An association that was removed is not found any more. -/
theorem find_of_remove {τ : Type} (kind : Attachment) {rows : List (Association τ)}
    {row : Vpn} {a : Association τ} {owner : String} (hrow : t.row? owner = some row)
    (hrows : Rows.Unique rows) (ha : rows.find? (Rows.isAt owner id) = some a) :
    (do let _ ← t.row owner; Rows.find kind owner id (Rows.remove owner id rows)) =
      .error (.notFound kind.phrase id) := by
  rw [row_eq_ok.2 hrow, Rows.find, Rows.find?_remove_self hrows.ids ha]
  rfl

/-- The association that was made for a VPN is found under it. -/
theorem find?_append_make {τ : Type} {kind : Attachment} {rows : List (Association τ)}
    {row : Vpn} {request : AssociationRequest τ} {a : Association τ} {owner : String}
    (hrow : t.row? owner = some row)
    (ha : Rows.make kind row fresh request rows = .ok a)
    (hfresh : request.id.isNone = true → fresh ∉ rows.map (·.id)) :
    t.row? a.owner = some row ∧
      (rows ++ [a]).find? (Rows.isAt a.owner a.id) = some a := by
  obtain ⟨-, hid, -⟩ := Rows.make_eq_ok ha
  obtain ⟨howner, -⟩ := owner_of_make hrow ha
  rw [howner]
  exact ⟨hrow, howner ▸ Rows.find?_append_self (Rows.not_mem_of_chooseId hid hfresh)⟩

/-- What a deletion is about is not found any more. -/
theorem Stages.gone (hm : t.Stages fresh m staged) (ht : t.Sound) (hdeed : m.deed = .delete) :
    staged.change.query.answer staged.committed =
      .error (.notFound m.objectType.phrase staged.change.objectId) := by
  cases hm with
  | @deleteVpn _ row hrow =>
    obtain rfl := id_of_row? hrow
    have hnone := row_of_not_mem (not_mem_vpnIds_without t row.id)
    simp only [Change.query, Query.answer, getVpn, fill_id, hnone]
    rfl
  | deleteNetwork hrow ha =>
    obtain ⟨-, rfl, rfl⟩ := Rows.mem_of_find? ha
    have hnone := find_of_remove .network hrow ht.uniqueNetworks ha
    exact congrArg (Except.map Reply.network) hnone
  | deleteRouter hrow ha =>
    obtain ⟨-, rfl, rfl⟩ := Rows.mem_of_find? ha
    have hnone := find_of_remove .router hrow ht.uniqueRouters ha
    exact congrArg (Except.map Reply.router) hnone
  | deletePort hrow ha =>
    obtain ⟨-, rfl, rfl⟩ := Rows.mem_of_find? ha
    have hnone := find_of_remove .port hrow ht.uniquePorts ha
    exact congrArg (Except.map Reply.port) hnone
  | _ => cases hdeed

/-- The change that is staged tells what its mutation does. -/
theorem Stages.tells (hm : t.Stages fresh m staged) (ht : t.Sound)
    (hfresh : t.Fresh fresh m) :
    staged.change.Tells fresh m t staged.committed staged.change.object := by
  have hasked := hm.asksFor
  have hgone := hm.gone ht
  cases hm with
  | @createVpn request id hid =>
    -- Were the id in use, the VPN that has it already would be found instead.
    have hnew : id ∉ t.vpnIds := Rows.not_mem_of_chooseId hid hfresh
    have hafter := answer_getVpn (vpn?_createVpn ht.toOwned request hnew)
    exact .of_creation rfl rfl rfl hasked hafter
  | @updateVpn id changes row hrow =>
    obtain rfl := id_of_row? hrow
    have hbefore := answer_getVpn (vpn?_of_row? hrow)
    have hrow' : row? { t with vpns := updateRow row.id changes t.vpns } row.id =
        some (changes.apply row) := row?_updateVpn hrow
    have hafter := answer_getVpn (vpn?_of_row? hrow')
    exact .of_update rfl rfl rfl rfl hasked hbefore hafter
  | deleteVpn hrow =>
    obtain rfl := id_of_row? hrow
    have hbefore := answer_getVpn (vpn?_of_row? hrow)
    exact .of_deletion rfl rfl rfl rfl rfl hbefore hgone
  | createNetwork hrow ha =>
    obtain ⟨howner, hfind⟩ := find?_append_make hrow ha hfresh
    have hafter := congrArg (Except.map Reply.network) (find_of_row .network howner hfind)
    exact .of_creation rfl rfl rfl hasked hafter
  | deleteNetwork hrow ha =>
    obtain ⟨-, rfl, rfl⟩ := Rows.mem_of_find? ha
    have hbefore := congrArg (Except.map Reply.network) (find_of_row .network hrow ha)
    exact .of_deletion rfl rfl rfl rfl rfl hbefore hgone
  | createRouter hrow ha =>
    obtain ⟨howner, hfind⟩ := find?_append_make hrow ha hfresh
    have hafter := congrArg (Except.map Reply.router) (find_of_row .router howner hfind)
    exact .of_creation rfl rfl rfl hasked hafter
  | @updateRouter _ _ changes _ _ hrow ha =>
    obtain ⟨-, rfl, rfl⟩ := Rows.mem_of_find? ha
    have hbefore := congrArg (Except.map Reply.router) (find_of_row .router hrow ha)
    have hfind := Rows.find?_modify_self changes.apply ha
    have hafter := congrArg (Except.map Reply.router) (find_of_row .router hrow hfind)
    exact .of_update rfl rfl rfl rfl hasked hbefore hafter
  | deleteRouter hrow ha =>
    obtain ⟨-, rfl, rfl⟩ := Rows.mem_of_find? ha
    have hbefore := congrArg (Except.map Reply.router) (find_of_row .router hrow ha)
    exact .of_deletion rfl rfl rfl rfl rfl hbefore hgone
  | createPort hrow ha =>
    obtain ⟨howner, hfind⟩ := find?_append_make hrow ha hfresh
    have hafter := congrArg (Except.map Reply.port) (find_of_row .port howner hfind)
    exact .of_creation rfl rfl rfl hasked hafter
  | @updatePort _ _ changes _ _ hrow ha =>
    obtain ⟨-, rfl, rfl⟩ := Rows.mem_of_find? ha
    have hbefore := congrArg (Except.map Reply.port) (find_of_row .port hrow ha)
    have hfind := Rows.find?_modify_self changes.apply ha
    have hafter := congrArg (Except.map Reply.port) (find_of_row .port hrow hfind)
    exact .of_update rfl rfl rfl rfl hasked hbefore hafter
  | deletePort hrow ha =>
    obtain ⟨-, rfl, rfl⟩ := Rows.mem_of_find? ha
    have hbefore := congrArg (Except.map Reply.port) (find_of_row .port hrow ha)
    exact .of_deletion rfl rfl rfl rfl rfl hbefore hgone

/-- A check sees the tables in which the change is pending. -/
theorem Stages.pending_eq (hm : t.Stages fresh m staged) :
    staged.pending = m.pending t staged.committed := by
  cases hm <;> rfl

end Tables

/-! ## Mutations -/

namespace Lifecycle

variable {σ : Type} {t : Tables} {fresh : String} {m : Mutation}

/-- The tables that mutations lead to, whatever the hooks do.  The ids for objects that
are created without one are not in use. -/
inductive Stored : Tables → Prop where
  | empty : Stored {}
  | perform {σ : Type} {t : Tables} (stored : Stored t) (hooks : Hooks σ) (state : σ)
    {fresh : String} {m : Mutation} (unused : t.Fresh fresh m) :
    Stored (perform hooks fresh t m state).tables

/-- Whatever the hooks do, the tables stay as they are or become those that were
staged. -/
theorem tables_perform_cases (hooks : Hooks σ) (fresh : String) (t : Tables) (m : Mutation)
    (state : σ) :
    (perform hooks fresh t m state).tables = t ∨
      ∃ staged, t.Stages fresh m staged ∧
        (perform hooks fresh t m state).tables = staged.committed := by
  cases hstage : t.stage fresh m with
  | error refusal => exact Or.inl (by simp only [perform, hstage, refused])
  | ok staged =>
    rcases hcheck : hooks.check staged.pending staged.change state with ⟨refusal | _, state'⟩
    · exact Or.inl (by simp only [perform, hstage, hcheck, refused])
    · refine Or.inr ⟨staged, Tables.stages_of_stage hstage, ?_⟩
      simp only [perform, hstage, hcheck]

theorem Stored.sound (h : Stored t) : t.Sound := by
  induction h with
  | empty => exact Tables.sound_empty
  | @perform _ t _ hooks state fresh m unused ih =>
    rcases tables_perform_cases hooks fresh t m state with hkept | ⟨staged, hstages, hdone⟩
    · rw [hkept]
      exact ih
    · rw [hdone]
      exact hstages.sound ih unused

/-- On sound tables every mutation goes one of the ways of the protocol. -/
theorem protocol_of_sound (hooks : Hooks σ) (state : σ) (ht : t.Sound)
    (hfresh : t.Fresh fresh m) :
    let run := perform hooks.noting fresh t m (state, [])
    Protocol hooks state fresh t m run.answer run.tables run.hooks.1 run.hooks.2 := by
  intro run
  cases hstage : t.stage fresh m with
  | error refusal =>
    have hrun : run = refused t (state, []) m refusal := by simp only [run, perform, hstage]
    rw [hrun]
    exact .failed (by rw [Writing.run_write, hstage]; rfl)
  | ok staged =>
    have hstages := Tables.stages_of_stage hstage
    have hwritten : (Writing.write fresh m).run t =
        .ok staged.change.object staged.committed := by
      rw [Writing.run_write, hstage]
      rfl
    have htells := hstages.tells ht hfresh
    rcases hcheck : hooks.check staged.pending staged.change state with ⟨refusal | _, state'⟩
    · have hrun : run =
          refused t (state', [.check staged.pending staged.change]) m refusal := by
        simp only [run, perform, hstage, Hooks.noting, hcheck, List.nil_append]
      -- What was staged as pending is what the protocol lets the check see.
      rw [hstages.pending_eq] at hcheck hrun
      rw [hrun]
      exact .rejected hwritten htells hcheck
    · rcases hannounce : hooks.announce staged.committed staged.change state' with
        ⟨delivery, state''⟩
      have hrun : run.answer = .ok staged.change.reply ∧ run.tables = staged.committed ∧
          run.hooks = (state'', [.check staged.pending staged.change,
            .announce staged.committed staged.change]) := by
        simp only [run, perform, hstage, Hooks.noting, hcheck, hannounce, List.nil_append,
          List.cons_append, and_self]
      obtain ⟨hanswer, htables, hhooks⟩ := hrun
      rw [hstages.pending_eq] at hcheck hhooks
      rw [hanswer, htables, hhooks]
      exact .accepted hwritten htells hcheck hannounce

/-- Whatever the hooks do, every mutation of stored tables goes one of the ways of the
protocol.  Noting the calls changes nothing, and neither does going about the mutation
step by step. -/
theorem protocol_perform (hooks : Hooks σ) (state : σ) (ht : Stored t)
    (hfresh : t.Fresh fresh m) :
    let run := perform hooks.noting fresh t m (state, [])
    Protocol hooks state fresh t m run.answer run.tables run.hooks.1 run.hooks.2 ∧
      run.map (·.1) = perform hooks fresh t m state ∧
      perform hooks fresh t m state = performInPlace hooks fresh t m state :=
  ⟨protocol_of_sound hooks state ht.sound hfresh,
    map_perform_noting hooks fresh t m state [],
    perform_eq_performInPlace hooks fresh t m state⟩

/-- Hooks that reject deletions, count what they are asked, and reach nobody. -/
def stubborn : Hooks Nat where
  check _ change asked :=
    (if change.reply = .nothing then .error (.unsupported .externalNetwork) else .ok (),
      asked + 1)
  announce _ _ asked := (.error (.transport "push" "nobody is there"), asked)

/-- The tables with a VPN that is associated with a network. -/
def vpnOnNetwork : Tables :=
  (perform Hooks.idle "u2"
    (perform Hooks.idle "u1" {} (.createVpn (Scenario.vpn .l3 "vpn" [])) ()).tables
    (.createNetwork "vpn" (Scenario.association "a" "net" ())) ()).tables

theorem stored_vpnOnNetwork : Stored vpnOnNetwork :=
  .perform (.perform .empty .idle () (by decide)) .idle () (by decide)

/-- A VPN is given a new name, in vain deleted, in vain created again, and deleted after
all. -/
theorem protocol_perform_stubborn :
    let t := vpnOnNetwork
    let vpn : Vpn :=
      { id := "vpn", tenant := Scenario.tenant, name := "vpn-vpn", networks := ["net"] }
    let renamed : Vpn := { vpn with name := "renamed" }
    let rename := Mutation.updateVpn "vpn" { name := some "renamed" }
    let delete := Mutation.deleteVpn "vpn"
    let again := Mutation.createVpn (Scenario.vpn .l3 "vpn" [])
    let run m := perform stubborn.noting "u3" t m (0, [])
    let deleted := perform Hooks.idle.noting "u3" t delete ((), [])
    (∀ m ∈ [rename, delete, again], Protocol stubborn 0 "u3" t m (run m).answer
      (run m).tables (run m).hooks.1 (run m).hooks.2) ∧
      (run rename).answer = .ok (.vpn renamed) ∧
      (run rename).tables.getVpn "vpn" = .ok renamed ∧
      (run rename).hooks.2 = [.check (run rename).tables (.vpnUpdated vpn renamed),
        .announce (run rename).tables (.vpnUpdated vpn renamed)] ∧
      (run delete).answer = .error (.unsupported .externalNetwork) ∧
      (run delete).tables = t ∧ (run delete).hooks.2 = [.check t (.vpnDeleted vpn)] ∧
      (run again).answer.isOk = false ∧ (run again).hooks.2 = [] ∧
      Protocol Hooks.idle () "u3" t delete deleted.answer deleted.tables deleted.hooks.1
        deleted.hooks.2 ∧
      deleted.answer = .ok .nothing ∧
      deleted.tables.getVpn "vpn" = .error (.notFound "bgpvpn" "vpn") ∧
      deleted.tables.vpnsOnNetwork "net" = [] ∧
      deleted.hooks.2 = [.check t (.vpnDeleted vpn),
        .announce deleted.tables (.vpnDeleted vpn)] := by
  intro t vpn renamed rename delete again run deleted
  have hfresh : ∀ m ∈ [rename, delete, again], t.Fresh "u3" m := by decide
  refine ⟨fun m hm => ?_, rfl, rfl, by decide, rfl, by decide, by decide, rfl, rfl, ?_, rfl, rfl,
    rfl, by decide⟩
  · exact (protocol_perform stubborn 0 stored_vpnOnNetwork (hfresh m hm)).1
  · exact (protocol_perform Hooks.idle () stored_vpnOnNetwork (hfresh delete (by decide))).1

end Lifecycle
end VpnAttach
