import VpnAttach.Proofs.Tables.Writing
import VpnAttach.Tables.Request

/-!
# Mutations come to what they ask for

The object that a creation or an update is staged with is the one that was asked for
(`Tables.Stages.asksFor`), value by value.
-/

namespace VpnAttach

variable {τ : Type}

theorem VpnRequest.gives_toVpn {request : VpnRequest} {fresh id : String}
    (hid : id = request.id.getD fresh) : request.Gives fresh (request.toVpn id) := by
  constructor
  case id => exact hid
  all_goals rfl

/-- Giving a VPN new values leaves its associations as they are. -/
theorem VpnUpdate.gives_fill (changes : VpnUpdate) (t : Tables) (row : Vpn) :
    changes.Gives (t.fill row) (t.fill (changes.apply row)) := by
  constructor <;> rfl

theorem Rows.gives_of_make {kind : Attachment} {vpn : Vpn} {fresh : String}
    {request : AssociationRequest τ} {rows : List (Association τ)} {a : Association τ}
    (ha : make kind vpn fresh request rows = .ok a) :
    request.Gives fresh vpn.id vpn.tenant a := by
  obtain ⟨-, hid, hshape⟩ := make_eq_ok ha
  rw [hshape]
  exact ⟨eq_of_chooseId hid, rfl, rfl, rfl, rfl⟩

theorem Association.sameButTerms (a : Association τ) (terms : τ) :
    a.SameButTerms { a with terms := terms } := by
  constructor <;> rfl

theorem RouterTermsUpdate.gives_apply (changes : RouterTermsUpdate) (a : RouterAssociation) :
    changes.Gives a { a with terms := changes.apply a.terms } :=
  ⟨a.sameButTerms _, rfl⟩

theorem PortTermsUpdate.gives_apply (changes : PortTermsUpdate) (a : PortAssociation) :
    changes.Gives a { a with terms := changes.apply a.terms } :=
  ⟨a.sameButTerms _, rfl, rfl⟩

namespace Tables

variable {t : Tables} {fresh : String} {m : Mutation} {staged : Staged}

/-- A creation or an update comes to the object that it asks for. -/
theorem Stages.asksFor (hm : t.Stages fresh m staged) (hdeed : m.deed ≠ .delete) :
    m.AsksFor fresh t staged.change.object := by
  cases hm with
  | createVpn hid => exact .createVpn (VpnRequest.gives_toVpn (Rows.eq_of_chooseId hid))
  | updateVpn hrow =>
    exact .updateVpn (getVpn_eq_ok.2 (vpn?_of_row? hrow)) (VpnUpdate.gives_fill _ t _)
  | createNetwork hrow ha =>
    obtain rfl := id_of_row? hrow
    exact .createNetwork (getVpn_eq_ok.2 (vpn?_of_row? hrow)) (Rows.gives_of_make ha)
  | createRouter hrow ha =>
    obtain rfl := id_of_row? hrow
    exact .createRouter (getVpn_eq_ok.2 (vpn?_of_row? hrow)) (Rows.gives_of_make ha)
  | updateRouter hrow ha =>
    exact .updateRouter (getRouter_eq_ok.2 ⟨⟨_, hrow⟩, ha⟩) (RouterTermsUpdate.gives_apply _ _)
  | createPort hrow ha =>
    obtain rfl := id_of_row? hrow
    exact .createPort (getVpn_eq_ok.2 (vpn?_of_row? hrow)) (Rows.gives_of_make ha)
  | updatePort hrow ha =>
    exact .updatePort (getPort_eq_ok.2 ⟨⟨_, hrow⟩, ha⟩) (PortTermsUpdate.gives_apply _ _)
  | deleteVpn _ | deleteNetwork _ _ | deleteRouter _ _ | deletePort _ _ =>
    exact (hdeed rfl).elim

end Tables
end VpnAttach
