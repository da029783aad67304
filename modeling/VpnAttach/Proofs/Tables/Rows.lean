import Mathlib.Data.List.Nodup
import VpnAttach.Tables.Rows

/-!
# Laws of the association tables

`Joined rows owner target` says that some association ties a VPN to a target.
The rules ask the tables for little else, so every operation on rows has a law
that says what it does to `Joined`, and a law that says which associations
with a target it leaves alone.

There are three invariants of a table.  `Owned` says that every owner is among
the stored VPNs, `Once` that no pair of owner and target occurs twice, and
`Unique` that no id does either.
-/

namespace VpnAttach.Rows

variable {τ : Type} {rows : List (Association τ)} {owner target id : String}
  {a : Association τ} {change : τ → τ}

/-- Some association ties the VPN `owner` to `target`. -/
def Joined (rows : List (Association τ)) (owner target : String) : Prop :=
  ∃ a ∈ rows, a.owner = owner ∧ a.target = target

instance (rows : List (Association τ)) (owner target : String) :
    Decidable (Joined rows owner target) :=
  inferInstanceAs (Decidable (∃ a ∈ rows, a.owner = owner ∧ a.target = target))

@[simp] theorem isAt_eq_true :
    isAt owner id a = true ↔ a.owner = owner ∧ a.id = id := by
  simp [isAt]

theorem mem_of_find? (h : rows.find? (isAt owner id) = some a) :
    a ∈ rows ∧ a.owner = owner ∧ a.id = id := by
  have hat := List.find?_some h
  exact ⟨List.mem_of_find?_eq_some h, isAt_eq_true.1 hat⟩

/-- Removing takes exactly the association that is found. -/
theorem remove_split (h : rows.find? (isAt owner id) = some a) :
    ∃ before after, rows = before ++ a :: after ∧
      remove owner id rows = before ++ after := by
  obtain ⟨hat, before, after, rfl, hbefore⟩ := List.find?_eq_some_iff_append.1 h
  refine ⟨before, after, rfl, ?_⟩
  have hnone : ∀ b ∈ before, ¬isAt owner id b = true := by
    simpa [-isAt_eq_true] using hbefore
  rw [remove, List.eraseP_append_right _ hnone, List.eraseP_cons_of_pos hat]

/-- Modifying changes exactly the association that is found. -/
theorem modify_split (h : rows.find? (isAt owner id) = some a) :
    ∃ before after, rows = before ++ a :: after ∧
      modify owner id change rows =
        before ++ { a with terms := change a.terms } :: after := by
  induction rows with
  | nil => cases h
  | cons b rows ih =>
    rw [List.find?_cons] at h
    rw [modify]
    split at h
    · rename_i hat
      obtain rfl := Option.some.inj h
      exact ⟨[], rows, rfl, by rw [if_pos hat, List.nil_append]⟩
    · rename_i hat
      obtain ⟨before, after, hrows, hmodify⟩ := ih h
      refine ⟨b :: before, after, by rw [hrows, List.cons_append], ?_⟩
      rw [if_neg (by simp [hat]), hmodify, List.cons_append]

/-- What is stored is found under its owner and id. -/
theorem exists_find? (ha : a ∈ rows) (hat : a.owner = owner ∧ a.id = id) :
    ∃ b, rows.find? (isAt owner id) = some b := by
  rw [← Option.isSome_iff_exists, List.find?_isSome]
  exact ⟨a, ha, isAt_eq_true.2 hat⟩

/-- A new association is found if its id was not in use. -/
theorem find?_append_self (hnew : a.id ∉ rows.map (·.id)) :
    (rows ++ [a]).find? (isAt a.owner a.id) = some a := by
  have hnone : rows.find? (isAt a.owner a.id) = none := by
    rw [List.find?_eq_none]
    intro b hb hat
    have hid : b.id = a.id := (isAt_eq_true.1 hat).2
    exact hnew (hid ▸ List.mem_map_of_mem hb)
  rw [List.find?_append, hnone, Option.none_or]
  exact List.find?_cons_of_pos (isAt_eq_true.2 ⟨rfl, rfl⟩)

/-- An association is found with its new terms. -/
theorem find?_modify_self (change : τ → τ) (h : rows.find? (isAt owner id) = some a) :
    (modify owner id change rows).find? (isAt owner id) =
      some { a with terms := change a.terms } := by
  induction rows with
  | nil => cases h
  | cons b rows ih =>
    rw [modify]
    by_cases hat : isAt owner id b = true
    · rw [List.find?_cons_of_pos hat] at h
      obtain rfl := Option.some.inj h
      have hnew : isAt owner id { b with terms := change b.terms } = true := hat
      rw [if_pos hat, List.find?_cons_of_pos hnew]
    · rw [List.find?_cons_of_neg hat] at h
      rw [if_neg hat, List.find?_cons_of_neg hat]
      exact ih h

/-- Where ids are unique, an association is found under its owner and id. -/
theorem find?_isAt_eq_some (hids : (rows.map (·.id)).Nodup) :
    rows.find? (isAt owner id) = some a ↔ a ∈ rows ∧ a.owner = owner ∧ a.id = id := by
  constructor
  · exact mem_of_find?
  · intro h
    obtain ⟨ha, hat⟩ := h
    obtain ⟨b, hb⟩ := exists_find? ha hat
    obtain ⟨hmem, -, hid⟩ := mem_of_find? hb
    have hsame : b = a := List.inj_on_of_nodup_map hids hmem ha (hid.trans hat.2.symm)
    rw [hb, hsame]

/-- Where ids are unique, nothing is left under the owner and id of what was removed. -/
theorem not_at_of_mem_remove {b : Association τ} (hids : (rows.map (·.id)).Nodup)
    (hfind : rows.find? (isAt owner id) = some b) (ha : a ∈ remove owner id rows) :
    ¬(a.owner = owner ∧ a.id = id) := by
  obtain ⟨before, after, rfl, hremove⟩ := remove_split hfind
  obtain ⟨-, -, hb⟩ := mem_of_find? hfind
  rw [List.map_append, List.map_cons, List.nodup_middle, ← List.map_append] at hids
  intro hat
  have hid : b.id = a.id := hb.trans hat.2.symm
  rw [hremove] at ha
  refine (List.nodup_cons.1 hids).1 ?_
  rw [hid]
  exact List.mem_map_of_mem ha

theorem find?_remove_self (hids : (rows.map (·.id)).Nodup)
    (hfind : rows.find? (isAt owner id) = some a) :
    (remove owner id rows).find? (isAt owner id) = none :=
  List.find?_eq_none.2 fun _ hb hat => not_at_of_mem_remove hids hfind hb (isAt_eq_true.1 hat)

/-! ## Looking at the rows of an owner or a target -/

@[simp] theorem mem_targetsOf : target ∈ targetsOf owner rows ↔ Joined rows owner target := by
  simp only [targetsOf, ownedBy, Joined, List.mem_map, List.mem_filter,
    beq_iff_eq]
  grind

/-- The targets of a VPN in terms of the pairs of owner and target. -/
theorem targetsOf_eq (owner : String) (rows : List (Association τ)) :
    targetsOf owner rows =
      ((rows.map fun a => (a.owner, a.target)).filter (·.1 == owner)).map (·.2) := by
  simp [targetsOf, ownedBy, List.filter_map, Function.comp_def]

@[simp] theorem mem_map_owner_onTarget :
    owner ∈ (onTarget target rows).map (·.owner) ↔ Joined rows owner target := by
  simp only [onTarget, Joined, List.mem_map, List.mem_filter, beq_iff_eq]
  grind

/-! ## New associations -/

/-- A chosen id was asked for and is free, or it is the fresh one. -/
theorem chooseId_eq_ok {taken : List String} {object fresh : String}
    {requested : Option String}
    (h : chooseId taken object fresh requested = .ok id) :
    (requested = some id ∧ id ∉ taken) ∨ (requested = none ∧ id = fresh) := by
  cases requested with
  | none => exact Or.inr ⟨rfl, (Except.ok.inj h).symm⟩
  | some wanted =>
    rw [chooseId] at h
    split at h
    · cases h
    · rename_i hfree
      obtain rfl := Except.ok.inj h
      exact Or.inl ⟨rfl, hfree⟩

theorem eq_of_chooseId {taken : List String} {object fresh : String}
    {requested : Option String}
    (h : chooseId taken object fresh requested = .ok id) : id = requested.getD fresh := by
  rcases chooseId_eq_ok h with ⟨rfl, -⟩ | ⟨rfl, rfl⟩
  · rfl
  · rfl

theorem not_mem_of_chooseId {taken : List String} {object fresh : String}
    {requested : Option String}
    (h : chooseId taken object fresh requested = .ok id)
    (hfresh : requested.isNone = true → fresh ∉ taken) : id ∉ taken := by
  rcases chooseId_eq_ok h with ⟨_, hfree⟩ | ⟨rfl, rfl⟩
  · exact hfree
  · exact hfresh rfl

/-- What is known of a new association: it is the one asked for, its owner was
not tied to its target before, and its id was chosen. -/
theorem make_eq_ok {kind : Attachment} {vpn : Vpn} {fresh : String}
    {request : AssociationRequest τ}
    (h : make kind vpn fresh request rows = .ok a) :
    ¬Joined rows vpn.id request.target ∧
      chooseId (rows.map (·.id)) kind.phrase fresh request.id = .ok a.id ∧
      a = ⟨a.id, vpn.id, request.target, request.tenant.getD vpn.tenant,
        request.terms⟩ := by
  rw [make] at h
  split at h
  · cases h
  · rename_i hnew
    cases hid : chooseId (rows.map (·.id)) kind.phrase fresh request.id with
    | error refusal => rw [hid] at h; cases h
    | ok id =>
      rw [hid] at h
      obtain rfl := Except.ok.inj h
      refine ⟨?_, rfl, rfl⟩
      simpa [Joined] using hnew

/-- There is room for the association that `request` asks for: the VPN `owner` is
not tied to the target yet, and the id is free if one is asked for. -/
def Fits (rows : List (Association τ)) (owner : String)
    (request : AssociationRequest τ) : Prop :=
  ¬Joined rows owner request.target ∧ ∀ id ∈ request.id, id ∉ rows.map (·.id)

instance (rows : List (Association τ)) (owner : String) (request : AssociationRequest τ) :
    Decidable (Fits rows owner request) :=
  inferInstanceAs (Decidable (¬Joined rows owner request.target ∧
    ∀ id ∈ request.id, id ∉ rows.map (·.id)))

/-- Where there is room the association is made. -/
theorem make_of_fits (kind : Attachment) {vpn : Vpn} (fresh : String)
    {request : AssociationRequest τ} (h : Fits rows vpn.id request) :
    make kind vpn fresh request rows =
      .ok ⟨request.id.getD fresh, vpn.id, request.target,
        request.tenant.getD vpn.tenant, request.terms⟩ := by
  obtain ⟨hnew, hfree⟩ := h
  have hid : chooseId (rows.map (·.id)) kind.phrase fresh request.id =
      .ok (request.id.getD fresh) := by
    cases hwanted : request.id with
    | none => rfl
    | some id => rw [chooseId, if_neg (hfree id hwanted), Option.getD_some]
  have hjoined : ¬(rows.any fun a =>
      a.owner == vpn.id && a.target == request.target) = true := by
    simpa [Joined] using hnew
  rw [make, if_neg hjoined, hid]
  rfl

/-! ## What ties owners to targets -/

@[simp] theorem joined_append :
    Joined (rows ++ [a]) owner target ↔
      Joined rows owner target ∨ (a.owner = owner ∧ a.target = target) := by
  simp only [Joined, List.mem_append, List.mem_singleton]
  grind

/-- New terms change neither id, owner, target nor tenant. -/
theorem map_modify {β : Type} (f : Association τ → β)
    (hf : ∀ (a : Association τ) (terms : τ), f { a with terms := terms } = f a) :
    (modify owner id change rows).map f = rows.map f := by
  induction rows with
  | nil => rfl
  | cons b rows ih =>
    rw [modify]
    split
    · rw [List.map_cons, List.map_cons, hf]
    · rw [List.map_cons, List.map_cons, ih]

/-- New terms leave alone what holds of all owners. -/
theorem forall_owner_modify {p : String → Prop} (h : ∀ a ∈ rows, p a.owner) :
    ∀ a ∈ modify owner id change rows, p a.owner := by
  have hsame : (modify owner id change rows).map (·.owner) = rows.map (·.owner) :=
    map_modify _ fun _ _ => rfl
  intro b hb
  have howner : b.owner ∈ rows.map (·.owner) := hsame ▸ List.mem_map_of_mem hb
  obtain ⟨a, ha, hsameOwner⟩ := List.mem_map.1 howner
  exact hsameOwner ▸ h a ha

@[simp] theorem joined_modify {o t : String} :
    Joined (modify owner id change rows) o t ↔ Joined rows o t := by
  have hpairs (xs : List (Association τ)) :
      Joined xs o t ↔ (o, t) ∈ xs.map fun a => (a.owner, a.target) := by
    simp [Joined]
  rw [hpairs, hpairs, map_modify _ fun _ _ => rfl]

@[simp] theorem targetsOf_modify {o : String} :
    targetsOf o (modify owner id change rows) = targetsOf o rows := by
  rw [targetsOf_eq, targetsOf_eq, map_modify _ fun _ _ => rfl]

@[simp] theorem joined_removeOwned {o t : String} :
    Joined (removeOwned owner rows) o t ↔ o ≠ owner ∧ Joined rows o t := by
  simp only [Joined, removeOwned, List.mem_filter, bne_iff_ne]
  grind

theorem Joined.of_remove {o t : String}
    (h : Joined (remove owner id rows) o t) : Joined rows o t := by
  obtain ⟨b, hb, ho, ht⟩ := h
  exact ⟨b, List.mem_of_mem_eraseP hb, ho, ht⟩

/-- Only the removed association can have tied what is not tied any more. -/
theorem Joined.remove {o t : String} (h : Joined rows o t)
    (hfind : rows.find? (isAt owner id) = some a) :
    Joined (remove owner id rows) o t ∨ (a.owner = o ∧ a.target = t) := by
  obtain ⟨before, after, rfl, hremove⟩ := remove_split hfind
  rw [hremove]
  simp only [Joined, List.mem_append, List.mem_cons] at h ⊢
  grind

/-! ## What a filter passes over -/

theorem filter_remove {p : Association τ → Bool}
    (hfind : rows.find? (isAt owner id) = some a) (h : p a = false) :
    (remove owner id rows).filter p = rows.filter p := by
  obtain ⟨before, after, rfl, hremove⟩ := remove_split hfind
  rw [hremove]
  simp [h]

theorem filter_modify {p : Association τ → Bool}
    (hfind : rows.find? (isAt owner id) = some a) (h : p a = false)
    (hnew : p { a with terms := change a.terms } = false) :
    (modify owner id change rows).filter p = rows.filter p := by
  obtain ⟨before, after, hrows, hmodify⟩ := modify_split hfind
  rw [hmodify, hrows]
  simp [h, hnew]

/-! ## Associations with another target -/

theorem onTarget_append (h : a.target ≠ target) :
    onTarget target (rows ++ [a]) = onTarget target rows := by
  simp [onTarget, h]

theorem onTarget_remove (hfind : rows.find? (isAt owner id) = some a)
    (h : a.target ≠ target) :
    onTarget target (remove owner id rows) = onTarget target rows :=
  filter_remove hfind (beq_false_of_ne h)

theorem onTarget_modify (hfind : rows.find? (isAt owner id) = some a)
    (h : a.target ≠ target) :
    onTarget target (modify owner id change rows) = onTarget target rows :=
  filter_modify hfind (beq_false_of_ne h) (beq_false_of_ne h)

/-- New terms leave the owners of the associations with a target alone. -/
theorem map_owner_onTarget_modify :
    (onTarget target (modify owner id change rows)).map (·.owner) =
      (onTarget target rows).map (·.owner) := by
  have hpairs (xs : List (Association τ)) : (onTarget target xs).map (·.owner) =
      ((xs.map fun a => (a.owner, a.target)).filter (·.2 == target)).map (·.1) := by
    simp [onTarget, List.filter_map, Function.comp_def]
  rw [hpairs, map_modify _ fun _ _ => rfl, ← hpairs]

/-- An owner that is not tied to a target leaves no gap there. -/
theorem onTarget_removeOwned (h : ¬Joined rows owner target) :
    onTarget target (removeOwned owner rows) = onTarget target rows := by
  rw [onTarget, removeOwned, List.filter_filter]
  refine List.filter_congr fun b hb => ?_
  by_cases ht : b.target = target
  · have ho : b.owner ≠ owner := fun ho => h ⟨b, hb, ho, ht⟩
    simp [ho]
  · simp [ht]

/-! ## Associations of other VPNs -/

theorem removeOwned_append (h : a.owner = owner) :
    removeOwned owner (rows ++ [a]) = removeOwned owner rows := by
  simp [removeOwned, h]

theorem removeOwned_remove (hfind : rows.find? (isAt owner id) = some a) :
    removeOwned owner (remove owner id rows) = removeOwned owner rows :=
  filter_remove hfind (bne_eq_false_iff_eq.2 (mem_of_find? hfind).2.1)

theorem removeOwned_modify (hfind : rows.find? (isAt owner id) = some a) :
    removeOwned owner (modify owner id change rows) = removeOwned owner rows :=
  have howner : (a.owner != owner) = false := bne_eq_false_iff_eq.2 (mem_of_find? hfind).2.1
  filter_modify hfind howner howner

theorem removeOwned_removeOwned (owner : String) (rows : List (Association τ)) :
    removeOwned owner (removeOwned owner rows) = removeOwned owner rows := by
  simp [removeOwned, List.filter_filter]

/-- The associations of a VPN stay when those of another one are removed. -/
theorem ownedBy_removeOwned {other : String} (h : other ≠ owner) :
    ownedBy other (removeOwned owner rows) = ownedBy other rows := by
  rw [ownedBy, removeOwned, List.filter_filter]
  refine List.filter_congr fun a _ => ?_
  by_cases hother : a.owner = other
  · simp [hother, h]
  · simp [hother]

theorem find?_removeOwned {other : String} (h : other ≠ owner) :
    (removeOwned owner rows).find? (isAt other id) = rows.find? (isAt other id) := by
  rw [removeOwned, List.find?_filter]
  congr 1
  funext a
  by_cases hother : a.owner = other
  · simp [isAt, hother, h, beq_eq_decide]
  · simp [isAt, hother]

theorem onTarget_removeOwned_eq_filter :
    onTarget target (removeOwned owner rows) =
      (onTarget target rows).filter (·.owner != owner) := by
  rw [onTarget, onTarget, removeOwned, List.filter_filter, List.filter_filter]
  simp only [Bool.and_comm]

/-! ## Changes that change nothing -/

/-- Changing terms to what they are changes nothing. -/
theorem modify_eq_self (hfind : rows.find? (isAt owner id) = some a)
    (h : change a.terms = a.terms) : modify owner id change rows = rows := by
  obtain ⟨before, after, hrows, hmodify⟩ := modify_split hfind
  rw [hmodify, hrows, h]

/-! ## The invariants of a table -/

/-- Every owner is among `vpns`. -/
def Owned (vpns : List String) (rows : List (Association τ)) : Prop :=
  ∀ a ∈ rows, a.owner ∈ vpns

namespace Owned

variable {vpns : List String}

theorem mono {more : List String} (h : Owned vpns rows)
    (hmore : ∀ id ∈ vpns, id ∈ more) : Owned more rows :=
  fun a ha => hmore a.owner (h a ha)

theorem append (h : Owned vpns rows) (howner : a.owner ∈ vpns) :
    Owned vpns (rows ++ [a]) := by
  intro b hb
  rcases List.mem_append.1 hb with hb | hb
  · exact h b hb
  · obtain rfl := List.mem_singleton.1 hb
    exact howner

theorem remove (h : Owned vpns rows) : Owned vpns (remove owner id rows) :=
  fun b hb => h b (List.mem_of_mem_eraseP hb)

theorem modify (h : Owned vpns rows) : Owned vpns (modify owner id change rows) :=
  forall_owner_modify h

/-- Removing a VPN with everything it owns. -/
theorem removeOwned (h : Owned vpns rows) :
    Owned (vpns.filter (· != owner)) (removeOwned owner rows) := by
  intro b hb
  obtain ⟨hb, ho⟩ := List.mem_filter.1 hb
  exact List.mem_filter.2 ⟨h b hb, ho⟩

/-- What is not among the owners has no associations. -/
theorem ownedBy_eq_nil (h : Owned vpns rows) (howner : owner ∉ vpns) :
    ownedBy owner rows = [] := by
  refine List.filter_eq_nil_iff.2 fun a ha hsame => howner ?_
  rw [← beq_iff_eq.1 hsame]
  exact h a ha

theorem targetsOf_eq_nil (h : Owned vpns rows) (howner : owner ∉ vpns) :
    targetsOf owner rows = [] := by
  rw [targetsOf, h.ownedBy_eq_nil howner, List.map_nil]

end Owned

/-- No pair of owner and target occurs twice. -/
def Once (rows : List (Association τ)) : Prop :=
  (rows.map fun a => (a.owner, a.target)).Nodup

namespace Once

theorem nil : Once ([] : List (Association τ)) :=
  List.nodup_nil

/-- A new association fits in if its owner is not tied to its target yet. -/
theorem append (h : Once rows) (hnew : ¬Joined rows a.owner a.target) :
    Once (rows ++ [a]) := by
  rw [Once, List.map_append, List.map_singleton]
  refine List.nodup_append.2 ⟨h, List.nodup_singleton _, ?_⟩
  simp only [Joined] at hnew
  grind

/-- Whatever rows are taken away, the rest has no pair twice. -/
theorem sublist {kept : List (Association τ)} (h : Once rows)
    (hkept : kept.Sublist rows) : Once kept :=
  List.Nodup.sublist (hkept.map _) h

theorem modify (h : Once rows) : Once (modify owner id change rows) := by
  rw [Once, map_modify _ fun _ _ => rfl]
  exact h

/-- A VPN is tied to each of its targets once. -/
theorem nodup_targetsOf (h : Once rows) (owner : String) :
    (targetsOf owner rows).Nodup := by
  rw [targetsOf_eq]
  refine List.Nodup.map_on ?_ (h.filter _)
  intro x hx y hy htarget
  have howner {z : String × String}
      (hz : z ∈ (rows.map fun a => (a.owner, a.target)).filter (·.1 == owner)) :
      z.1 = owner := by
    simpa using (List.mem_filter.1 hz).2
  exact Prod.ext ((howner hx).trans (howner hy).symm) htarget

end Once

/-- No id and no pair of owner and target occurs twice. -/
structure Unique (rows : List (Association τ)) : Prop where
  ids : (rows.map (·.id)).Nodup
  pairs : (rows.map fun a => (a.owner, a.target)).Nodup

namespace Unique

theorem nil : Unique ([] : List (Association τ)) :=
  ⟨List.nodup_nil, List.nodup_nil⟩

/-- A new association fits in if its id is new and its owner is not tied to its
target yet. -/
theorem append (h : Unique rows) (hid : a.id ∉ rows.map (·.id))
    (hnew : ¬Joined rows a.owner a.target) : Unique (rows ++ [a]) where
  ids := by
    rw [List.map_append, List.map_singleton]
    exact List.nodup_append.2 ⟨h.ids, List.nodup_singleton _, by grind⟩
  pairs := Once.append h.pairs hnew

/-- Whatever rows are taken away, the rest stays unique. -/
theorem sublist {kept : List (Association τ)} (h : Unique rows)
    (hkept : kept.Sublist rows) : Unique kept :=
  ⟨h.ids.sublist (hkept.map _), Once.sublist h.pairs hkept⟩

theorem modify (h : Unique rows) : Unique (modify owner id change rows) where
  ids := by
    rw [map_modify _ fun _ _ => rfl]
    exact h.ids
  pairs := Once.modify h.pairs

theorem remove (h : Unique rows) : Unique (remove owner id rows) :=
  h.sublist List.eraseP_sublist

theorem removeOwned (h : Unique rows) : Unique (removeOwned owner rows) :=
  h.sublist List.filter_sublist

end Unique
end VpnAttach.Rows
