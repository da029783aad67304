import Mathlib.Data.List.Induction
import VpnAttach.Payload.Targets
import VpnAttach.Proofs.Sorted

/-!
# What target lists are made of

The lists of a kind are those of its VPNs in order, one after the other
(`byKind_eq`), and a projection has them under the wire key of each kind that is
emitted and occurs (`lookup_project`).  Its keys are wire keys in order.

So a projection goes along with putting lists of VPNs one after the other, key by
key, and VPNs of a kind that is not emitted leave no trace in it.  `IsProjection`
collects this, and `isProjection_project` says that it holds whatever kinds are
emitted.
-/

namespace VpnAttach

variable {emitted : List VpnKind} {vpns : List Vpn} {kind : VpnKind} {key : String}
  {targets : TargetMap} {lists : TargetLists}

theorem VpnKind.wireKey_inj {x y : VpnKind} : x.wireKey = y.wireKey ↔ x = y := by
  cases x <;> cases y <;> decide

theorem VpnKind.mem_all (kind : VpnKind) : kind ∈ VpnKind.all := by
  cases kind <;> decide

namespace TargetLists

/-- The lists of the VPNs of one kind, one after the other. -/
def ofKind (vpns : List Vpn) (kind : VpnKind) : TargetLists where
  imports := (vpns.filter (·.kind = kind)).flatMap fun vpn =>
    (vpn.routeTargets ++ vpn.importTargets).map (·.text)
  exports := (vpns.filter (·.kind = kind)).flatMap fun vpn =>
    (vpn.routeTargets ++ vpn.exportTargets).map (·.text)

theorem append_eq (x y : TargetLists) :
    x ++ y = ⟨x.imports ++ y.imports, x.exports ++ y.exports⟩ := rfl

theorem ofKind_append (xs ys : List Vpn) (kind : VpnKind) :
    ofKind (xs ++ ys) kind = ofKind xs kind ++ ofKind ys kind := by
  simp only [ofKind, append_eq, List.filter_append, List.flatMap_append]

theorem ofKind_concat_self (vpns : List Vpn) (vpn : Vpn) :
    ofKind (vpns ++ [vpn]) vpn.kind = ofKind vpns vpn.kind ++ ofVpn vpn := by
  rw [ofKind_append]
  simp [ofKind, ofVpn]

theorem ofKind_concat_of_ne {vpn : Vpn} (h : vpn.kind ≠ kind) (vpns : List Vpn) :
    ofKind (vpns ++ [vpn]) kind = ofKind vpns kind := by
  simp [ofKind, h]

/-- A kind that does not occur has no targets. -/
theorem ofKind_of_forall_ne (h : ∀ vpn ∈ vpns, vpn.kind ≠ kind) : ofKind vpns kind = {} := by
  have hnone : vpns.filter (·.kind = kind) = [] := by simpa using h
  rw [ofKind, hnone]
  rfl

end TargetLists

namespace TargetMap

/-- A kind has lists if it occurs. -/
theorem byKind_eq (vpns : List Vpn) (kind : VpnKind) :
    byKind vpns kind =
      if ∃ vpn ∈ vpns, vpn.kind = kind then some (.ofKind vpns kind) else none := by
  induction vpns using List.reverseRecOn with
  | nil => simp [byKind]
  | append_singleton vpns vpn ih =>
    have hstep : byKind (vpns ++ [vpn]) kind = gather (byKind vpns) vpn kind := by
      rw [byKind, List.foldl_append]
      rfl
    rw [hstep, gather]
    by_cases hkind : kind = vpn.kind
    · subst hkind
      have hlists : (byKind vpns vpn.kind).getD {} = TargetLists.ofKind vpns vpn.kind := by
        rw [ih]
        split
        · rfl
        · rename_i hnone
          rw [TargetLists.ofKind_of_forall_ne (by simpa using hnone)]
          rfl
      rw [if_pos rfl, hlists, if_pos ⟨vpn, by simp⟩, TargetLists.ofKind_concat_self]
    · rw [if_neg hkind, ih, TargetLists.ofKind_concat_of_ne (Ne.symm hkind)]
      simp [Ne.symm hkind]

/-- A projection has the lists of each kind that is emitted and occurs. -/
theorem mem_project : (key, lists) ∈ project emitted vpns ↔
    ∃ kind, kind.wireKey = key ∧ (kind ∈ emitted ∧ ∃ vpn ∈ vpns, vpn.kind = kind) ∧
      .ofKind vpns kind = lists := by
  simp only [project, List.mem_filterMap, VpnKind.mem_all, true_and, byKind_eq]
  refine exists_congr fun kind => ?_
  by_cases hemitted : kind ∈ emitted
  · by_cases hoccurs : ∃ vpn ∈ vpns, vpn.kind = kind
    · simp only [hemitted, hoccurs, if_true, Option.map_some, Option.some.injEq, Prod.mk.injEq,
        true_and]
    · simp [hoccurs]
  · simp [hemitted]

/-! ## Keys -/

/-- The keys are wire keys in order. -/
def Keyed (targets : TargetMap) : Prop :=
  Sorted.InOrder targets ∧ ∀ entry ∈ targets, ∃ kind, entry.1 = VpnKind.wireKey kind

theorem keyed_nil : Keyed [] :=
  ⟨List.Pairwise.nil, fun _ h => nomatch h⟩

theorem keyed_project (emitted : List VpnKind) (vpns : List Vpn) :
    Keyed (project emitted vpns) := by
  have hkey {kind : VpnKind} {entry : String × TargetLists}
      (h : (if kind ∈ emitted then (byKind vpns kind).map (kind.wireKey, ·) else none) =
        some entry) : entry.1 = kind.wireKey := by
    split at h
    · obtain ⟨lists, -, rfl⟩ := Option.map_eq_some_iff.1 h
      rfl
    · cases h
  refine ⟨?_, fun entry hentry => ?_⟩
  · have horder : VpnKind.all.Pairwise fun x y => x.wireKey < y.wireKey := by decide
    refine horder.filterMap _ fun x y hlt first hfirst second hsecond => ?_
    rwa [hkey hfirst, hkey hsecond]
  · obtain ⟨kind, hkey, -⟩ := mem_project.1 hentry
    exact ⟨kind, hkey.symm⟩

theorem Keyed.dropEmpty (h : Keyed targets) : Keyed targets.dropEmpty :=
  ⟨h.1.filter _, fun entry hentry => h.2 entry (List.mem_of_mem_filter hentry)⟩

/-! ## Looking up -/

theorem lookup_project : (project emitted vpns).lookup kind.wireKey =
    if kind ∈ emitted ∧ ∃ vpn ∈ vpns, vpn.kind = kind then some (.ofKind vpns kind)
    else none := by
  refine Option.ext fun lists => ?_
  rw [Sorted.lookup_eq_some_iff_mem (keyed_project emitted vpns).1.nodup, mem_project]
  simp only [VpnKind.wireKey_inj, exists_eq_left]
  split
  · rename_i hhas
    simp [hhas]
  · rename_i hlacks
    simp [hlacks]

/-- A kind without targets is dropped, and the others are kept. -/
theorem lookup_dropEmpty (h : Keyed targets) :
    targets.dropEmpty.lookup key = (targets.lookup key).filter (!·.isEmpty) := by
  refine Option.ext fun lists => ?_
  rw [Sorted.lookup_eq_some_iff_mem h.dropEmpty.1.nodup, Option.filter_eq_some_iff,
    Sorted.lookup_eq_some_iff_mem h.1.nodup]
  exact List.mem_filter

/-! ## Several lists -/

/-- The lists under a key.  A key that is not there is as good as empty lists. -/
def under (targets : TargetMap) (key : String) : TargetLists :=
  (targets.lookup key).getD {}

theorem under_project : (project emitted vpns).under kind.wireKey =
    if kind ∈ emitted then .ofKind vpns kind else {} := by
  rw [under, lookup_project]
  by_cases hemitted : kind ∈ emitted
  · by_cases hoccurs : ∃ vpn ∈ vpns, vpn.kind = kind
    · rw [if_pos ⟨hemitted, hoccurs⟩, if_pos hemitted, Option.getD_some]
    · have hnone : TargetLists.ofKind vpns kind = {} :=
        TargetLists.ofKind_of_forall_ne (by simpa using hoccurs)
      rw [if_neg fun h => hoccurs h.2, if_pos hemitted, hnone, Option.getD_none]
  · rw [if_neg fun h => hemitted h.1, if_neg hemitted, Option.getD_none]

/-- There is nothing under a key that belongs to no kind. -/
theorem under_project_of_forall_ne (h : ∀ kind : VpnKind, kind.wireKey ≠ key) :
    (project emitted vpns).under key = {} := by
  have hnone : (project emitted vpns).lookup key = none := by
    refine Option.eq_none_iff_forall_ne_some.2 fun lists hlists => ?_
    rw [Sorted.lookup_eq_some_iff_mem (keyed_project emitted vpns).1.nodup] at hlists
    obtain ⟨kind, hkey, -⟩ := mem_project.1 hlists
    exact h kind hkey
  rw [under, hnone, Option.getD_none]

theorem under_project_append (emitted : List VpnKind) (xs ys : List Vpn) (key : String) :
    (project emitted (xs ++ ys)).under key =
      (project emitted xs).under key ++ (project emitted ys).under key := by
  by_cases hkey : ∃ kind : VpnKind, kind.wireKey = key
  · obtain ⟨kind, rfl⟩ := hkey
    rw [under_project, under_project, under_project]
    by_cases hemitted : kind ∈ emitted
    · rw [if_pos hemitted, if_pos hemitted, if_pos hemitted, TargetLists.ofKind_append]
    · rw [if_neg hemitted, if_neg hemitted, if_neg hemitted]
      rfl
  · have hother (kind : VpnKind) : kind.wireKey ≠ key := fun h => hkey ⟨kind, h⟩
    rw [under_project_of_forall_ne hother, under_project_of_forall_ne hother,
      under_project_of_forall_ne hother]
    rfl

/-- An emitted kind has the same VPNs when those of other kinds are left out. -/
theorem byKind_filter_emitted (hkind : kind ∈ emitted) (vpns : List Vpn) :
    byKind (vpns.filter (·.kind ∈ emitted)) kind = byKind vpns kind := by
  have hoccurs : (∃ vpn ∈ vpns.filter (·.kind ∈ emitted), vpn.kind = kind) ↔
      ∃ vpn ∈ vpns, vpn.kind = kind := by
    refine exists_congr fun vpn => ?_
    simp only [List.mem_filter, decide_eq_true_eq]
    constructor
    · intro h
      obtain ⟨⟨hvpn, -⟩, rfl⟩ := h
      exact ⟨hvpn, rfl⟩
    · intro h
      obtain ⟨hvpn, rfl⟩ := h
      exact ⟨⟨hvpn, hkind⟩, rfl⟩
  have hlists : TargetLists.ofKind (vpns.filter (·.kind ∈ emitted)) kind =
      TargetLists.ofKind vpns kind := by
    have hsame : (vpns.filter (·.kind ∈ emitted)).filter (·.kind = kind) =
        vpns.filter (·.kind = kind) := by
      rw [List.filter_filter]
      refine List.filter_congr fun vpn _ => ?_
      by_cases h : vpn.kind = kind
      · simp [h, hkind]
      · simp [h]
    rw [TargetLists.ofKind, TargetLists.ofKind, hsame]
  rw [byKind_eq, byKind_eq, hlists]
  simp only [hoccurs]

theorem project_filter_emitted (emitted : List VpnKind) (vpns : List Vpn) :
    project emitted (vpns.filter (·.kind ∈ emitted)) = project emitted vpns := by
  refine List.filterMap_congr fun kind _ => ?_
  by_cases hemitted : kind ∈ emitted
  · rw [if_pos hemitted, if_pos hemitted, byKind_filter_emitted hemitted]
  · rw [if_neg hemitted, if_neg hemitted]

/-- `f` puts the targets of VPNs together under the keys of the emitted kinds. -/
structure IsProjection (emitted : List VpnKind) (f : List Vpn → TargetMap) : Prop where
  /-- A kind has a key exactly if it is emitted and occurs, and nothing else has one. -/
  keys : ∀ vpns key, key ∈ (f vpns).map (·.1) ↔
    ∃ kind ∈ emitted, kind.wireKey = key ∧ ∃ vpn ∈ vpns, vpn.kind = kind
  /-- No key is there twice. -/
  nodup : ∀ vpns, ((f vpns).map (·.1)).Nodup
  /-- The lists of a kind have the targets of its VPNs, those that are both imported and
  exported before the others; all of them, in order. -/
  lists : ∀ vpns, ∀ entry ∈ f vpns, ∀ kind : VpnKind, kind.wireKey = entry.1 →
    entry.2.imports = (vpns.filter (·.kind = kind)).flatMap (fun vpn =>
        (vpn.routeTargets ++ vpn.importTargets).map (·.text)) ∧
      entry.2.exports = (vpns.filter (·.kind = kind)).flatMap fun vpn =>
        (vpn.routeTargets ++ vpn.exportTargets).map (·.text)
  /-- Two lists of VPNs give what the one and then the other gives. -/
  append : ∀ xs ys key, (f (xs ++ ys)).under key = (f xs).under key ++ (f ys).under key
  /-- VPNs of other kinds than those emitted do not matter. -/
  emittedOnly : ∀ vpns, f (vpns.filter (·.kind ∈ emitted)) = f vpns

theorem isProjection_project (emitted : List VpnKind) :
    IsProjection emitted (project emitted) where
  keys := by
    intro vpns key
    constructor
    · intro h
      obtain ⟨⟨_, lists⟩, hentry, rfl⟩ := List.mem_map.1 h
      obtain ⟨kind, hkey, ⟨hemitted, hoccurs⟩, -⟩ := mem_project.1 hentry
      exact ⟨kind, hemitted, hkey, hoccurs⟩
    · intro h
      obtain ⟨kind, hemitted, hkey, hoccurs⟩ := h
      have hentry : (key, TargetLists.ofKind vpns kind) ∈ project emitted vpns :=
        mem_project.2 ⟨kind, hkey, ⟨hemitted, hoccurs⟩, rfl⟩
      exact List.mem_map_of_mem (f := (·.1)) hentry
  nodup := fun vpns => (keyed_project emitted vpns).1.nodup
  lists := by
    intro vpns entry hentry kind hkey
    obtain ⟨other, hother, -, hlists⟩ := mem_project.1 hentry
    obtain rfl := VpnKind.wireKey_inj.1 (hkey.trans hother.symm)
    rw [← hlists]
    exact ⟨rfl, rfl⟩
  append := under_project_append emitted
  emittedOnly := project_filter_emitted emitted

end TargetMap
end VpnAttach
