import VpnAttach.Proofs.Difference
import VpnAttach.Proofs.Json.Equality

/-!
# Differences are exact

The difference of two objects is their symmetric difference: each key on which
they do not agree stands in one of its three lists, by whether the first object
alone, the second alone or both of them bind it (`Exact`).  Swapping the
objects swaps the first two lists, only equal objects differ in nothing, and a
list of names is touched if the objects do not agree on one of them.

Values are compared by `Json.Equal`.  A key bound to `null` is bound.
-/

namespace VpnAttach.Difference

open Json

variable {a b : List (String × Json)} {key : String} {x y : Json} {d d' : Difference}

/-! ## Keys by what they are bound to -/

/-- Both objects leave a key out, or bind it to equal values. -/
def Agree (a b : List (String × Json)) (key : String) : Prop :=
  (a.lookup key).isSome = (b.lookup key).isSome ∧
    ∀ x y, a.lookup key = some x → b.lookup key = some y → Equal x y

theorem same_eq_false_iff (ha : WellFormed (.obj a)) (hb : WellFormed (.obj b))
    (hx : a.lookup key = some x) (hy : b.lookup key = some y) :
    y.same x = false ↔ ¬Equal x y := by
  rw [← Bool.not_eq_true, same_iff (hb.of_lookup hy) (ha.of_lookup hx)]
  exact not_congr ⟨Equal.symm, Equal.symm⟩

theorem moves_iff (ha : WellFormed (.obj a)) (hb : WellFormed (.obj b)) :
    Moves a b key ↔ ¬Agree a b key := by
  rw [Moves, Agree]
  cases hx : a.lookup key with
  | none =>
    cases b.lookup key with
    | none =>
      have hagree : ∀ x y, none = some x → none = some y → Equal x y := by simp
      exact iff_of_false id fun h => h ⟨rfl, hagree⟩
    | some _ => exact iff_of_true trivial fun h => Bool.false_ne_true h.1
  | some x =>
    cases hy : b.lookup key with
    | none => exact iff_of_true trivial fun h => Bool.false_ne_true h.1.symm
    | some y => simpa using same_eq_false_iff ha hb hx hy

theorem equal_iff_forall_agree : Equal (.obj a) (.obj b) ↔ ∀ key, Agree a b key :=
  equal_obj_iff.trans forall_and.symm

/-! ## The three lists -/

/-- A difference is what sets two objects apart, each of its lists in order. -/
structure Exact (a b : List (String × Json)) (d : Difference) : Prop where
  mem_added (key : String) : key ∈ d.added ↔ key ∈ a.map (·.1) ∧ key ∉ b.map (·.1)
  mem_removed (key : String) : key ∈ d.removed ↔ key ∈ b.map (·.1) ∧ key ∉ a.map (·.1)
  mem_changed (key : String) : key ∈ d.changed ↔
    ∃ x y, a.lookup key = some x ∧ b.lookup key = some y ∧ ¬Equal x y
  sorted : d.added.SortedLT ∧ d.removed.SortedLT ∧ d.changed.SortedLT

namespace Exact

theorem disjoint (h : Exact a b d) :
    d.added.Disjoint d.removed ∧ d.added.Disjoint d.changed ∧ d.removed.Disjoint d.changed := by
  refine ⟨fun key hadded hremoved => ?_, fun key hadded hchanged => ?_,
    fun key hremoved hchanged => ?_⟩
  · exact ((h.mem_removed key).1 hremoved).2 ((h.mem_added key).1 hadded).1
  · obtain ⟨_, y, _, hy, _⟩ := (h.mem_changed key).1 hchanged
    have hbound := Sorted.mem_map_fst_iff.2 (Option.isSome_of_eq_some hy)
    exact ((h.mem_added key).1 hadded).2 hbound
  · obtain ⟨x, _, hx, _⟩ := (h.mem_changed key).1 hchanged
    have hbound := Sorted.mem_map_fst_iff.2 (Option.isSome_of_eq_some hx)
    exact ((h.mem_removed key).1 hremoved).2 hbound

theorem swap (h : Exact a b d) : Exact b a ⟨d.removed, d.added, d.changed⟩ where
  mem_added := h.mem_removed
  mem_removed := h.mem_added
  mem_changed key := by
    rw [h.mem_changed]
    constructor
    · rintro ⟨x, y, hx, hy, hne⟩
      exact ⟨y, x, hy, hx, fun heq => hne heq.symm⟩
    · rintro ⟨y, x, hy, hx, hne⟩
      exact ⟨x, y, hx, hy, fun heq => hne heq.symm⟩
  sorted := ⟨h.sorted.2.1, h.sorted.1, h.sorted.2.2⟩

theorem unique (h : Exact a b d) (h' : Exact a b d') : d = d' := by
  obtain ⟨hadded, hremoved, hchanged⟩ := h.sorted
  obtain ⟨hadded', hremoved', hchanged'⟩ := h'.sorted
  cases d
  cases d'
  congr 1
  · exact hadded.eq_of_mem_iff hadded' fun key => (h.mem_added key).trans (h'.mem_added key).symm
  · exact hremoved.eq_of_mem_iff hremoved' fun key =>
      (h.mem_removed key).trans (h'.mem_removed key).symm
  · exact hchanged.eq_of_mem_iff hchanged' fun key =>
      (h.mem_changed key).trans (h'.mem_changed key).symm

end Exact

theorem exact_ofMembers (ha : WellFormed (.obj a)) (hb : WellFormed (.obj b)) :
    Exact a b (ofMembers a b) where
  mem_added key := by
    rw [mem_added, Sorted.mem_map_fst_iff, Sorted.mem_map_fst_iff, Bool.not_eq_true,
      Option.isSome_eq_false_iff]
  mem_removed key := by
    rw [mem_removed, Sorted.mem_map_fst_iff, Sorted.mem_map_fst_iff, Bool.not_eq_true,
      Option.isSome_eq_false_iff]
  mem_changed key := by
    rw [mem_changed]
    exact exists₂_congr fun x y => and_congr_right fun hx => and_congr_right fun hy =>
      same_eq_false_iff ha hb hx hy
  sorted := ⟨Sorted.sortedLT_keys _, Sorted.sortedLT_keys _, Sorted.sortedLT_keys _⟩

/-! ## Differences of objects -/

theorem ofMembers_swap (ha : WellFormed (.obj a)) (hb : WellFormed (.obj b)) :
    ofMembers b a =
      ⟨(ofMembers a b).removed, (ofMembers a b).added, (ofMembers a b).changed⟩ :=
  (exact_ofMembers hb ha).unique (exact_ofMembers ha hb).swap

theorem isEmpty_iff_equal (ha : WellFormed (.obj a)) (hb : WellFormed (.obj b)) :
    (ofMembers a b).isEmpty = true ↔ Equal (.obj a) (.obj b) := by
  rw [isEmpty_iff, equal_iff_forall_agree]
  exact forall_congr' fun key => by rw [moves_iff ha hb, not_not]

theorem touches_iff_not_agree (ha : WellFormed (.obj a)) (hb : WellFormed (.obj b))
    {names : List String} :
    (ofMembers a b).touches names = true ↔ ∃ key ∈ names, ¬Agree a b key := by
  rw [touches_iff]
  exact exists_congr fun key => and_congr_right fun _ => moves_iff ha hb

/-- The difference of two objects is their symmetric difference, from either side. -/
theorem exact_between (ha : WellFormed (.obj a)) (hb : WellFormed (.obj b)) :
    let d := between (.obj a) (.obj b)
    (Exact a b d ∧
      d.added.Disjoint d.removed ∧ d.added.Disjoint d.changed ∧ d.removed.Disjoint d.changed) ∧
    between (.obj b) (.obj a) = ⟨d.removed, d.added, d.changed⟩ ∧
    (d.isEmpty = true ↔ Equal (.obj a) (.obj b)) ∧
    ∀ names, d.touches names = true ↔ ∃ key ∈ names, ¬Agree a b key :=
  have hexact : Exact a b (between (.obj a) (.obj b)) := exact_ofMembers ha hb
  ⟨⟨hexact, hexact.disjoint⟩, ofMembers_swap ha hb, isEmpty_iff_equal ha hb,
    fun _ => touches_iff_not_agree ha hb⟩

/-- Zero has another sign and stays, one is a double instead of an integer and does not. -/
theorem exact_between_numberKinds :
    let a := [("items", .arr [.int 1, .int 2]), ("one", .int 1), ("nothing", .null),
      ("zero", .float 0.0)]
    let b := [("items", .arr [.int 2, .int 1]), ("one", .float 1.0), ("zero", .float (-0.0))]
    WellFormed (.obj a) ∧ WellFormed (.obj b) ∧
      Exact a b ⟨["nothing"], [], ["items", "one"]⟩ ∧
      between (.obj b) (.obj a) = ⟨[], ["nothing"], ["items", "one"]⟩ ∧
      ¬Equal (.obj a) (.obj b) ∧ Agree a b "zero" := by
  intro a b
  have ha : WellFormed (.obj a) := by
    refine .obj (by decide) ?_
    simp only [a, List.forall_mem_cons]
    refine ⟨.arr ?_, .int 1, .null, .float (by decide), by simp⟩
    simp only [List.forall_mem_cons]
    exact ⟨.int 1, .int 2, by simp⟩
  have hb : WellFormed (.obj b) := by
    refine .obj (by decide) ?_
    simp only [b, List.forall_mem_cons]
    refine ⟨.arr ?_, .float (by decide), .float (by decide), by simp⟩
    simp only [List.forall_mem_cons]
    exact ⟨.int 2, .int 1, by simp⟩
  have hbetween : between (.obj a) (.obj b) = ⟨["nothing"], [], ["items", "one"]⟩ := by decide
  obtain ⟨⟨hexact, -⟩, hswap, hempty, htouches⟩ := exact_between ha hb
  rw [hbetween] at hexact hswap hempty htouches
  refine ⟨ha, hb, hexact, hswap, fun h => absurd (hempty.2 h) (by decide), ?_⟩
  by_contra h
  exact absurd ((htouches ["zero"]).2 ⟨"zero", List.mem_singleton_self _, h⟩) (by decide)

end VpnAttach.Difference
