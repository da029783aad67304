import Mathlib.Data.List.Sort
import Mathlib.Data.String.Basic
import VpnAttach.Sorted

/-!
# Laws of sorted association lists

`put` keeps a list sorted and adds no key but its own, so the sorted list of
some bindings has exactly their keys.  If no key is repeated among the
bindings, the sorted list is a permutation of them, and it does not depend on
their order (`ofList_eq_of_perm`).
-/

namespace VpnAttach.Sorted

variable {α : Type} {key name : String} {value : α}
  {sorted bindings : List (String × α)}

/-! ## Keys -/

theorem mem_map_put : name ∈ (put key value sorted).map (·.1) ↔
    name = key ∨ name ∈ sorted.map (·.1) := by
  induction sorted with
  | nil => simp [put]
  | cons binding rest ih =>
    rw [put]
    split
    · simp
    · split
      · rename_i hkey
        simp [hkey]
      · rw [List.map_cons, List.mem_cons, ih, List.map_cons, List.mem_cons]
        exact or_left_comm

theorem mem_map_ofList : name ∈ (ofList bindings).map (·.1) ↔
    name ∈ bindings.map (·.1) := by
  have hfold (sorted : List (String × α)) :
      name ∈ (bindings.foldl (fun sorted b => put b.1 b.2 sorted) sorted).map (·.1) ↔
        name ∈ bindings.map (·.1) ∨ name ∈ sorted.map (·.1) := by
    induction bindings generalizing sorted with
    | nil => simp
    | cons b bindings ih =>
      rw [List.foldl_cons, ih, mem_map_put, List.map_cons, List.mem_cons]
      exact or_left_comm.trans or_assoc.symm
  rw [ofList, hfold []]
  simp

@[simp] theorem mem_keys {names : List String} : name ∈ keys names ↔ name ∈ names := by
  rw [keys, mem_map_ofList, List.map_map]
  simp

@[simp] theorem keys_eq_nil {names : List String} : keys names = [] ↔ names = [] := by
  simp only [List.eq_nil_iff_forall_not_mem, mem_keys]

theorem mem_map_fst_iff :
    key ∈ bindings.map (·.1) ↔ (bindings.lookup key).isSome = true := by
  induction bindings with
  | nil => simp
  | cons binding bindings ih =>
    rw [List.map_cons, List.mem_cons, ih, List.lookup_cons]
    by_cases hkey : key = binding.1
    · simp [hkey]
    · rw [beq_eq_false_iff_ne.2 hkey]
      exact or_iff_right hkey

/-- Without repeated keys, looking up finds what is there. -/
theorem lookup_eq_some_iff_mem (h : (bindings.map (·.1)).Nodup) :
    bindings.lookup key = some value ↔ (key, value) ∈ bindings := by
  induction bindings with
  | nil => simp
  | cons b bindings ih =>
    obtain ⟨hnew, hrest⟩ := List.nodup_cons.1 h
    rw [List.lookup_cons, List.mem_cons]
    by_cases hkey : key = b.1
    · subst hkey
      have hother : (b.1, value) ∉ bindings := fun hmem =>
        hnew (List.mem_map_of_mem (f := (·.1)) hmem)
      simp [hother, Prod.ext_iff, eq_comm]
    · simp [beq_eq_false_iff_ne.2 hkey, ih hrest, Prod.ext_iff, hkey]

/-! ## Order -/

/-- The keys stand in order, each once. -/
def InOrder (bindings : List (String × α)) : Prop :=
  bindings.Pairwise fun x y => x.1 < y.1

theorem inOrder_put (h : InOrder sorted) : InOrder (put key value sorted) := by
  induction sorted with
  | nil => exact List.pairwise_singleton _ _
  | cons binding rest ih =>
    obtain ⟨hfirst, hrest⟩ := List.pairwise_cons.1 h
    rw [put]
    split
    · rename_i hlt
      refine List.pairwise_cons.2 ⟨fun b hb => ?_, h⟩
      rcases List.mem_cons.1 hb with rfl | hb
      · exact hlt
      · exact lt_trans hlt (hfirst b hb)
    · rename_i hge
      split
      · rename_i heq
        refine List.pairwise_cons.2 ⟨fun b hb => ?_, hrest⟩
        rw [heq]
        exact hfirst b hb
      · rename_i hne
        refine List.pairwise_cons.2 ⟨fun b hb => ?_, ih hrest⟩
        rcases mem_map_put.1 (List.mem_map_of_mem hb) with hkey | hkey
        · rw [hkey]
          exact lt_of_le_of_ne (not_lt.1 hge) (Ne.symm hne)
        · obtain ⟨c, hc, hsame⟩ := List.mem_map.1 hkey
          rw [← hsame]
          exact hfirst c hc

theorem inOrder_foldl_put (h : InOrder sorted) (bindings : List (String × α)) :
    InOrder (bindings.foldl (fun sorted b => put b.1 b.2 sorted) sorted) := by
  induction bindings generalizing sorted with
  | nil => exact h
  | cons b bindings ih => exact ih (inOrder_put h)

theorem inOrder_ofList (bindings : List (String × α)) : InOrder (ofList bindings) :=
  inOrder_foldl_put List.Pairwise.nil bindings

/-- Sorted keys stand in order, each once. -/
theorem sortedLT_keys (names : List String) : (keys names).SortedLT :=
  (List.pairwise_map.2 (inOrder_ofList _)).sortedLT

/-! ## Permutations -/

/-- Putting a value under a new key adds one binding. -/
theorem put_perm (h : key ∉ sorted.map (·.1)) :
    (put key value sorted).Perm ((key, value) :: sorted) := by
  induction sorted with
  | nil => exact .refl _
  | cons binding rest ih =>
    rw [List.map_cons, List.mem_cons, not_or] at h
    rw [put]
    split
    · exact .refl _
    · rw [if_neg h.1]
      exact ((ih h.2).cons binding).trans (.swap _ _ _)

theorem foldl_put_perm (h : ((sorted ++ bindings).map (·.1)).Nodup) :
    (bindings.foldl (fun sorted b => put b.1 b.2 sorted) sorted).Perm
      (sorted ++ bindings) := by
  induction bindings generalizing sorted with
  | nil => rw [List.append_nil]; exact .refl _
  | cons b bindings ih =>
    have hmiddle : (sorted ++ b :: bindings).Perm ((b :: sorted) ++ bindings) :=
      List.perm_middle
    have hkeys : (((b :: sorted) ++ bindings).map (·.1)).Nodup :=
      (hmiddle.map (·.1)).nodup_iff.1 h
    have hnew : b.1 ∉ sorted.map (·.1) := by
      intro hmem
      exact (List.nodup_cons.1 hkeys).1
        (((List.sublist_append_left sorted bindings).map (·.1)).subset hmem)
    have hput : (put b.1 b.2 sorted ++ bindings).Perm (b :: sorted ++ bindings) :=
      (put_perm hnew).append_right bindings
    exact (ih ((hput.map (·.1)).nodup_iff.2 hkeys)).trans (hput.trans hmiddle.symm)

/-- Where no key is repeated, sorting loses nothing. -/
theorem ofList_perm (h : (bindings.map (·.1)).Nodup) : (ofList bindings).Perm bindings :=
  foldl_put_perm h

/-- Keys in order are without repetition. -/
theorem InOrder.nodup (h : InOrder sorted) : (sorted.map (·.1)).Nodup :=
  List.pairwise_map.2 (h.imp fun hlt => ne_of_lt hlt)

/-- A list in order is the sorted list of its bindings, however these are
arranged. -/
theorem ofList_eq_of_perm (hsorted : InOrder sorted) (hperm : bindings.Perm sorted) :
    ofList bindings = sorted := by
  have hkeys : (bindings.map (·.1)).Nodup := (hperm.map (·.1)).nodup_iff.2 hsorted.nodup
  refine List.Perm.eq_of_pairwise (fun a b _ _ hab hba => ?_) (inOrder_ofList bindings)
    hsorted ((ofList_perm hkeys).trans hperm)
  exact absurd hba (lt_asymm hab)

end VpnAttach.Sorted
