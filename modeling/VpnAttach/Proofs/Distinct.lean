import Mathlib.Data.List.Basic
import VpnAttach.Distinct

/-!
# Laws of lists without repetitions

`distinctBy` loses no key and keeps none twice, and it commutes with every
filter on keys.  The law that later modules use most is `distinctBy_filterMap`:
looking up distinct ids, one after the other, is the same as looking up all ids
and dropping the repetitions afterwards.
-/

namespace VpnAttach

variable {α κ : Type} [BEq κ] [LawfulBEq κ]

/-- Every key of a list is a key of its distinct items. -/
theorem mem_map_distinctBy {key : α → κ} {k : κ} {xs : List α} :
    k ∈ (distinctBy key xs).map key ↔ k ∈ xs.map key := by
  induction xs with
  | nil => rfl
  | cons y ys ih =>
    rw [distinctBy, List.map_cons, List.map_cons, List.mem_cons,
      List.mem_cons, ← ih]
    by_cases hk : k = key y
    · simp [hk]
    · constructor
      · intro hcases
        rcases hcases with h | h
        · exact Or.inl h
        · obtain ⟨x, hx, rfl⟩ := List.mem_map.1 h
          exact Or.inr (List.mem_map_of_mem (List.mem_filter.1 hx).1)
      · intro hcases
        rcases hcases with h | h
        · exact Or.inl h
        · obtain ⟨x, hx, rfl⟩ := List.mem_map.1 h
          refine Or.inr (List.mem_map_of_mem (List.mem_filter.2 ⟨hx, ?_⟩))
          simpa using hk

/-- No two of the distinct items have the same key. -/
theorem nodup_map_distinctBy (key : α → κ) (xs : List α) :
    ((distinctBy key xs).map key).Nodup := by
  induction xs with
  | nil => exact List.nodup_nil
  | cons y ys ih =>
    rw [distinctBy, List.map_cons]
    refine List.nodup_cons.2 ⟨?_, ih.sublist (List.filter_sublist.map key)⟩
    intro hmem
    obtain ⟨x, hx, hkey⟩ := List.mem_map.1 hmem
    have hne := (List.mem_filter.1 hx).2
    simp [hkey] at hne

omit [LawfulBEq κ] in
/-- The distinct items are in the order in which they were. -/
theorem distinctBy_sublist (key : α → κ) (xs : List α) : (distinctBy key xs).Sublist xs := by
  induction xs with
  | nil => exact List.nil_sublist _
  | cons y ys ih => exact (List.filter_sublist.trans ih).cons_cons y

theorem nodup_distinct (xs : List κ) : (distinct xs).Nodup := by
  have h := nodup_map_distinctBy id xs
  rwa [List.map_id] at h

@[simp] theorem mem_distinct {k : κ} {xs : List κ} : k ∈ distinct xs ↔ k ∈ xs := by
  have h : k ∈ (distinctBy id xs).map id ↔ k ∈ xs.map id := mem_map_distinctBy
  simpa [distinct] using h

/-- Filtering by key before or after makes no difference. -/
theorem filter_distinctBy (key : α → κ) (p : κ → Bool) (xs : List α) :
    (distinctBy key xs).filter (fun x => p (key x)) =
      distinctBy key (xs.filter fun x => p (key x)) := by
  induction xs with
  | nil => rfl
  | cons y ys ih =>
    rw [distinctBy, List.filter_cons, List.filter_cons]
    split
    · rename_i hy
      rw [distinctBy, ← ih, List.filter_filter, List.filter_filter]
      simp only [Bool.and_comm]
    · rename_i hy
      rw [← ih, List.filter_filter]
      -- An item with the key of `y` fails the test anyway.
      refine List.filter_congr fun x _ => ?_
      by_cases hx : key x = key y
      · simp [hx, hy]
      · simp [hx]

omit [LawfulBEq κ] in
theorem distinct_cons (x : κ) (xs : List κ) :
    distinct (x :: xs) = x :: (distinct xs).filter (· != x) := rfl

theorem filter_distinct (p : κ → Bool) (xs : List κ) :
    (distinct xs).filter p = distinct (xs.filter p) :=
  filter_distinctBy id p xs

/-- The distinct items are those that are left without the duplicates. -/
theorem distinct_eq_eraseDups (xs : List κ) : distinct xs = xs.eraseDups := by
  induction hlength : xs.length using Nat.strongRecOn generalizing xs with
  | ind n ih =>
    cases xs with
    | nil => rfl
    | cons x xs =>
      have hshorter : (xs.filter (· != x)).length < n := by
        rw [← hlength, List.length_cons]
        exact Nat.lt_succ_of_le (List.length_filter_le _ xs)
      rw [distinct_cons, filter_distinct, ih _ hshorter _ rfl, List.eraseDups_cons]
      rfl

/-- Dropping repetitions in the front of a list first changes nothing. -/
theorem distinct_distinct_append (xs ys : List κ) :
    distinct (distinct xs ++ ys) = distinct (xs ++ ys) := by
  induction xs with
  | nil => rfl
  | cons x xs ih =>
    rw [distinct_cons, List.cons_append, List.cons_append, distinct_cons,
      distinct_cons, ← ih, filter_distinct _ (distinct xs ++ ys), filter_distinct _ (_ ++ ys),
      List.filter_append, List.filter_append, List.filter_filter]
    simp only [Bool.and_self]

/-- Dropping repetitions in the rest of a list first changes nothing. -/
theorem distinct_append_distinct (xs ys : List κ) :
    distinct (xs ++ distinct ys) = distinct (xs ++ ys) := by
  induction xs with
  | nil =>
    have h := distinct_distinct_append ys []
    rwa [List.append_nil, List.append_nil] at h
  | cons x xs ih =>
    rw [List.cons_append, List.cons_append, distinct_cons, distinct_cons, ih]

/-- Dropping repetitions in each of several parts first changes nothing. -/
theorem distinct_append_flatMap_distinct (f : α → List κ) (xs : List κ)
    (parts : List α) :
    distinct (xs ++ parts.flatMap fun part => distinct (f part)) =
      distinct (xs ++ parts.flatMap f) := by
  induction parts generalizing xs with
  | nil => rfl
  | cons part parts ih =>
    rw [List.flatMap_cons, List.flatMap_cons, ← List.append_assoc,
      ← List.append_assoc, ih, ← distinct_distinct_append,
      distinct_append_distinct, distinct_distinct_append]

/-- Looking up distinct keys, or dropping repetitions among what was found. -/
theorem distinctBy_filterMap {key : α → κ} {find : κ → Option α}
    (hfind : ∀ k x, find k = some x → key x = k) (ks : List κ) :
    distinctBy key (ks.filterMap find) = (distinct ks).filterMap find := by
  induction ks with
  | nil => rfl
  | cons k ks ih =>
    rw [distinct_cons, List.filterMap_cons, List.filterMap_cons, List.filterMap_filter]
    cases hk : find k with
    | none =>
      rw [ih]
      refine List.filterMap_congr fun j _ => ?_
      by_cases hj : j = k
      · simp [hj, hk]
      · simp [hj]
    | some x =>
      rw [distinctBy, ih, List.filter_filterMap]
      refine congrArg (x :: ·) (List.filterMap_congr fun j _ => ?_)
      cases hj : find j with
      | none => simp
      | some y =>
        rw [hfind k x hk]
        simp only [Option.filter_some, hfind j y hj]

end VpnAttach
