import VpnAttach.Difference
import VpnAttach.Proofs.Sorted

/-!
# Laws of differences

A member moves between two versions if it is bound in one of them only, or
bound to different values.  `moving` holds exactly these members, and so
`touches` and `isEmpty` can be read off the two versions.
-/

namespace VpnAttach

/-! ## Members that move -/

namespace Difference

variable {current previous : List (String × Json)} {key : String}

/-- A member is bound in one version only, or to different values. -/
def Moves (current previous : List (String × Json)) (key : String) : Prop :=
  match current.lookup key, previous.lookup key with
  | some new, some old => old.same new = false
  | some _, none | none, some _ => True
  | none, none => False

theorem mem_added :
    key ∈ (ofMembers current previous).added ↔
      (current.lookup key).isSome = true ∧ (previous.lookup key).isNone = true := by
  rw [ofMembers, Sorted.mem_keys, List.mem_filter, Sorted.mem_map_fst_iff]

theorem mem_removed :
    key ∈ (ofMembers current previous).removed ↔
      (previous.lookup key).isSome = true ∧ (current.lookup key).isNone = true := by
  rw [ofMembers, Sorted.mem_keys, List.mem_filter, Sorted.mem_map_fst_iff]

theorem mem_changed :
    key ∈ (ofMembers current previous).changed ↔
      ∃ new old, current.lookup key = some new ∧ previous.lookup key = some old ∧
        old.same new = false := by
  rw [ofMembers, Sorted.mem_keys, List.mem_filter, Sorted.mem_map_fst_iff]
  cases current.lookup key with
  | none => simp
  | some new =>
    cases previous.lookup key with
    | none => simp
    | some old => simp

theorem mem_moving :
    key ∈ (ofMembers current previous).moving ↔ Moves current previous key := by
  rw [moving, Sorted.mem_keys, List.mem_append, List.mem_append, mem_added, mem_removed,
    mem_changed, Moves]
  cases current.lookup key with
  | none => cases previous.lookup key <;> simp
  | some new => cases previous.lookup key <;> simp

/-- A difference touches the members that move. -/
theorem touches_iff {names : List String} :
    (ofMembers current previous).touches names = true ↔
      ∃ key ∈ names, Moves current previous key := by
  rw [touches, List.any_eq_true]
  simp only [mem_moving, List.contains_iff_mem]
  exact exists_congr fun key => And.comm

/-- A difference is empty if no member moves. -/
theorem isEmpty_iff :
    (ofMembers current previous).isEmpty = true ↔ ∀ key, ¬Moves current previous key := by
  simp only [← mem_moving, ← List.eq_nil_iff_forall_not_mem, moving, Sorted.keys_eq_nil,
    List.append_eq_nil_iff, isEmpty, Bool.and_eq_true, List.isEmpty_iff]

end Difference
end VpnAttach
