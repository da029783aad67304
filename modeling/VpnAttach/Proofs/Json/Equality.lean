import VpnAttach.Proofs.Json.Double
import VpnAttach.Proofs.Sorted

/-!
# Equality of JSON values

`Json.Equal` says what equality is: deep, in the order of arrays, whatever the
order of members, and between numbers of one kind only, doubles being compared
as the numbers they stand for.  Values that a text can stand for
(`WellFormed`) are compared so by `Json.same` (`same_iff`).
-/

namespace VpnAttach.Json

/-! ## Values of one kind -/

variable {α : Type} {encode : α → Json} {xs ys : List α}

/-- Arrays of encodings are equal if the lists are. -/
theorem same_arr_map (hencode : ∀ x y, (encode x).same (encode y) = true ↔ x = y) :
    (Json.arr (xs.map encode)).same (.arr (ys.map encode)) = true ↔ xs = ys := by
  rw [same]
  induction xs generalizing ys with
  | nil => cases ys <;> simp [sameItems]
  | cons x xs ih =>
    cases ys with
    | nil => simp [sameItems]
    | cons y ys =>
      rw [List.map_cons, List.map_cons, sameItems, Bool.and_eq_true, hencode, ih,
        List.cons.injEq]

@[simp] theorem same_str {x y : String} : (Json.str x).same (.str y) = true ↔ x = y := by
  rw [same, beq_iff_eq]

@[simp] theorem same_bool {x y : Bool} : (Json.bool x).same (.bool y) = true ↔ x = y := by
  rw [same, beq_iff_eq]

@[simp] theorem same_int {x y : Int} : (Json.int x).same (.int y) = true ↔ x = y := by
  rw [same, beq_iff_eq]

theorem same_obj {xs ys : List (String × Json)} :
    (Json.obj xs).same (.obj ys) = true ↔
      sameMembers xs ys = true ∧ ∀ y ∈ ys, ∃ x ∈ xs, x.1 = y.1 := by
  simp [same]

@[simp] theorem sameMembers_nil {ys : List (String × Json)} : sameMembers [] ys = true := by
  rw [sameMembers]

theorem sameMembers_cons {key : String} {x : Json} {xs ys : List (String × Json)} :
    sameMembers ((key, x) :: xs) ys = true ↔
      (∃ y, ys.lookup key = some y ∧ x.same y = true) ∧ sameMembers xs ys = true := by
  rw [sameMembers, Bool.and_eq_true]
  cases ys.lookup key <;> simp

@[simp] theorem same_strings {xs ys : List String} :
    (strings xs).same (strings ys) = true ↔ xs = ys :=
  same_arr_map fun _ _ => same_str

/-! ## Parts -/

variable {x y : Json} {members members' : List (String × Json)}

theorem sameItems_iff {xs ys : List Json} : sameItems xs ys = true ↔
    xs.length = ys.length ∧
      ∀ (i : Nat) (x y : Json), xs[i]? = some x → ys[i]? = some y → x.same y = true := by
  induction xs generalizing ys with
  | nil => cases ys <;> simp [sameItems]
  | cons x xs ih =>
    cases ys with
    | nil => simp [sameItems]
    | cons y ys =>
      rw [sameItems, Bool.and_eq_true, ih, List.length_cons, List.length_cons,
        Nat.add_right_cancel_iff]
      constructor
      · rintro ⟨hfirst, hlength, hrest⟩
        refine ⟨hlength, fun i x' y' hx hy => ?_⟩
        cases i with
        | zero =>
          obtain rfl := Option.some.inj hx
          obtain rfl := Option.some.inj hy
          exact hfirst
        | succ i => exact hrest i x' y' hx hy
      · rintro ⟨hlength, h⟩
        exact ⟨h 0 x y rfl rfl, hlength, fun i => h (i + 1)⟩

theorem sameMembers_iff : sameMembers members members' = true ↔
    ∀ member ∈ members, ∃ y, members'.lookup member.1 = some y ∧ member.2.same y = true := by
  induction members with
  | nil => simp
  | cons member members ih => rw [sameMembers_cons, ih, List.forall_mem_cons]

/-! ## What equality is -/

/-- A value that a text can stand for: no object has a key twice, every double stands
for a number, and nothing is `unheld`. -/
inductive WellFormed : Json → Prop
  | null : WellFormed .null
  | bool (value : Bool) : WellFormed (.bool value)
  | int (value : Int) : WellFormed (.int value)
  | float {x : Float} (h : x.isFinite = true) : WellFormed (.float x)
  | str (value : String) : WellFormed (.str value)
  | arr {items : List Json} (h : ∀ item ∈ items, WellFormed item) : WellFormed (.arr items)
  | obj {members : List (String × Json)} (hkeys : (members.map (·.1)).Nodup)
      (h : ∀ member ∈ members, WellFormed member.2) : WellFormed (.obj members)

/-- Two values are equal.  Arrays are equal item by item, objects key by key; an integer
is never equal to a double. -/
inductive Equal : Json → Json → Prop
  | null : Equal .null .null
  | bool (value : Bool) : Equal (.bool value) (.bool value)
  | int (value : Int) : Equal (.int value) (.int value)
  | float {x y : Float} {q : ℚ} (hx : value? x = some q) (hy : value? y = some q) :
      Equal (.float x) (.float y)
  | str (value : String) : Equal (.str value) (.str value)
  | arr {xs ys : List Json} (hlength : xs.length = ys.length)
      (h : ∀ (i : Nat) (x y : Json), xs[i]? = some x → ys[i]? = some y → Equal x y) :
      Equal (.arr xs) (.arr ys)
  | obj {xs ys : List (String × Json)}
      (hkeys : ∀ key, (xs.lookup key).isSome = (ys.lookup key).isSome)
      (h : ∀ key x y, xs.lookup key = some x → ys.lookup key = some y → Equal x y) :
      Equal (.obj xs) (.obj ys)

theorem Equal.symm (h : Equal x y) : Equal y x := by
  induction h with
  | null => exact .null
  | bool value => exact .bool value
  | int value => exact .int value
  | float hx hy => exact .float hy hx
  | str value => exact .str value
  | arr hlength _ ih => exact .arr hlength.symm fun i x y hx hy => ih i y x hy hx
  | obj hkeys _ ih =>
    exact .obj (fun key => (hkeys key).symm) fun key x y hx hy => ih key y x hy hx

theorem equal_obj_iff : Equal (.obj members) (.obj members') ↔
    (∀ key, (members.lookup key).isSome = (members'.lookup key).isSome) ∧
      ∀ key x y, members.lookup key = some x → members'.lookup key = some y → Equal x y :=
  ⟨fun h => by cases h; exact ⟨‹_›, ‹_›⟩, fun ⟨hkeys, h⟩ => .obj hkeys h⟩

theorem WellFormed.of_lookup {key : String} (h : WellFormed (.obj members))
    (hx : members.lookup key = some x) : WellFormed x := by
  cases h with
  | obj hkeys hvalues => exact hvalues _ ((Sorted.lookup_eq_some_iff_mem hkeys).1 hx)

/-! ## Comparing -/

theorem same_float_iff {x y : Float} (hx : x.isFinite = true) (hy : y.isFinite = true) :
    (Json.float x).same (.float y) = true ↔ Equal (.float x) (.float y) := by
  rw [same, beq_iff_value?_eq hx hy]
  constructor
  · intro h
    rw [← isSome_value?, Option.isSome_iff_exists] at hx
    obtain ⟨q, hq⟩ := hx
    exact .float hq (h ▸ hq)
  · intro h
    cases h with
    | float hx hy => rw [hx, hy]

theorem same_arr_iff {xs ys : List Json}
    (hitems : ∀ x ∈ xs, ∀ y ∈ ys, x.same y = true ↔ Equal x y) :
    (Json.arr xs).same (.arr ys) = true ↔ Equal (.arr xs) (.arr ys) := by
  have hitem {i : Nat} {x y : Json} (hx : xs[i]? = some x) (hy : ys[i]? = some y) :
      x.same y = true ↔ Equal x y :=
    hitems x (List.mem_of_getElem? hx) y (List.mem_of_getElem? hy)
  rw [same, sameItems_iff]
  constructor
  · rintro ⟨hlength, hsame⟩
    exact .arr hlength fun i x y hx hy => (hitem hx hy).1 (hsame i x y hx hy)
  · intro h
    cases h with
    | arr hlength hequal =>
      exact ⟨hlength, fun i x y hx hy => (hitem hx hy).2 (hequal i x y hx hy)⟩

/-- Comparing the members of the first object and then the keys of the second is enough
when no key is there twice. -/
theorem same_obj_iff (hkeys : (members.map (·.1)).Nodup) (hkeys' : (members'.map (·.1)).Nodup)
    (hvalues : ∀ member ∈ members, ∀ member' ∈ members',
      member.2.same member'.2 = true ↔ Equal member.2 member'.2) :
    (Json.obj members).same (.obj members') = true ↔
      Equal (.obj members) (.obj members') := by
  have hvalue {key : String} {x y : Json} (hx : members.lookup key = some x)
      (hy : members'.lookup key = some y) : x.same y = true ↔ Equal x y :=
    hvalues (key, x) ((Sorted.lookup_eq_some_iff_mem hkeys).1 hx)
      (key, y) ((Sorted.lookup_eq_some_iff_mem hkeys').1 hy)
  rw [same_obj, sameMembers_iff, equal_obj_iff]
  constructor
  · rintro ⟨hsame, hbound⟩
    refine ⟨fun key => ?_, fun key x y hx hy => (hvalue hx hy).1 ?_⟩
    · rw [Bool.eq_iff_iff, ← Sorted.mem_map_fst_iff, ← Sorted.mem_map_fst_iff]
      constructor
      · intro hmem
        obtain ⟨member, hmember, rfl⟩ := List.mem_map.1 hmem
        obtain ⟨y, hy, -⟩ := hsame member hmember
        exact Sorted.mem_map_fst_iff.2 (Option.isSome_of_eq_some hy)
      · intro hmem
        obtain ⟨member', hmember', rfl⟩ := List.mem_map.1 hmem
        exact List.mem_map.2 (hbound member' hmember')
    · obtain ⟨y', hy', h⟩ := hsame _ ((Sorted.lookup_eq_some_iff_mem hkeys).1 hx)
      rwa [Option.some.inj (hy.symm.trans hy')]
  · rintro ⟨hbound, hequal⟩
    constructor
    · rintro ⟨key, x⟩ hmember
      have hx := (Sorted.lookup_eq_some_iff_mem hkeys).2 hmember
      have hsome := hbound key
      rw [hx, Option.isSome_some, eq_comm, Option.isSome_iff_exists] at hsome
      obtain ⟨y, hy⟩ := hsome
      exact ⟨y, hy, (hvalue hx hy).2 (hequal key x y hx hy)⟩
    · intro member' hmember'
      have hsome := Sorted.mem_map_fst_iff.1 (List.mem_map_of_mem (f := (·.1)) hmember')
      rw [← hbound] at hsome
      exact List.mem_map.1 (Sorted.mem_map_fst_iff.2 hsome)

/-- Values that a text can stand for are compared by what they are. -/
theorem same_iff (hx : WellFormed x) (hy : WellFormed y) : x.same y = true ↔ Equal x y := by
  induction hx generalizing y with
  | null =>
    cases hy with
    | null => exact iff_of_true (by rw [same]) .null
    | _ => exact iff_of_false (by simp [same]) fun h => nomatch h
  | bool value =>
    cases hy with
    | bool _ =>
      rw [same_bool]
      exact ⟨fun h => h ▸ .bool value, fun h => by cases h; rfl⟩
    | _ => exact iff_of_false (by simp [same]) fun h => nomatch h
  | int value =>
    cases hy with
    | int _ =>
      rw [same_int]
      exact ⟨fun h => h ▸ .int value, fun h => by cases h; rfl⟩
    | _ => exact iff_of_false (by simp [same]) fun h => nomatch h
  | float hx =>
    cases hy with
    | float hy => exact same_float_iff hx hy
    | _ => exact iff_of_false (by simp [same]) fun h => nomatch h
  | str value =>
    cases hy with
    | str _ =>
      rw [same_str]
      exact ⟨fun h => h ▸ .str value, fun h => by cases h; rfl⟩
    | _ => exact iff_of_false (by simp [same]) fun h => nomatch h
  | arr _ ih =>
    cases hy with
    | arr hitems => exact same_arr_iff fun x hx y hy => ih x hx (hitems y hy)
    | _ => exact iff_of_false (by simp [same]) fun h => nomatch h
  | obj hkeys _ ih =>
    cases hy with
    | obj hkeys' hvalues =>
      exact same_obj_iff hkeys hkeys' fun m hm m' hm' => ih m hm (hvalues m' hm')
    | _ => exact iff_of_false (by simp [same]) fun h => nomatch h

end VpnAttach.Json
