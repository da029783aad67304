import Mathlib.Data.List.Nodup
import VpnAttach.Json.Record
import VpnAttach.Proofs.Sorted

/-!
# Laws of decoding

An encoder writes the members of a record in a fixed order, but an object is
the same value in every order, and a value that is kept has its members sorted.
So reading back is stated for every `Arrangement` of the members of all objects
in a value: leaving them as they are is one, and `Json.canonical` is another.
What the decoders of records find is stated for an object that has the members
in any order (`Arranged`).

`ReadsBack encode decode` says that whatever `encode` writes, `decode` reads,
and that neither an omitted nor a `null` member can be mistaken for it.  It is
shown for leaves and kept by the parts that decoders are put together from.
-/

namespace VpnAttach.Json

variable {α : Type} {arrange : Json → Json} {key tag name : String}
  {members arranged : List (String × Json)} {names : List String}

/-! ## Members by key -/

/-- Without repeated keys, the order of members does not matter. -/
theorem lookup_of_perm (hperm : arranged.Perm members) (h : (members.map (·.1)).Nodup)
    (key : String) : arranged.lookup key = members.lookup key := by
  have harranged : (arranged.map (·.1)).Nodup := (hperm.map (·.1)).nodup_iff.2 h
  refine Option.ext fun value => ?_
  rw [Sorted.lookup_eq_some_iff_mem harranged, Sorted.lookup_eq_some_iff_mem h, hperm.mem_iff]

theorem lookup_map_snd (f : Json → Json) (members : List (String × Json)) (key : String) :
    (members.map fun m => (m.1, f m.2)).lookup key = (members.lookup key).map f := by
  induction members with
  | nil => rfl
  | cons member members ih =>
    rw [List.map_cons, List.lookup_cons, List.lookup_cons, ih]
    split <;> rfl

theorem countP_key (members : List (String × Json)) (key : String) :
    members.countP (·.1 == key) = (members.map (·.1)).count key := by
  rw [List.count, List.countP_map]
  rfl

theorem lookup_cons_ite {value : Json} : ((key, value) :: members).lookup name =
    if name = key then some value else members.lookup name := by
  rw [List.lookup_cons]
  by_cases hname : name = key
  · simp [hname]
  · simp [hname, beq_eq_false_iff_ne.2 hname]

theorem lookup_memberIf (encode : α → Json) (value : Option α) :
    (memberIf key encode value).lookup name =
      if name = key then value.map encode else none := by
  cases value with
  | none => simp [memberIf]
  | some value => rw [memberIf, lookup_cons_ite, List.lookup_nil, Option.map_some]

/-- A member that may be left out has no other key. -/
theorem keys_memberIf (key : String) (encode : α → Json) (value : Option α) :
    ((memberIf key encode value).map (·.1)).Sublist [key] := by
  cases value with
  | none => exact List.nil_sublist _
  | some _ => exact List.Sublist.refl _

/-! ## Values that can be kept -/

theorem heldItems_iff {items : List Json} :
    heldItems items = true ↔ ∀ item ∈ items, item.held = true := by
  induction items with
  | nil => simp [heldItems]
  | cons item items ih => rw [heldItems, Bool.and_eq_true, ih, List.forall_mem_cons]

theorem heldMembers_iff :
    heldMembers members = true ↔ ∀ member ∈ members, member.2.held = true := by
  induction members with
  | nil => simp [heldMembers]
  | cons member members ih => rw [heldMembers, Bool.and_eq_true, ih, List.forall_mem_cons]

@[simp] theorem held_str (s : String) : (Json.str s).held = true := by rw [held] <;> simp

@[simp] theorem held_bool (b : Bool) : (Json.bool b).held = true := by rw [held] <;> simp

@[simp] theorem held_int (n : Int) : (Json.int n).held = true := by rw [held] <;> simp

@[simp] theorem held_null : Json.null.held = true := by rw [held] <;> simp

@[simp] theorem held_obj : (Json.obj members).held = heldMembers members := by rw [held]

@[simp] theorem heldMembers_nil : heldMembers [] = true := by rw [heldMembers]

@[simp] theorem heldMembers_cons (member : String × Json) :
    heldMembers (member :: members) = (member.2.held && heldMembers members) := by
  rw [heldMembers]

@[simp] theorem heldMembers_append (xs ys : List (String × Json)) :
    heldMembers (xs ++ ys) = (heldMembers xs && heldMembers ys) := by
  rw [Bool.eq_iff_iff, Bool.and_eq_true]
  simp only [heldMembers_iff, List.forall_mem_append]

/-! ## Arrangements -/

/-- An object with the given members in some order, their values arranged. -/
def Arranged (arrange : Json → Json) (members : List (String × Json)) (json : Json) : Prop :=
  (members.map (·.1)).Nodup ∧
    ∃ arranged, json = .obj arranged ∧ arranged.Perm (members.map fun m => (m.1, arrange m.2))

/-- A way to arrange the members of all objects in a value. -/
structure Arrangement (arrange : Json → Json) : Prop where
  null : arrange .null = .null
  bool (b : Bool) : arrange (.bool b) = .bool b
  int (n : Int) : arrange (.int n) = .int n
  str (s : String) : arrange (.str s) = .str s
  arr (items : List Json) : arrange (.arr items) = .arr (items.map arrange)
  obj {members : List (String × Json)} (hkeys : (members.map (·.1)).Nodup) :
    Arranged arrange members (arrange (.obj members))
  held {json : Json} (hheld : json.held = true) : (arrange json).held = true

/-- Leaving all members where they are. -/
theorem Arrangement.id : Arrangement fun json => json where
  null := rfl
  bool _ := rfl
  int _ := rfl
  str _ := rfl
  arr items := congrArg Json.arr (List.map_id' items).symm
  obj {members} hkeys := ⟨hkeys, members, rfl, by simp⟩
  held h := h

theorem canonicalItems_eq (items : List Json) :
    canonicalItems items = items.map canonical := by
  induction items with
  | nil => rw [canonicalItems, List.map_nil]
  | cons item items ih => rw [canonicalItems, ih, List.map_cons]

theorem canonicalMembers_eq (sorted members : List (String × Json)) :
    canonicalMembers sorted members =
      (members.map fun m => (m.1, m.2.canonical)).foldl
        (fun sorted b => Sorted.put b.1 b.2 sorted) sorted := by
  induction members generalizing sorted with
  | nil => rw [canonicalMembers, List.map_nil, List.foldl_nil]
  | cons member members ih => rw [canonicalMembers, ih, List.map_cons, List.foldl_cons]

/-- The members of a canonical object are sorted by key. -/
theorem canonical_obj (members : List (String × Json)) :
    (Json.obj members).canonical =
      .obj (Sorted.ofList (members.map fun m => (m.1, m.2.canonical))) := by
  rw [canonical, canonicalMembers_eq, Sorted.ofList]

theorem heldMembers_put {sorted : List (String × Json)} {value : Json}
    (hvalue : value.held = true) (h : heldMembers sorted = true) :
    heldMembers (Sorted.put key value sorted) = true := by
  induction sorted with
  | nil => simp [Sorted.put, hvalue]
  | cons member sorted ih =>
    rw [heldMembers_cons, Bool.and_eq_true] at h
    rw [Sorted.put]
    split
    · simp [hvalue, h]
    · split
      · simp [hvalue, h.2]
      · simp [h.1, ih h.2]

mutual

theorem held_canonical : ∀ json : Json, json.held = true → json.canonical.held = true
  | .arr items, h => by
    rw [held] at h
    rw [canonical, held]
    exact heldItems_canonicalItems items h
  | .obj members, h => by
    rw [held] at h
    rw [canonical, held]
    exact heldMembers_canonicalMembers members [] h heldMembers_nil
  | .null, h | .bool _, h | .int _, h | .float _, h | .str _, h | .unheld, h => by
    simp_all [canonical]

theorem heldItems_canonicalItems : ∀ items : List Json, heldItems items = true →
    heldItems (canonicalItems items) = true
  | [], h => by rwa [canonicalItems]
  | item :: items, h => by
    rw [heldItems, Bool.and_eq_true] at h
    rw [canonicalItems, heldItems, Bool.and_eq_true]
    exact ⟨held_canonical item h.1, heldItems_canonicalItems items h.2⟩

theorem heldMembers_canonicalMembers : ∀ members sorted : List (String × Json),
    heldMembers members = true → heldMembers sorted = true →
      heldMembers (canonicalMembers sorted members) = true
  | [], _, _, hsorted => by rwa [canonicalMembers]
  | (_, value) :: members, _, h, hsorted => by
    rw [heldMembers, Bool.and_eq_true] at h
    rw [canonicalMembers]
    exact heldMembers_canonicalMembers members _ h.2
      (heldMembers_put (held_canonical value h.1) hsorted)

end

/-- Sorting all members by key. -/
theorem Arrangement.canonical : Arrangement Json.canonical where
  null := by rw [Json.canonical] <;> simp
  bool _ := by rw [Json.canonical] <;> simp
  int _ := by rw [Json.canonical] <;> simp
  str _ := by rw [Json.canonical] <;> simp
  arr items := by rw [Json.canonical, canonicalItems_eq]
  obj {members} hkeys := by
    refine ⟨hkeys, _, canonical_obj members, Sorted.ofList_perm ?_⟩
    rwa [List.map_map]
  held h := held_canonical _ h

/-! ## Records -/

namespace Arranged

variable {json : Json} (h : Arranged arrange members json)
include h

/-- Every member is found, and none is there twice. -/
theorem exists_members : ∃ arranged, json = .obj arranged ∧
    arranged.Perm (members.map fun m => (m.1, arrange m.2)) ∧
    (∀ name, arranged.lookup name = (members.lookup name).map arrange) ∧
    ∀ name, arranged.countP (·.1 == name) = (members.map (·.1)).count name := by
  obtain ⟨hkeys, arranged, rfl, hperm⟩ := h
  have hnames : (members.map fun m => (m.1, arrange m.2)).map (·.1) = members.map (·.1) := by
    rw [List.map_map]
    rfl
  refine ⟨arranged, rfl, hperm, fun name => ?_, fun name => ?_⟩
  · rw [lookup_of_perm hperm (hnames ▸ hkeys), lookup_map_snd]
  · rw [countP_key, (hperm.map (·.1)).count_eq, hnames]

theorem count_le_one (name : String) : (members.map (·.1)).count name ≤ 1 :=
  List.nodup_iff_count_le_one.1 h.1 name

/-- A record finds its members. -/
theorem record? {dialect : Dialect} (hdialect : dialect ≠ .document) (names : List String) :
    json.record? dialect names =
      some (names.map fun name => (members.lookup name).map arrange) := by
  obtain ⟨arranged, rfl, -, hlookup, hcount⟩ := h.exists_members
  have honce : (names.all fun name => arranged.countP (·.1 == name) ≤ 1) = true :=
    List.all_eq_true.2 fun name _ =>
      decide_eq_true ((hcount name).trans_le (h.count_le_one name))
  simp only [Json.record?, honce, bne_iff_ne.2 hdialect, Bool.true_or, Bool.and_self, if_true,
    hlookup]

theorem get? (key : String) : json.get? key = (members.lookup key).map arrange := by
  obtain ⟨arranged, rfl, -, hlookup, -⟩ := h.exists_members
  exact hlookup key

theorem isBare : json.isBare = true := by
  obtain ⟨arranged, rfl, -⟩ := h.exists_members
  rfl

omit h in
/-- Members that a record does not have are handed back, and are not taken for
its own. -/
theorem membersAndRest? {own rest : List (String × Json)}
    (h : Arranged arrange (own ++ rest) json)
    (hown : ∀ m ∈ own, m.1 ∈ names) (hrest : ∀ m ∈ rest, m.1 ∉ names) :
    ∃ others, json.membersAndRest? names =
        some (names.map fun name => (own.lookup name).map arrange, others) ∧
      others.Perm (rest.map fun m => (m.1, arrange m.2)) := by
  obtain ⟨arranged, rfl, hperm, hlookup, hcount⟩ := h.exists_members
  have honce : (names.all fun name => arranged.countP (·.1 == name) ≤ 1) = true :=
    List.all_eq_true.2 fun name _ =>
      decide_eq_true ((hcount name).trans_le (h.count_le_one name))
  have hgiven : (names.map fun name => arranged.lookup name) =
      names.map fun name => (own.lookup name).map arrange := by
    refine List.map_congr_left fun name hname => ?_
    have hnone : rest.lookup name = none := by
      rw [List.lookup_eq_none_iff]
      rintro m hm
      exact bne_iff_ne.2 fun hsame => hrest m hm (hsame ▸ hname)
    rw [hlookup, List.lookup_append, hnone, Option.or_none]
  refine ⟨arranged.filter fun member => !names.contains member.1, ?_, ?_⟩
  · simp only [Json.membersAndRest?, honce, if_true, hgiven]
  · have hnone : (own.map fun m => (m.1, arrange m.2)).filter
        (fun member => !names.contains member.1) = [] := by
      refine List.filter_eq_nil_iff.2 fun m hm => ?_
      obtain ⟨n, hn, rfl⟩ := List.mem_map.1 hm
      simpa using hown n hn
    have hall : (rest.map fun m => (m.1, arrange m.2)).filter
        (fun member => !names.contains member.1) = rest.map fun m => (m.1, arrange m.2) := by
      refine List.filter_eq_self.2 fun m hm => ?_
      obtain ⟨n, hn, rfl⟩ := List.mem_map.1 hm
      simpa using hrest n hn
    have hfilter := hperm.filter fun member => !names.contains member.1
    rwa [List.map_append, List.filter_append, hnone, hall, List.nil_append] at hfilter

omit h in
/-- A tagged record gives its tag, and its other members. -/
theorem tagged? (h : Arranged arrange ((tag, .str name) :: members) json)
    (hstr : arrange (.str name) = .str name) (hheld : json.held = true) :
    ∃ body, json.tagged? tag = some (.str name, body) ∧ Arranged arrange members body := by
  obtain ⟨arranged, rfl, hperm, hlookup, hcount⟩ := h.exists_members
  obtain ⟨hnew, hkeys⟩ := List.nodup_cons.1 h.1
  have hother : ∀ m ∈ members.map fun m => (m.1, arrange m.2), m.1 ≠ tag := by
    rintro m hm rfl
    obtain ⟨n, hn, hsame⟩ := List.mem_map.1 hm
    exact hnew (hsame ▸ List.mem_map_of_mem (f := (·.1)) hn)
  have honce : (arranged.countP (·.1 == tag) == 1) = true := by
    rw [hcount, beq_iff_eq]
    exact List.count_eq_one_of_mem h.1 List.mem_cons_self
  have htag : arranged.lookup tag = some (.str name) := by
    rw [hlookup, List.lookup_cons_self, Option.map_some, hstr]
  rw [held_obj] at hheld
  refine ⟨.obj (arranged.filter (·.1 != tag)), ?_, hkeys, _, rfl, ?_⟩
  · simp only [Json.tagged?, hheld, honce, Bool.and_self, if_true, htag, Option.map_some]
  · have hfilter := hperm.filter (·.1 != tag)
    rwa [List.map_cons, List.filter_cons_of_neg (by simp),
      List.filter_eq_self.2 fun m hm => bne_iff_ne.2 (hother m hm)] at hfilter

end Arranged

/-! ## Reading back -/

/-- Whatever `encode` writes, `decode` reads, however it is arranged. -/
structure ReadsBack (encode : α → Json) (decode : Json → Option α) : Prop where
  held (x : α) : (encode x).held = true
  /-- No value is written as `null`. -/
  null : decode .null = none
  reads {arrange : Json → Json} (harrange : Arrangement arrange) (x : α) :
    decode (arrange (encode x)) = some x

namespace ReadsBack

variable {encode : α → Json} {decode : Json → Option α}

theorem str : ReadsBack Json.str string? where
  held := held_str
  null := rfl
  reads h s := by rw [h.str, string?]

theorem bool : ReadsBack Json.bool bool? where
  held := held_bool
  null := rfl
  reads h b := by rw [h.bool, bool?]

/-- A value that is written as a string is read from its text. -/
theorem ofText {text : α → String} (hnull : decode .null = none)
    (h : ∀ x, decode (.str (text x)) = some x) :
    ReadsBack (fun x => .str (text x)) decode where
  held _ := held_str _
  null := hnull
  reads harrange x := by rw [harrange.str, h]

theorem list (h : ReadsBack encode decode) :
    ReadsBack (fun xs => .arr (xs.map encode)) (list? decode) where
  held xs := by
    rw [Json.held, heldItems_iff]
    intro item hitem
    obtain ⟨x, -, rfl⟩ := List.mem_map.1 hitem
    exact h.held x
  null := rfl
  reads harrange xs := by
    rw [harrange.arr, list?]
    induction xs with
    | nil => rfl
    | cons x xs ih =>
      rw [List.map_cons, List.map_cons, List.mapM_cons, h.reads harrange, ih]
      rfl

theorem strings : ReadsBack Json.strings (list? string?) :=
  str.list

variable (h : ReadsBack encode decode) (harrange : Arrangement arrange)
include h harrange

theorem required (x : α) : Json.required decode (some (arrange (encode x))) = some x :=
  h.reads harrange x

theorem withDefault (default x : α) :
    Json.withDefault default decode (some (arrange (encode x))) = some x :=
  h.reads harrange x

theorem nullable (x : α) : nullable? decode (arrange (encode x)) = some (some x) := by
  have hread := h.reads harrange x
  rw [nullable?]
  · rw [hread, Option.map_some]
  · intro hnull
    rw [hnull, h.null] at hread
    cases hread

/-- A member that is left out when it has no value. -/
theorem ifGiven (value : Option α) :
    Json.ifGiven decode (value.map (arrange ∘ encode)) = some value := by
  cases value with
  | none => rfl
  | some x => exact h.nullable harrange x

/-- A member that is written as `null` when it has no value. -/
theorem ifGiven_orNull (value : Option α) :
    Json.ifGiven decode (some (arrange (orNull encode value))) = some value := by
  cases value with
  | none =>
    rw [orNull, harrange.null]
    rfl
  | some x => exact h.nullable harrange x

omit harrange in
theorem heldMembers_memberIf (key : String) (value : Option α) :
    heldMembers (memberIf key encode value) = true := by
  cases value with
  | none => exact heldMembers_nil
  | some x => simp [memberIf, h.held]

omit harrange in
theorem held_orNull (value : Option α) : (orNull encode value).held = true := by
  cases value with
  | none => exact held_null
  | some x => exact h.held x

omit harrange in
/-- What is written can be kept. -/
theorem kept?_encode (x : α) : (encode x).kept? = some (encode x).canonical := by
  rw [kept?, if_pos (h.held x)]

end ReadsBack
end VpnAttach.Json
