import VpnAttach.Text.Split

/-!
# Laws of splitting text

Parts that do not contain the separator survive being joined and split, and
they are the only parts of the text they are joined to (`splitOn_eq_iff`).
-/

namespace VpnAttach.Text

variable {sep : Char} {part rest cs front back : List Char} {parts : List (List Char)}

theorem splitOn_of_not_mem (h : sep ∉ part) : splitOn sep part = [part] := by
  induction part with
  | nil => rfl
  | cons c cs ih =>
    rw [List.mem_cons, not_or] at h
    rw [splitOn, if_neg (fun hc => h.1 hc.symm), ih h.2]

/-- A separator ends the first part. -/
theorem splitOn_append_sep (h : sep ∉ part) :
    splitOn sep (part ++ sep :: rest) = part :: splitOn sep rest := by
  induction part with
  | nil => rw [List.nil_append, splitOn, if_pos rfl]
  | cons c cs ih =>
    rw [List.mem_cons, not_or] at h
    rw [List.cons_append, splitOn, if_neg (fun hc => h.1 hc.symm), ih h.2]

theorem splitOn_join (hne : parts ≠ []) (hparts : ∀ part ∈ parts, sep ∉ part) :
    splitOn sep (join [sep] parts) = parts := by
  induction parts with
  | nil => exact absurd rfl hne
  | cons part parts ih =>
    have hpart := hparts part List.mem_cons_self
    cases parts with
    | nil => exact splitOn_of_not_mem hpart
    | cons next parts =>
      rw [join, List.append_assoc, List.singleton_append, splitOn_append_sep hpart,
        ih (List.cons_ne_nil _ _) fun p hp => hparts p (List.mem_cons_of_mem _ hp)]
      exact fun h => nomatch h

/-- Joined characters are separators or in one of the parts. -/
theorem mem_join {c : Char} (h : c ∈ join [sep] parts) :
    c = sep ∨ ∃ part ∈ parts, c ∈ part := by
  induction parts with
  | nil => cases h
  | cons part parts ih =>
    cases parts with
    | nil => exact Or.inr ⟨part, List.mem_singleton_self _, h⟩
    | cons next parts =>
      rw [join, List.append_assoc, List.singleton_append, List.mem_append,
        List.mem_cons] at h
      · rcases h with h | h | h
        · exact Or.inr ⟨part, List.mem_cons_self, h⟩
        · exact Or.inl h
        · exact (ih h).imp_right fun ⟨p, hp, hc⟩ => ⟨p, List.mem_cons_of_mem _ hp, hc⟩
      · exact fun h => nomatch h

theorem mem_join_of_mem {c : Char} (hpart : part ∈ parts) (hc : c ∈ part) :
    c ∈ join [sep] parts := by
  induction parts with
  | nil => cases hpart
  | cons first parts ih =>
    cases parts with
    | nil =>
      obtain rfl := List.mem_singleton.1 hpart
      exact hc
    | cons next parts =>
      rw [join, List.append_assoc, List.mem_append]
      · rcases List.mem_cons.1 hpart with rfl | hpart
        · exact Or.inl hc
        · exact Or.inr (List.mem_append_right _ (ih hpart))
      · exact fun h => nomatch h

/-! ## Splitting and joining are inverse -/

theorem splitOn_ne_nil (sep : Char) (cs : List Char) : splitOn sep cs ≠ [] := by
  cases cs with
  | nil => exact List.cons_ne_nil _ _
  | cons c cs =>
    rw [splitOn]
    split
    · exact List.cons_ne_nil _ _
    · split <;> exact List.cons_ne_nil _ _

theorem join_splitOn (sep : Char) (cs : List Char) : join [sep] (splitOn sep cs) = cs := by
  induction cs with
  | nil => rfl
  | cons c cs ih =>
    rw [splitOn]
    cases hparts : splitOn sep cs with
    | nil => exact absurd hparts (splitOn_ne_nil sep cs)
    | cons first others =>
      rw [hparts] at ih
      split
      · rename_i hc
        rw [join, ih, hc]
        · rfl
        · exact List.cons_ne_nil _ _
      · cases others with
        | nil => rw [join] at ih ⊢; rw [ih]
        | cons next others => rw [← ih]; rfl

/-- No part has a separator in it. -/
theorem not_mem_of_mem_splitOn (h : part ∈ splitOn sep cs) : sep ∉ part := by
  induction cs generalizing part with
  | nil =>
    rw [splitOn, List.mem_singleton] at h
    rw [h]
    exact List.not_mem_nil
  | cons c cs ih =>
    rw [splitOn] at h
    split at h
    · rcases List.mem_cons.1 h with rfl | h
      · exact List.not_mem_nil
      · exact ih h
    · rename_i hc
      cases hparts : splitOn sep cs with
      | nil => exact absurd hparts (splitOn_ne_nil sep cs)
      | cons first others =>
        rw [hparts] at h ih
        rcases List.mem_cons.1 h with rfl | h
        · rw [List.mem_cons, not_or]
          exact ⟨Ne.symm hc, ih List.mem_cons_self⟩
        · exact ih (List.mem_cons_of_mem _ h)

/-- The parts of a text are the only ones without a separator that can be joined to it. -/
theorem splitOn_eq_iff : splitOn sep cs = parts ↔
    parts ≠ [] ∧ (∀ part ∈ parts, sep ∉ part) ∧ cs = join [sep] parts := by
  constructor
  · rintro rfl
    exact ⟨splitOn_ne_nil sep cs, fun _ => not_mem_of_mem_splitOn, (join_splitOn sep cs).symm⟩
  · rintro ⟨hne, hparts, rfl⟩
    exact splitOn_join hne hparts

/-- The parts around the only separator of a text. -/
theorem splitOn_eq_pair_iff : splitOn sep cs = [front, back] ↔
    cs = front ++ sep :: back ∧ sep ∉ front ∧ sep ∉ back := by
  rw [splitOn_eq_iff, List.forall_mem_cons, List.forall_mem_singleton, and_comm (b := cs = _)]
  simp only [ne_eq, reduceCtorEq, not_false_eq_true, true_and, join, List.append_assoc,
    List.singleton_append]

/-! ## The last separator -/

theorem splitLast_eq_none_iff : splitLast sep cs = none ↔ sep ∉ cs := by
  induction cs with
  | nil => simp [splitLast]
  | cons c cs ih =>
    rw [splitLast, List.mem_cons, not_or]
    cases hlast : splitLast sep cs with
    | none => simp [ih.1 hlast, eq_comm]
    | some parts => simp [hlast] at ih ⊢; exact fun _ => ih

/-- What is behind the last separator has none in it. -/
theorem splitLast_append_sep (h : sep ∉ back) :
    splitLast sep (front ++ sep :: back) = some (front, back) := by
  induction front with
  | nil =>
    rw [List.nil_append, splitLast, splitLast_eq_none_iff.2 h]
    exact if_pos rfl
  | cons c front ih => rw [List.cons_append, splitLast, ih]

theorem splitLast_eq_some_iff : splitLast sep cs = some (front, back) ↔
    cs = front ++ sep :: back ∧ sep ∉ back := by
  constructor
  · intro h
    induction cs generalizing front with
    | nil => cases h
    | cons c cs ih =>
      rw [splitLast] at h
      split at h
      · rename_i hlast
        cases h
        obtain ⟨rfl, hback⟩ := ih hlast
        exact ⟨rfl, hback⟩
      · rename_i hlast
        split at h
        · rename_i hc
          cases h
          exact ⟨by rw [hc]; rfl, splitLast_eq_none_iff.1 hlast⟩
        · cases h
  · rintro ⟨rfl, h⟩
    exact splitLast_append_sep h

end VpnAttach.Text
