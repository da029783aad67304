import VpnAttach.Proofs.Text.Utf8
import VpnAttach.Text.Blank

/-!
# Laws of lines

`LinesOf` says what the lines of an input are, and `lines` finds them
(`linesOf_iff`).  The lines of an input that is cut behind a line feed are those
of both parts.  All lines are decoded if and only if the input is valid UTF-8
(`decodeAll_lines_complete_iff`).  An input may be ended by one more line feed:
up to blanks and blank lines, its texts stay what they are.
-/

namespace VpnAttach.Text

variable {bytes line rest xs ys : List UInt8} {b : UInt8} {found more : List (List UInt8)}

/-! ## Carriage returns -/

theorem dropReturn_append (line : List UInt8) : dropReturn (line ++ [carriageReturn]) = line := by
  induction line with
  | nil => rfl
  | cons b line ih =>
    cases line with
    | nil => rfl
    | cons d line => exact congrArg (b :: ·) ih

theorem dropReturn_of_getLast?_ne (h : line.getLast? ≠ some carriageReturn) :
    dropReturn line = line := by
  induction line with
  | nil => rfl
  | cons b line ih =>
    cases line with
    | nil =>
      rw [dropReturn, if_neg]
      rintro rfl
      exact h rfl
    | cons d line => exact congrArg (b :: ·) (ih h)

/-- One carriage return is dropped, if there is one at the end. -/
theorem eq_dropReturn_or (line : List UInt8) :
    dropReturn line = line ∨ line = dropReturn line ++ [carriageReturn] := by
  by_cases hreturn : line.getLast? = some carriageReturn
  · obtain ⟨front, rfl⟩ := List.getLast?_eq_some_iff.1 hreturn
    exact Or.inr (by rw [dropReturn_append])
  · exact Or.inl (dropReturn_of_getLast?_ne hreturn)

/-! ## Lines -/

/-- What the lines of an input are. -/
inductive LinesOf : List UInt8 → List (List UInt8) → Prop where
  | nil : LinesOf [] []
  /-- The last line may end with the input. -/
  | last {line : List UInt8} (hne : line ≠ []) (hline : lineFeed ∉ line) : LinesOf line [line]
  /-- A line ends at a line feed. -/
  | feed {line rest : List UInt8} {found : List (List UInt8)} (hline : lineFeed ∉ line)
    (hreturn : line.getLast? ≠ some carriageReturn) (hrest : LinesOf rest found) :
    LinesOf (line ++ lineFeed :: rest) (line :: found)
  /-- One carriage return before the line feed belongs to the end of the line. -/
  | returnFeed {line rest : List UInt8} {found : List (List UInt8)} (hline : lineFeed ∉ line)
    (hrest : LinesOf rest found) :
    LinesOf (line ++ carriageReturn :: lineFeed :: rest) (line :: found)

theorem linesFrom_append_feed (hline : lineFeed ∉ line) (start rest : List UInt8) :
    linesFrom start (line ++ lineFeed :: rest) =
      dropReturn (start.reverse ++ line) :: linesFrom [] rest := by
  induction line generalizing start with
  | nil => rw [List.nil_append, linesFrom, if_pos rfl, List.append_nil]
  | cons b line ih =>
    rw [List.mem_cons, not_or] at hline
    rw [List.cons_append, linesFrom, if_neg (Ne.symm hline.1), ih hline.2, List.reverse_cons,
      List.append_assoc, List.singleton_append]

theorem lines_append_feed (hline : lineFeed ∉ line) (rest : List UInt8) :
    lines (line ++ lineFeed :: rest) = dropReturn line :: lines rest :=
  linesFrom_append_feed hline [] rest

theorem linesFrom_of_not_mem (hline : lineFeed ∉ line) (start : List UInt8) :
    linesFrom start line =
      if start.reverse ++ line = [] then [] else [start.reverse ++ line] := by
  induction line generalizing start with
  | nil => cases start <;> simp [linesFrom]
  | cons b line ih =>
    rw [List.mem_cons, not_or] at hline
    rw [linesFrom, if_neg (Ne.symm hline.1), ih hline.2, List.reverse_cons, List.append_assoc,
      List.singleton_append]

theorem lines_of_not_mem (hne : line ≠ []) (hline : lineFeed ∉ line) : lines line = [line] := by
  rw [lines, linesFrom_of_not_mem hline, List.reverse_nil, List.nil_append, if_neg hne]

theorem LinesOf.eq_lines (h : LinesOf bytes found) : lines bytes = found := by
  induction h with
  | nil => rfl
  | last hne hline => exact lines_of_not_mem hne hline
  | feed hline hreturn _ ih =>
    rw [lines_append_feed hline, dropReturn_of_getLast?_ne hreturn, ih]
  | @returnFeed line rest found hline _ ih =>
    have hwhole : lineFeed ∉ line ++ [carriageReturn] := by
      rw [List.mem_append, not_or]
      exact ⟨hline, by decide⟩
    have hend : line ++ carriageReturn :: lineFeed :: rest =
        (line ++ [carriageReturn]) ++ lineFeed :: rest := by
      rw [List.append_assoc, List.singleton_append]
    rw [hend, lines_append_feed hwhole, dropReturn_append, ih]

theorem linesOf_lines (bytes : List UInt8) : LinesOf bytes (lines bytes) := by
  -- The induction is on the length: a line feed leaves a shorter rest.
  induction hlength : bytes.length using Nat.strongRecOn generalizing bytes with
  | ind n ih =>
    by_cases hfeed : lineFeed ∈ bytes
    · obtain ⟨line, rest, rfl, hline⟩ := List.eq_append_cons_of_mem hfeed
      have hshorter : rest.length < n := by
        rw [← hlength, List.length_append, List.length_cons]
        omega
      have hrest := ih _ hshorter rest rfl
      rw [lines_append_feed hline]
      by_cases hreturn : line.getLast? = some carriageReturn
      · obtain ⟨front, rfl⟩ := List.getLast?_eq_some_iff.1 hreturn
        rw [dropReturn_append, List.append_assoc, List.singleton_append]
        exact .returnFeed (fun h => hline (List.mem_append_left _ h)) hrest
      · rw [dropReturn_of_getLast?_ne hreturn]
        exact .feed hline hreturn hrest
    · by_cases hnil : bytes = []
      · subst hnil
        exact .nil
      · rw [lines_of_not_mem hnil hfeed]
        exact .last hnil hfeed

/-- An input has the lines that are found, and no others. -/
theorem linesOf_iff : LinesOf bytes found ↔ lines bytes = found :=
  ⟨LinesOf.eq_lines, fun h => h ▸ linesOf_lines bytes⟩

/-- The last line keeps its carriage return if no line feed ends it. -/
example : lines [97, 13, 10, 10, 98, 13] = [[97], [], [98, 13]] := by decide

/-- An input may be cut behind a line feed. -/
theorem lines_cut (xs ys : List UInt8) :
    lines (xs ++ lineFeed :: ys) = lines (xs ++ [lineFeed]) ++ lines ys := by
  have hfrom (start : List UInt8) : linesFrom start (xs ++ lineFeed :: ys) =
      linesFrom start (xs ++ [lineFeed]) ++ linesFrom [] ys := by
    induction xs generalizing start with
    | nil => simp [linesFrom]
    | cons b xs ih =>
      rw [List.cons_append, List.cons_append, linesFrom, linesFrom]
      split
      · rw [ih, List.cons_append]
      · exact ih _
  exact hfrom []

/-! ## Texts -/

theorem decodeAll_eq (found : List (List UInt8)) :
    decodeAll found = ((found.takeWhile fun line => (decode? line).isSome).filterMap decode?,
      found.all fun line => (decode? line).isSome) := by
  induction found with
  | nil => rfl
  | cons line found ih =>
    rw [decodeAll, ih]
    cases hline : decode? line <;> simp [hline]

theorem decodeAll_append (h : (decodeAll found).2 = true) (more : List (List UInt8)) :
    decodeAll (found ++ more) =
      ((decodeAll found).1 ++ (decodeAll more).1, (decodeAll more).2) := by
  induction found with
  | nil => rfl
  | cons line found ih =>
    rw [decodeAll] at h
    rw [List.cons_append, decodeAll, decodeAll]
    cases hline : decode? line with
    | none => simp [hline] at h
    | some text =>
      rw [hline] at h
      rw [ih h]
      rfl

theorem valid_dropReturn : Valid (dropReturn line) ↔ Valid line := by
  rcases eq_dropReturn_or line with h | h
  · rw [h]
  · have hcut : Valid (dropReturn line ++ [carriageReturn]) ↔ Valid (dropReturn line) ∧ Valid [] :=
      valid_append_cons_iff (by decide)
    rw [← h] at hcut
    rw [hcut]
    exact (and_iff_left (valid_iff.2 ⟨[], rfl⟩)).symm

/-- All lines have texts if the input is valid UTF-8. -/
theorem decodeAll_lines_complete_iff : (decodeAll (lines bytes)).2 = true ↔ Valid bytes := by
  have hfrom (start : List UInt8) :
      (decodeAll (linesFrom start bytes)).2 = true ↔ Valid (start.reverse ++ bytes) := by
    induction bytes generalizing start with
    | nil =>
      rw [linesFrom, List.append_nil]
      cases start with
      | nil => exact iff_of_true rfl (valid_iff.2 ⟨[], rfl⟩)
      | cons b start => simp [decodeAll_eq, isSome_decode?_iff]
    | cons b bytes ih =>
      rw [linesFrom]
      split
      · rename_i hfeed
        subst hfeed
        rw [valid_append_cons_iff (by decide), ← valid_dropReturn, ← isSome_decode?_iff,
          decodeAll_eq, List.all_cons, Bool.and_eq_true]
        have hrest := ih []
        rw [decodeAll_eq] at hrest
        rw [hrest]
        rfl
      · rw [ih, List.reverse_cons, List.append_assoc, List.singleton_append]
  exact hfrom []

/-! ## Blanks -/

/-- A blank at the end is trimmed. -/
theorem trim_append_blank {c : Char} (hc : isBlank c = true) (cs : List Char) :
    trim (cs ++ [c]) = trim cs := by
  have hend (ds : List Char) : trimEnd (ds ++ [c]) = trimEnd ds := by
    rw [trimEnd, List.reverse_append, trimStart, List.reverse_singleton, List.singleton_append,
      List.dropWhile_cons_of_pos hc]
    rfl
  rw [trim, trimStart, List.dropWhile_append]
  split
  · rename_i hblank
    rw [trim, trimStart, List.isEmpty_iff.1 hblank, List.dropWhile_cons_of_pos hc]
    rfl
  · exact hend _

/-- What is dropped from the end of a line would be trimmed from its text. -/
theorem trim_decode?_dropReturn (line : List UInt8) :
    (decode? (dropReturn line)).map (trim ·.toList) = (decode? line).map (trim ·.toList) := by
  rcases eq_dropReturn_or line with h | h
  · rw [h]
  · cases htext : decode? (dropReturn line) with
    | none =>
      have hnone : decode? line = none := by
        rw [← Option.not_isSome_iff_eq_none, isSome_decode?_iff, ← valid_dropReturn,
          ← isSome_decode?_iff, htext]
        exact Bool.false_ne_true
      rw [hnone]
    | some text =>
      have hbytes : encode (String.ofList (text.toList ++ ['\r'])).toList = line := by
        rw [String.toList_ofList, encode_append, decode?_eq_some_iff.1 htext]
        exact h.symm
      rw [decode?_eq_some_iff.2 hbytes, Option.map_some, Option.map_some, String.toList_ofList,
        trim_append_blank (by decide)]

end VpnAttach.Text
