import VpnAttach.Json.Writer
import VpnAttach.Proofs.AuditTrail
import VpnAttach.Proofs.Service.Runs
import VpnAttach.Proofs.Text.Lines

/-!
# Streams are folds of their commands

A stream does what its commands do, one after the other: those that are written
on its lines, trimmed, up to the first line that is not UTF-8.  `Stream.Folds`
says so of the service and of all three counts.  It also says what follows for
whole inputs: lines that are no commands make no difference but to the count of
malformed lines, and an input may be cut where a line ends, so that both parts
are run one after the other.
-/

namespace VpnAttach

/-! ## What is on a line -/

namespace Line

/-- Whether trimmed text is neither blank nor a comment. -/
def tells (cs : List Char) : Bool :=
  cs != [] && cs.head? != some '#'

/-- The command that is written on a line. -/
def written? (text : String) : Option Command :=
  let cs := Text.trim text.toList
  if tells cs then Command.ofString? (String.ofList cs) else none

/-- Whether a line tells something that is no command. -/
def isMalformed (text : String) : Bool :=
  tells (Text.trim text.toList) && (written? text).isNone

/-- Whether bytes are a line that is no command: malformed, blank or a comment. -/
def isNoise (line : List UInt8) : Bool :=
  (Text.decode? line).any fun text => (written? text).isNone

theorem ofString_eq (text : String) :
    ofString text =
      ((written? text).map Line.command).getD
        (if isMalformed text then .malformed else .skipped) := by
  rw [ofString]
  split
  · rename_i hblank
    simp [isMalformed, written?, hblank, tells]
  · rename_i hcomment
    simp [isMalformed, written?, hcomment, tells]
  · rename_i hnil hcomment
    have hhead : (Text.trim text.toList).head? ≠ some '#' := fun h => by
      obtain ⟨rest, hrest⟩ := List.head?_eq_some_iff.1 h
      exact hcomment rest hrest
    have htells : tells (Text.trim text.toList) = true := by simpa [tells, hhead] using hnil
    have hread : (Json.ofChars? (Text.trim text.toList) >>= Command.ofJson?) = written? text := by
      simp only [written?, htells, if_true, Command.ofString?, Json.ofString?, String.toList_ofList]
    rw [hread, isMalformed, htells]
    cases written? text <;> rfl

theorem command?_ofString (text : String) : (ofString text).command? = written? text := by
  rw [ofString_eq]
  cases written? text with
  | none =>
    rw [Option.map_none, Option.getD_none]
    split <;> rfl
  | some c => rfl

theorem ofString_eq_malformed_iff {text : String} :
    ofString text = .malformed ↔ isMalformed text = true := by
  rw [ofString_eq, isMalformed]
  cases written? text with
  | none => cases tells (Text.trim text.toList) <;> simp
  | some c => simp

/-- Only the trimmed text matters. -/
theorem ofString_congr {s t : String} (h : Text.trim s.toList = Text.trim t.toList) :
    ofString s = ofString t := by
  rw [ofString, ofString, h]

end Line

/-! ## Runs of commands -/

/-- The answers to some commands, given one after the other. -/
def Service.answersTo (setup : Setup) : Service → List Command → List (Except Refusal Reply)
  | _, [] => []
  | s, c :: commands =>
    (s.apply setup c).answer :: answersTo setup (s.apply setup c).service commands

/-- The sums of the counts. -/
def Tally.add (x y : Tally) : Tally where
  applied := x.applied + y.applied
  rejected := x.rejected + y.rejected
  malformed := x.malformed + y.malformed

namespace Stream

variable {setup : Setup} {stream : Stream} {s : Service} {bytes line xs ys : List UInt8}
  {found : List (List UInt8)}

/-- One stream and then another, that goes on with the service of the first. -/
def followedBy (first second : Stream) : Stream where
  service := second.service
  tally := first.tally.add second.tally
  journal := first.journal ++ second.journal

theorem followedBy_assoc (x y z : Stream) :
    (x.followedBy y).followedBy z = x.followedBy (y.followedBy z) := by
  simp only [followedBy, Tally.add, Nat.add_assoc, List.append_assoc]

/-- What a line adds does not depend on what was counted before. -/
theorem take_eq (setup : Setup) (stream : Stream) (l : Line) :
    stream.take setup l =
      stream.followedBy (take setup { service := stream.service } l) := by
  cases l with
  | skipped => simp [take, followedBy, Tally.add]
  | malformed => simp [take, followedBy, Tally.add]
  | command c =>
    simp only [take]
    cases (stream.service.apply setup c).answer with
    | ok _ => simp [followedBy, Tally.add]
    | error refusal => simp [followedBy, Tally.add]

theorem foldl_take_eq (setup : Setup) (stream : Stream) (ls : List Line) :
    ls.foldl (take setup) stream =
      stream.followedBy (ls.foldl (take setup) { service := stream.service }) := by
  induction ls generalizing stream with
  | nil => simp [followedBy, Tally.add]
  | cons l ls ih =>
    rw [List.foldl_cons, List.foldl_cons, ih, ih (take setup _ l), take_eq setup stream l,
      followedBy_assoc]
    rfl

/-- Lines apply their commands, which are counted by their answers; other lines
are counted if they are malformed. -/
theorem foldl_take (setup : Setup) (s : Service) (ls : List Line) :
    let ran := ls.foldl (take setup) { service := s }
    let commands := ls.filterMap Line.command?
    let answers := s.answersTo setup commands
    ran.service = Service.applyAll setup s commands ∧
      ran.tally = ⟨answers.countP (·.isOk), answers.countP (!·.isOk), ls.count .malformed⟩ := by
  induction ls generalizing s with
  | nil => exact ⟨rfl, rfl⟩
  | cons l ls ih =>
    rw [List.foldl_cons, foldl_take_eq]
    cases l with
    | skipped =>
      obtain ⟨hservice, htally⟩ := ih s
      refine ⟨hservice, ?_⟩
      simp only [followedBy, take, htally]
      simp [Tally.add, List.filterMap_cons, Line.command?]
    | malformed =>
      obtain ⟨hservice, htally⟩ := ih s
      refine ⟨hservice, ?_⟩
      simp only [followedBy, take, htally]
      simp [Tally.add, List.filterMap_cons, Line.command?, Nat.add_comm]
    | command c =>
      obtain ⟨hservice, htally⟩ := ih (s.apply setup c).service
      have hservice' : (take setup { service := s } (.command c)).service =
          (s.apply setup c).service := (take_command setup _ c).1
      rw [hservice']
      refine ⟨hservice, ?_⟩
      simp only [followedBy, htally, take]
      cases hanswer : (s.apply setup c).answer with
      | ok reply =>
        simp [Tally.add, Line.command?, Service.answersTo, hanswer, Except.isOk, Except.toBool,
          Nat.add_comm]
      | error refusal =>
        simp [Tally.add, Line.command?, Service.answersTo, hanswer, Except.isOk, Except.toBool,
          Nat.add_comm]

/-! ## Lines of bytes -/

/-- Takes lines up to the first that is not UTF-8. -/
def runLines (setup : Setup) (stream : Stream) (found : List (List UInt8)) : Stream × Bool :=
  (((Text.decodeAll found).1.map Line.ofString).foldl (take setup) stream,
    (Text.decodeAll found).2)

theorem run_eq (setup : Setup) (stream : Stream) (bytes : List UInt8) :
    run setup stream bytes = runLines setup stream (Text.lines bytes) := rfl

theorem runLines_cons (setup : Setup) (stream : Stream) (line : List UInt8)
    (found : List (List UInt8)) :
    runLines setup stream (line :: found) =
      match Text.decode? line with
      | none => (stream, false)
      | some text => runLines setup (stream.take setup (.ofString text)) found := by
  rw [runLines, Text.decodeAll]
  cases Text.decode? line <;> rfl

/-- Lines behind lines that are all decoded. -/
theorem runLines_append (h : (Text.decodeAll found).2 = true) (stream : Stream)
    (more : List (List UInt8)) :
    runLines setup stream (found ++ more) =
      runLines setup (runLines setup stream found).1 more := by
  rw [runLines, Text.decodeAll_append h, List.map_append, List.foldl_append]
  rfl

/-- Only the trimmed text of a line matters. -/
theorem runLines_cons_congr {line line' : List UInt8}
    (h : (Text.decode? line).map (Text.trim ·.toList) =
      (Text.decode? line').map (Text.trim ·.toList)) (stream : Stream) :
    runLines setup stream (line :: found) = runLines setup stream (line' :: found) := by
  rw [runLines_cons, runLines_cons]
  cases htext : Text.decode? line with
  | none =>
    rw [htext, Option.map_none, eq_comm, Option.map_eq_none_iff] at h
    rw [h]
  | some text =>
    rw [htext, Option.map_some, eq_comm, Option.map_eq_some_iff] at h
    obtain ⟨other, hother, hsame⟩ := h
    rw [hother]
    simp only [Line.ofString_congr hsame]

/-- One more line feed at the end of an input changes nothing: it ends the last
line, or adds a blank one. -/
theorem run_append_feed (setup : Setup) (stream : Stream) (xs : List UInt8) :
    run setup stream (xs ++ [Text.lineFeed]) = run setup stream xs := by
  have hfrom (start : List UInt8) (stream : Stream) :
      runLines setup stream (Text.linesFrom start (xs ++ [Text.lineFeed])) =
        runLines setup stream (Text.linesFrom start xs) := by
    induction xs generalizing start stream with
    | nil =>
      have hend : Text.linesFrom start ([] ++ [Text.lineFeed]) =
          [Text.dropReturn start.reverse] := rfl
      rw [hend, Text.linesFrom]
      cases start with
      | nil =>
        have hblank : Text.decode? [] = some (String.ofList []) := Text.decode?_encode []
        rw [List.reverse_nil, Text.dropReturn, runLines_cons, hblank]
        rfl
      | cons b start =>
        exact runLines_cons_congr (Text.trim_decode?_dropReturn _) stream
    | cons b xs ih =>
      rw [List.cons_append, Text.linesFrom, Text.linesFrom]
      split
      · rw [runLines_cons, runLines_cons]
        cases Text.decode? (Text.dropReturn start.reverse) with
        | none => rfl
        | some text => exact ih [] _
      · exact ih _ stream
  exact hfrom [] stream

/-- An input may be cut behind a line feed. -/
theorem run_cut (h : Text.Valid xs) (setup : Setup) (stream : Stream) (ys : List UInt8) :
    run setup stream (xs ++ Text.lineFeed :: ys) =
      run setup (run setup stream xs).1 ys := by
  have hvalid : Text.Valid (xs ++ [Text.lineFeed]) :=
    (Text.valid_append_cons_iff (by decide)).2 ⟨h, Text.valid_iff.2 ⟨[], rfl⟩⟩
  rw [run_eq, Text.lines_cut, runLines_append (Text.decodeAll_lines_complete_iff.2 hvalid),
    ← run_eq, ← run_eq, run_append_feed]

/-- An input that ends with a line feed needs none to go on. -/
theorem run_cut_of_end (h : Text.Valid xs)
    (hend : xs = [] ∨ xs.getLast? = some Text.lineFeed) (setup : Setup) (stream : Stream)
    (ys : List UInt8) : run setup stream (xs ++ ys) = run setup (run setup stream xs).1 ys := by
  rcases hend with rfl | hend
  · rfl
  · obtain ⟨front, rfl⟩ := List.getLast?_eq_some_iff.1 hend
    have hfront : Text.Valid front := ((Text.valid_append_cons_iff (by decide)).1 h).1
    rw [List.append_assoc, List.singleton_append, run_cut hfront, run_append_feed]

/-- An input is run on its own, and then goes behind what was there. -/
theorem run_eq_followedBy (setup : Setup) (stream : Stream) (bytes : List UInt8) :
    run setup stream bytes =
      (stream.followedBy (run setup { service := stream.service } bytes).1,
        (run setup { service := stream.service } bytes).2) :=
  Prod.ext (foldl_take_eq setup stream _) rfl

/-! ## Lines that are no commands -/

/-- A stream without a trace of malformed lines: they are neither counted nor
written down. -/
def silenced (stream : Stream) : Stream where
  service := stream.service
  tally := { stream.tally with malformed := 0 }
  journal := stream.journal.filter fun
    | .notice .malformedCommand => false
    | _ => true

theorem silenced_followedBy (x y : Stream) :
    (x.followedBy y).silenced = x.silenced.followedBy y.silenced := by
  simp [silenced, followedBy, Tally.add]

/-- Malformed lines from before leave no trace either. -/
theorem silenced_foldl_congr {x y : Stream} (h : x.silenced = y.silenced) (ls : List Line) :
    (ls.foldl (take setup) x).silenced = (ls.foldl (take setup) y).silenced := by
  have hservice : x.silenced.service = y.silenced.service := by rw [h]
  change x.service = y.service at hservice
  rw [foldl_take_eq, foldl_take_eq setup y, silenced_followedBy, silenced_followedBy, h, hservice]

theorem silenced_take {l : Line} (h : l.command? = none) (stream : Stream) :
    (stream.take setup l).silenced = stream.silenced := by
  cases l with
  | skipped => rfl
  | malformed => simp [take, silenced]
  | command c => cases h

/-- Lines that are no commands leave no trace. -/
theorem silenced_runLines_filter (setup : Setup) (stream : Stream) (found : List (List UInt8)) :
    (runLines setup stream (found.filter (!Line.isNoise ·))).1.silenced =
        (runLines setup stream found).1.silenced ∧
      (runLines setup stream (found.filter (!Line.isNoise ·))).2 =
        (runLines setup stream found).2 := by
  induction found generalizing stream with
  | nil => exact ⟨rfl, rfl⟩
  | cons line found ih =>
    cases htext : Text.decode? line with
    | none =>
      have hkept : Line.isNoise line = false := by rw [Line.isNoise, htext, Option.any_none]
      rw [List.filter_cons_of_pos (by rw [hkept]; rfl), runLines_cons, runLines_cons, htext]
      exact ⟨rfl, rfl⟩
    | some text =>
      have hnoise : Line.isNoise line = (Line.written? text).isNone := by
        rw [Line.isNoise, htext, Option.any_some]
      rw [runLines_cons setup stream line found, htext]
      obtain ⟨hsilenced, hcomplete⟩ := ih (stream.take setup (.ofString text))
      cases hwritten : Line.written? text with
      | none =>
        rw [List.filter_cons_of_neg (by rw [hnoise, hwritten]; exact Bool.false_ne_true)]
        have htake : (stream.take setup (.ofString text)).silenced = stream.silenced :=
          silenced_take ((Line.command?_ofString text).trans hwritten) stream
        exact ⟨(silenced_foldl_congr htake.symm _).trans hsilenced, hcomplete⟩
      | some c =>
        rw [List.filter_cons_of_pos (by rw [hnoise, hwritten]; rfl), runLines_cons, htext]
        exact ⟨hsilenced, hcomplete⟩

/-- Inputs are run alike if they have the same lines apart from noise. -/
theorem silenced_run_congr {other : List UInt8}
    (h : (Text.lines bytes).filter (!Line.isNoise ·) =
      (Text.lines other).filter (!Line.isNoise ·)) (setup : Setup) (stream : Stream) :
    (run setup stream bytes).1.silenced = (run setup stream other).1.silenced ∧
      (run setup stream bytes).2 = (run setup stream other).2 := by
  obtain ⟨hbytes, hcomplete⟩ := silenced_runLines_filter setup stream (Text.lines bytes)
  obtain ⟨hother, hcomplete'⟩ := silenced_runLines_filter setup stream (Text.lines other)
  rw [run_eq, run_eq, ← hbytes, ← hcomplete, ← hother, ← hcomplete', h]
  exact ⟨rfl, rfl⟩

/-! ## Whole inputs -/

/-- The texts of an input, up to the first line that is not UTF-8. -/
def texts (bytes : List UInt8) : List String :=
  ((Text.lines bytes).takeWhile fun line => (Text.decode? line).isSome).filterMap Text.decode?

/-- The commands that are written in an input. -/
def commands (bytes : List UInt8) : List Command :=
  (texts bytes).filterMap Line.written?

theorem texts_eq (bytes : List UInt8) : texts bytes = (Text.decodeAll (Text.lines bytes)).1 := by
  rw [Text.decodeAll_eq, texts]

theorem commands_eq (bytes : List UInt8) :
    commands bytes = ((texts bytes).map Line.ofString).filterMap Line.command? := by
  rw [List.filterMap_map, commands]
  exact List.filterMap_congr fun text _ => (Line.command?_ofString text).symm

theorem count_malformed (bytes : List UInt8) :
    ((texts bytes).map Line.ofString).count .malformed = (texts bytes).countP Line.isMalformed := by
  rw [List.count, List.countP_map]
  refine List.countP_congr fun text _ => ?_
  rw [Function.comp_apply, beq_iff_eq, Line.ofString_eq_malformed_iff]

/-- The lines of an input are taken one after the other, and a stream does what
its commands do. -/
structure Folds (setup : Setup) (s : Service) (bytes : List UInt8) : Prop where
  lines : ∀ found : List (List UInt8), Text.LinesOf bytes found ↔ Text.lines bytes = found
  service : (run setup { service := s } bytes).1.service =
    Service.applyAll setup s (commands bytes)
  applied : (run setup { service := s } bytes).1.tally.applied =
    (s.answersTo setup (commands bytes)).countP (·.isOk)
  rejected : (run setup { service := s } bytes).1.tally.rejected =
    (s.answersTo setup (commands bytes)).countP (!·.isOk)
  malformed : (run setup { service := s } bytes).1.tally.malformed =
    (texts bytes).countP Line.isMalformed
  /-- Inputs that differ in noise differ in the count of malformed lines only. -/
  noise : ∀ other : List UInt8,
    (Text.lines bytes).filter (!Line.isNoise ·) = (Text.lines other).filter (!Line.isNoise ·) →
      (run setup { service := s } bytes).1.silenced =
          (run setup { service := s } other).1.silenced ∧
        (run setup { service := s } bytes).2 = (run setup { service := s } other).2
  complete : (run setup { service := s } bytes).2 = true ↔ Text.Valid bytes
  /-- More input at the end of a line is run behind the input. -/
  continued : Text.Valid bytes → ∀ more : List UInt8,
    let first := (run setup { service := s } bytes).1
    let second := run setup { service := first.service } more
    run setup { service := s } (bytes ++ Text.lineFeed :: more) =
        (first.followedBy second.1, second.2) ∧
      (bytes = [] ∨ bytes.getLast? = some Text.lineFeed →
        run setup { service := s } (bytes ++ more) = (first.followedBy second.1, second.2))

/-- Every stream is the fold of its commands. -/
theorem folds (setup : Setup) (s : Service) (bytes : List UInt8) : Folds setup s bytes := by
  have hran : (run setup { service := s } bytes).1 =
      ((texts bytes).map Line.ofString).foldl (take setup) { service := s } := by
    rw [texts_eq, run_eq, runLines]
  obtain ⟨hservice, htally⟩ := foldl_take setup s ((texts bytes).map Line.ofString)
  rw [← hran, ← commands_eq] at hservice htally
  rw [count_malformed] at htally
  exact {
    lines := fun _ => Text.linesOf_iff
    service := hservice
    applied := congrArg Tally.applied htally
    rejected := congrArg Tally.rejected htally
    malformed := congrArg Tally.malformed htally
    noise := fun _ h => silenced_run_congr h setup { service := s }
    complete := Text.decodeAll_lines_complete_iff
    continued := fun hvalid more =>
      ⟨(run_cut hvalid setup _ more).trans (run_eq_followedBy setup _ more),
        fun hend => (run_cut_of_end hvalid hend setup _ more).trans
          (run_eq_followedBy setup _ more)⟩ }

/-- A comment, an interface, a blank line and a line that is no command. -/
def plugging : List UInt8 :=
  Text.encode ("# plug\r\n".toList ++ (Command.addInterface "r" "n").toJson.toChars ++
    "\r\n\r\nagain".toList)

/-- The end of the interface, which comes only once. -/
def unplugging : List UInt8 :=
  let line := (Command.removeInterface "r" "n").toJson.toChars
  Text.encode (line ++ '\n' :: line)

/-- The second input finds the interface of the first. -/
theorem folds_plugging :
    let first := (run Setup.plain {} plugging).1
    let second := (run Setup.plain { service := first.service } unplugging).1
    first.tally = ⟨1, 0, 1⟩ ∧ second.tally = ⟨1, 1, 0⟩ ∧
      run Setup.plain {} (plugging ++ Text.lineFeed :: unplugging) =
        (first.followedBy second, true) := by
  intro first second
  have hvalid : Text.Valid plugging := Text.valid_iff.2 ⟨_, rfl⟩
  have hend : (run Setup.plain { service := first.service } unplugging).2 = true :=
    (folds Setup.plain first.service unplugging).complete.2 (Text.valid_iff.2 ⟨_, rfl⟩)
  have hcut := ((folds Setup.plain {} plugging).continued hvalid unplugging).1
  rw [hend] at hcut
  exact ⟨by decide +kernel, by decide +kernel, hcut⟩

end Stream
end VpnAttach
