import VpnAttach.Json.Reader
import VpnAttach.Json.Writer

/-!
# Plain strings as JSON text

A string of printable characters without quotes and backslashes is written as
it is, in quotes, and is read back.
-/

namespace VpnAttach.Json

variable {cs : List Char} {s : String}

/-- `c` stands for itself inside a string. -/
def Plain (c : Char) : Prop :=
  c ≠ '"' ∧ c ≠ '\\' ∧ ' ' ≤ c

instance (c : Char) : Decidable (Plain c) :=
  inferInstanceAs (Decidable (_ ∧ _))

theorem escape_of_plain {c : Char} (h : Plain c) : escape c = [c] := by
  obtain ⟨hquote, hslash, hspace⟩ := h
  have hlt : ¬c < ' ' := Char.not_lt.2 hspace
  have hne {control : Char} (hcontrol : control < ' ') : c ≠ control := by
    rintro rfl
    exact hlt hcontrol
  simp [escape, hquote, hslash, hlt, hne (by decide : '\n' < ' '), hne (by decide : '\r' < ' '),
    hne (by decide : '\t' < ' '), hne (by decide : '\x08' < ' '),
    hne (by decide : '\x0c' < ' ')]

theorem flatMap_escape_of_plain (h : ∀ c ∈ cs, Plain c) : cs.flatMap escape = cs := by
  induction cs with
  | nil => rfl
  | cons c cs ih =>
    obtain ⟨hc, hcs⟩ := List.forall_mem_cons.1 h
    rw [List.flatMap_cons, escape_of_plain hc, ih hcs]
    rfl

/-- A plain string is written as it is. -/
theorem toChars_str_of_plain (h : ∀ c ∈ s.toList, Plain c) :
    (Json.str s).toChars = '"' :: s.toList ++ ['"'] := by
  rw [toChars, quote, flatMap_escape_of_plain h]

theorem lexString_of_plain (h : ∀ c ∈ cs, Plain c) (acc rest : List Char) :
    lexString (some acc) (cs ++ '"' :: rest) =
      some (some (String.ofList (acc.reverse ++ cs)), rest) := by
  induction cs generalizing acc with
  | nil =>
    rw [List.nil_append, lexString]
    simp
  | cons c cs ih =>
    obtain ⟨⟨hquote, hslash, hspace⟩, hcs⟩ := List.forall_mem_cons.1 h
    have hlt : ¬c < ' ' := Char.not_lt.2 hspace
    rw [List.cons_append, lexString]
    · simp [hlt, hslash, ih hcs]
    · exact hquote
    · exact fun _ _ _ _ _ _ _ _ _ hc _ => hslash hc
    · exact fun _ _ _ _ _ hc _ => hslash hc
    · exact fun _ _ hc _ => hslash hc

/-- A plain string in quotes is one token. -/
theorem lex_of_plain (h : ∀ c ∈ cs, Plain c) :
    lex ('"' :: cs ++ ['"']) = some [.text (some (String.ofList cs))] := by
  have hspace : isSpace '"' = false := by decide
  rw [lex, List.cons_append, List.length_cons, lexWith, hspace, lexOne,
    lexString_of_plain h [] []]
  simp [lexWith]

/-- A plain string is read back from its text. -/
theorem ofString?_text_of_plain (h : ∀ c ∈ s.toList, Plain c) :
    ofString? (Json.str s).text = some (.str s) := by
  rw [ofString?, text, String.toList_ofList, toChars_str_of_plain h, ofChars?, lex_of_plain h,
    String.ofList_toList]
  rfl

end VpnAttach.Json
