import VpnAttach.Text.Numeral
import VpnAttach.Text.Split
import VpnAttach.Text.Unprintable

/-!
# Quoted text

Text in double quotes, as it is shown in messages: with a backslash before
quotes and backslashes, and with escapes for characters that cannot be seen.
-/

namespace VpnAttach.Text

/-- The escape of a character by its code point. -/
def codePoint (c : Char) : List Char :=
  ['\\', 'u', '{'] ++ Numeral.hexadecimal c.toNat ++ ['}']

/-- A character inside of quotes. -/
def quotedChar (c : Char) : List Char :=
  if c = '\x00' then ['\\', '0']
  else if c = '\t' then ['\\', 't']
  else if c = '\r' then ['\\', 'r']
  else if c = '\n' then ['\\', 'n']
  else if c = '\\' then ['\\', '\\']
  else if c = '"' then ['\\', '"']
  else if isUnprintable c then codePoint c
  else [c]

/-- A text in quotes. -/
def quoted (s : String) : List Char :=
  '"' :: s.toList.flatMap quotedChar ++ ['"']

/-- Texts in quotes, between brackets. -/
def quotedList (texts : List String) : List Char :=
  '[' :: join [',', ' '] (texts.map quoted) ++ [']']

end VpnAttach.Text
