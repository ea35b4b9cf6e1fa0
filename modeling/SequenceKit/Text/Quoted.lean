import SequenceKit.Text.Printable

/-!
# Quoted text

A text or a character between quotes, with what cannot stand there as it is written as an escape:
the quote itself, the backslash, line ends and tabs by a letter, and characters that cannot be
shown by their code point in braces.

* `escaped` — one character inside quotes.
* `quoted`, `quotedChar` — a text and a character with their quotes.
* `literal` — a text as a string literal of source code, where an apostrophe stays.
-/

namespace SequenceKit.Text

/-- A code point in lower-case hexadecimal digits between braces. -/
def codePoint (c : Char) : String :=
  "\\u\x7b" ++ String.ofList (Nat.toDigits 16 c.toNat) ++ "\x7d"

/-- One character inside quotes of the kind `quote`. -/
def escaped (quote c : Char) : String :=
  if c == '\x00' then "\\0"
  else if c == '\t' then "\\t"
  else if c == '\r' then "\\r"
  else if c == '\n' then "\\n"
  else if c == '\\' || c == quote then String.ofList ['\\', c]
  else if extendsGrapheme c || isUnprintable c then codePoint c
  else c.toString

/-- A text between double quotes. -/
def quoted (text : String) : String :=
  "\"" ++ String.join (text.toList.map (escaped '"')) ++ "\""

/-- A character between single quotes. -/
def quotedChar (c : Char) : String :=
  "'" ++ escaped '\'' c ++ "'"

/-- The characters of a string literal.  A NUL before an octal digit is written by its
hexadecimal escape, so that the digit does not seem to belong to it. -/
def literalChars : List Char → List String
  | [] => []
  | c :: rest =>
      let shown :=
        match c, rest with
        | '\x00', next :: _ => if '0' ≤ next && next ≤ '7' then "\\x00" else "\\0"
        | _, _ => escaped '"' c
      shown :: literalChars rest

/-- A text as a string literal of source code. -/
def literal (text : String) : String :=
  "\"" ++ String.join (literalChars text.toList) ++ "\""

end SequenceKit.Text
