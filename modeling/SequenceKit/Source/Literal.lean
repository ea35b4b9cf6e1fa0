import SequenceKit.Text.Identifier

/-!
# Literals in source text

How far a literal reaches.  Each reader is given the text at the start of a literal and returns
the text behind it, or nothing where the text does not start with such a literal.

* `identifier?` — the rest behind an identifier.
* `quotedEnd` — behind the closing quote of a text, bytes or C-text literal.
* `float?`, `integer?` — behind a number.
* `placeholder?` — behind what stands for a literal that could not be read.
* **`literal?`** — behind any literal.
-/

namespace SequenceKit.Source

open SequenceKit.Text

/-! ## Identifiers -/

/-- The rest behind an identifier. -/
def identifier? : List Char → Option (List Char)
  | c :: rest => if isIdentifierStart c then some (rest.dropWhile isIdentifierContinue) else none
  | [] => none

/-- A literal may be followed at once by an identifier, which is its suffix. -/
def behindSuffix (text : List Char) : List Char :=
  (identifier? text).getD text

/-- Whether a text could go on with an identifier. -/
def goesOn : List Char → Bool
  | c :: _ => isIdentifierContinue c
  | [] => false

/-! ## Quoted literals -/

/-- What quotes may hold. -/
inductive QuoteKind where
  /-- Characters. -/
  | text
  /-- ASCII characters, each a byte. -/
  | bytes
  /-- Characters other than NUL. -/
  | cText
  deriving DecidableEq

/-- Whether a character may stand between the quotes as it is. -/
def QuoteKind.admits (kind : QuoteKind) (c : Char) : Bool :=
  match kind with
  | text => true
  | bytes => c.toNat < 0x80
  | cText => c.toNat != 0

def isHexDigit (c : Char) : Bool :=
  ('0' ≤ c && c ≤ '9') || ('a' ≤ c && c ≤ 'f') || ('A' ≤ c && c ≤ 'F')

/-- The value of a hexadecimal digit. -/
def hexValue (c : Char) : Nat :=
  if '0' ≤ c && c ≤ '9' then c.toNat - '0'.toNat
  else if 'a' ≤ c && c ≤ 'f' then 10 + (c.toNat - 'a'.toNat)
  else 10 + (c.toNat - 'A'.toNat)

/-- The two digits of a byte escape: a text takes ASCII only, and a C text no NUL. -/
def QuoteKind.admitsByte (kind : QuoteKind) (high low : Char) : Bool :=
  isHexDigit high && isHexDigit low &&
    match kind with
    | text => hexValue high < 8
    | bytes => true
    | cText => hexValue high != 0 || hexValue low != 0

/-- The code point of an escape in braces and the rest behind it: one to six digits, with low
lines after the first. -/
def codePointEnd (value count : Nat) : List Char → Option (Nat × List Char)
  | [] => none
  | c :: rest =>
      if isHexDigit c then
        if count == 6 then none else codePointEnd (value * 16 + hexValue c) (count + 1) rest
      else if c == '_' && count > 0 then codePointEnd value count rest
      else if c == '\x7d' && count > 0 && value.isValidChar then some (value, rest)
      else none

/-- The rest behind the blanks that follow a backslash at the end of a line.  A carriage return
has to be followed by a line feed, and the literal has to go on. -/
def behindLineBreak (afterReturn : Bool) : List Char → Option (List Char)
  | [] => none
  | c :: rest =>
      if afterReturn then
        if c == '\n' then behindLineBreak false rest else none
      else if c == '\r' then behindLineBreak true rest
      else if c == ' ' || c == '\t' || c == '\n' then behindLineBreak false rest
      else some (c :: rest)

/-- The rest behind an escape; the text starts behind the backslash. -/
def escapeEnd (kind : QuoteKind) : List Char → Option (List Char)
  | 'x' :: high :: low :: rest => if kind.admitsByte high low then some rest else none
  | 'u' :: '\x7b' :: rest =>
      if kind == .bytes then none
      else
        match codePointEnd 0 0 rest with
        | some (code, behind) => if kind == .cText && code == 0 then none else some behind
        | none => none
  | '0' :: rest => if kind == .cText then none else some rest
  | '\n' :: rest => behindLineBreak false rest
  | '\r' :: rest => behindLineBreak true rest
  | c :: rest =>
      if c == 'n' || c == 'r' || c == 't' || c == '\\' || c == '\'' || c == '"' then some rest
      else none
  | [] => none

/-- Behind the closing quote of a literal whose text goes on with the given characters.  Every
step goes on with a shorter text. -/
def quotedEnd (kind : QuoteKind) (text : List Char) : Option (List Char) :=
  match text with
  | [] => none
  | '"' :: rest => some (behindSuffix rest)
  | '\r' :: '\n' :: rest => quotedEnd kind rest
  | '\r' :: _ => none
  | '\\' :: rest =>
      match escapeEnd kind rest with
      | some behind =>
          if behind.length ≤ rest.length then quotedEnd kind behind else none
      | none => none
  | c :: rest => if kind.admits c then quotedEnd kind rest else none
termination_by text.length

/-- Behind the closing quote of a raw literal: a quote and as many hashes as opened it. -/
def rawEnd (kind : QuoteKind) (hashes : Nat) : List Char → Option (List Char)
  | [] => none
  | '\r' :: '\n' :: rest => rawEnd kind hashes rest
  | '\r' :: _ => none
  | c :: rest =>
      if c == '"' && rest.take hashes == List.replicate hashes '#' then
        some (behindSuffix (rest.drop hashes))
      else if kind.admits c then rawEnd kind hashes rest
      else none

/-- A raw literal behind its letters: hashes, at most 255, and a quote. -/
def raw? (kind : QuoteKind) (text : List Char) : Option (List Char) :=
  let hashes := (text.takeWhile (· == '#')).length
  match text.drop hashes with
  | '"' :: rest => if hashes ≤ 255 then rawEnd kind hashes rest else none
  | _ => none

/-- Behind a quoted or raw literal. -/
def string? : List Char → Option (List Char)
  | '"' :: rest => quotedEnd .text rest
  | 'r' :: rest => raw? .text rest
  | 'b' :: '"' :: rest => quotedEnd .bytes rest
  | 'b' :: 'r' :: rest => raw? .bytes rest
  | 'c' :: '"' :: rest => quotedEnd .cText rest
  | 'c' :: 'r' :: rest => raw? .cText rest
  | _ => none

/-! ## Characters -/

/-- The rest behind the content of a character or byte literal. -/
def characterContent (kind : QuoteKind) : List Char → Option (List Char)
  | '\\' :: c :: rest =>
      if c == '\n' || c == '\r' then none else escapeEnd kind (c :: rest)
  | ['\\'] => none
  | c :: rest => if kind.admits c then some rest else none
  | [] => none

/-- A character literal behind its opening quote. -/
def quotedCharacter (kind : QuoteKind) (text : List Char) : Option (List Char) :=
  match characterContent kind text with
  | some ('\'' :: rest) => some (behindSuffix rest)
  | _ => none

/-- Behind a character or byte literal. -/
def character? : List Char → Option (List Char)
  | 'b' :: '\'' :: rest => quotedCharacter .bytes rest
  | '\'' :: rest => quotedCharacter .text rest
  | _ => none

/-! ## Numbers -/

/-- What stands between the digits of a float and its end. -/
inductive FloatPart where
  /-- Neither a point nor an exponent follows. -/
  | whole
  /-- The digits end; the flag says whether there was a point. -/
  | digits (hasPoint : Bool) (rest : List Char)
  /-- An exponent follows: the rest from its letter on, and behind its letter. -/
  | exponent (hasPoint : Bool) (fromLetter behind : List Char)

/-- The digits of a float, with at most one point, which no second point and no name follows. -/
def floatDigits (hasPoint : Bool) : List Char → FloatPart
  | [] => .digits hasPoint []
  | c :: rest =>
      if c.isDigit || c == '_' then floatDigits hasPoint rest
      else if c == '.' then
        if hasPoint then .digits true (c :: rest)
        else
          match rest with
          | next :: _ => if next == '.' || isIdentifierStart next then .whole
                         else floatDigits true rest
          | [] => .digits true []
      else if c == 'e' || c == 'E' then .exponent hasPoint (c :: rest) rest
      else .digits hasPoint (c :: rest)

/-- The digits of an exponent: a sign at most once and before any digit.  Nothing where there is
no digit or a second sign. -/
def exponentEnd (hasSign hasDigit : Bool) : List Char → Option (List Char)
  | [] => if hasDigit then some [] else none
  | c :: rest =>
      if c == '+' || c == '-' then
        if hasDigit then some (c :: rest)
        else if hasSign then none
        else exponentEnd true hasDigit rest
      else if c.isDigit then exponentEnd hasSign true rest
      else if c == '_' then exponentEnd hasSign hasDigit rest
      else if hasDigit then some (c :: rest)
      else none

/-- Behind the suffix of a number, which nothing may follow that could belong to it. -/
def numberEnd (text : List Char) : Option (List Char) :=
  let behind := behindSuffix text
  if goesOn behind then none else some behind

/-- Behind a number with a point or an exponent.  An exponent without digits is read as a
suffix behind a point. -/
def float? : List Char → Option (List Char)
  | c :: rest =>
      if c.isDigit then
        match floatDigits false rest with
        | .whole => none
        | .digits hasPoint behind => if hasPoint then numberEnd behind else none
        | .exponent hasPoint fromLetter behind =>
            match exponentEnd false false behind with
            | some digits => numberEnd digits
            | none => if hasPoint then numberEnd fromLetter else none
      else none
  | [] => none

/-- Behind the digits of an integer in a base; a decimal digit too large for the base is
refused, and a letter too large ends the digits. -/
def integerDigits (base : Nat) (empty : Bool) : List Char → Option (List Char)
  | [] => if empty then none else some []
  | c :: rest =>
      if c.isDigit then
        if hexValue c < base then integerDigits base false rest else none
      else if isHexDigit c && hexValue c < base then integerDigits base false rest
      else if c == '_' then
        if empty && base == 10 then none else integerDigits base empty rest
      else if empty then none
      else some (c :: rest)

/-- Behind an integer. -/
def integer? (text : List Char) : Option (List Char) :=
  let behind :=
    match text with
    | '0' :: 'x' :: rest => integerDigits 16 true rest
    | '0' :: 'o' :: rest => integerDigits 8 true rest
    | '0' :: 'b' :: rest => integerDigits 2 true rest
    | _ => integerDigits 10 true text
  behind.bind numberEnd

/-! ## Placeholders -/

/-- What stands in source text for a literal that could not be read.  It is a literal itself, though
it looks like a comment between parentheses. -/
def placeholder : List Char :=
  "(/*ERROR*/)".toList

/-- Behind a placeholder. -/
def placeholder? (text : List Char) : Option (List Char) :=
  if placeholder.isPrefixOf text then some (text.drop placeholder.length) else none

/-- Behind any literal. -/
def literal? (text : List Char) : Option (List Char) :=
  placeholder? text <|> string? text <|> character? text <|> float? text <|> integer? text

end SequenceKit.Source
