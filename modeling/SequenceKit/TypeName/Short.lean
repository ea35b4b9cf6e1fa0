/-!
# Short type names

A printed type name is shortened in one pass from left to right, without building its tree.  The
text falls apart at the delimiters into tokens.  Of a token the part after its last `::` is
kept.  A token that starts with an apostrophe is a lifetime and is dropped, together with the
comma and the blank that follow it; where no argument follows it, what it leaves behind is
closed up instead.

* `lastSegment` — the part of a token after its last `::`.
* `Scan` and `Scan.read` — the state of the pass and one step of it.
* **`shorten`** — the short name of a printed type name.
-/

namespace SequenceKit.ShortName

/-- The characters at which a printed type name falls apart into tokens. -/
def isDelimiter (c : Char) : Bool :=
  c == '<' || c == '>' || c == ',' || c == ' ' || c == '(' || c == ')' || c == '[' || c == ']' ||
    c == ';' || c == '&'

/-- The characters after the last `::`, if there is one. -/
def afterLastSeparator : List Char → Option (List Char)
  | [] => none
  | c :: rest =>
      match afterLastSeparator rest with
      | some segment => some segment
      | none =>
          match c, rest with
          | ':', ':' :: segment => some segment
          | _, _ => none

/-- The part of a token after its last `::`; the whole token if it has none. -/
def lastSegment (token : List Char) : List Char :=
  (afterLastSeparator token).getD token

/-- A lifetime starts with an apostrophe. -/
def isLifetime : List Char → Bool
  | '\'' :: _ => true
  | _ => false

/-- Closes the text after a dropped lifetime that `delimiter` ended.  `written` is the text so
far, last character first.  A separator that waits for another argument is taken back, and an
argument list that is left empty loses its bracket. -/
def close (written : List Char) (delimiter : Char) : List Char :=
  let kept :=
    match written with
    | ' ' :: ',' :: rest => rest
    | _ => written
  match delimiter, kept with
  | '>', '<' :: rest => rest
  | _, _ => delimiter :: kept

/-- The state of the pass: the text written so far and the token being read, both last character
first, and whether the last token was a lifetime ended by a comma. -/
structure Scan where
  written : List Char
  token : List Char
  afterLifetime : Bool

/-- The state before the first character. -/
def Scan.start : Scan :=
  ⟨[], [], false⟩

/-- Ends the current token at a delimiter. -/
def Scan.endToken (s : Scan) (delimiter : Char) : Scan :=
  let token := s.token.reverse
  if isLifetime token then
    if delimiter == ',' then
      ⟨s.written, [], true⟩
    else
      ⟨close s.written delimiter, [], false⟩
  else if s.afterLifetime && token.isEmpty && delimiter == ' ' then
    ⟨s.written, [], false⟩
  else
    ⟨delimiter :: ((lastSegment token).reverse ++ s.written), [], false⟩

/-- Reads one character. -/
def Scan.read (s : Scan) (c : Char) : Scan :=
  if isDelimiter c then s.endToken c else { s with token := c :: s.token }

/-- The text at the end of the input: the last token is kept unless it is a lifetime. -/
def Scan.finish (s : Scan) : List Char :=
  let token := s.token.reverse
  s.written.reverse ++ (if isLifetime token then [] else lastSegment token)

/-- The short name, on characters. -/
def shortenChars (text : List Char) : List Char :=
  (text.foldl Scan.read Scan.start).finish

/-- The short name of a printed type name. -/
def shorten (text : String) : String :=
  String.ofList (shortenChars text.toList)

end SequenceKit.ShortName
