import SequenceKit.Source.Literal
import SequenceKit.Source.Token
import SequenceKit.Text.Quoted

/-!
# From text to token trees

The text is first cut into lexemes, then the delimiters among them are matched.  Blanks and
comments separate tokens and vanish, but for documentation comments, which stand for an attribute
that holds their text.

* `Lexeme` — a token, or one end of a delimited part.
* `lexemes?` — the lexemes of a text.
* `trees?` — the trees of lexemes whose delimiters match.
* **`Tree.ofText?`** — the trees of a text.
-/

namespace SequenceKit.Source

open SequenceKit.Text

/-- What the text falls apart into. -/
inductive Lexeme where
  | token (t : Tree)
  | opening (d : Delimiter)
  | closing (d : Delimiter)

/-! ## Blanks and comments -/

/-- The blanks beyond ASCII; the two direction marks count as blanks. -/
def wideBlankRanges : Ranges :=
  [(0x85, 0x85), (0xa0, 0xa0), (0x1680, 0x1680), (0x2000, 0x200a), (0x200e, 0x200f),
    (0x2028, 0x2029), (0x202f, 0x202f), (0x205f, 0x205f), (0x3000, 0x3000)]

/-- The characters that separate tokens. -/
def isBlank (c : Char) : Bool :=
  c == ' ' || (0x09 ≤ c.toNat && c.toNat ≤ 0x0d) || wideBlankRanges.holds c.toNat

/-- The rest of a line and the text behind it.  A line ends at a line feed or at a carriage
return before one, which does not belong to the line. -/
def lineEnd : List Char → List Char × List Char
  | [] => ([], [])
  | '\n' :: rest => ([], '\n' :: rest)
  | '\r' :: '\n' :: rest => ([], '\n' :: rest)
  | c :: rest =>
      let (line, behind) := lineEnd rest
      (c :: line, behind)

/-- The content of a block comment and the text behind it; comments nest.  `depth` counts the
comments that are still open. -/
def blockEnd : (depth : Nat) → List Char → Option (List Char × List Char)
  | _, [] => none
  | depth, '/' :: '*' :: rest =>
      (blockEnd (depth + 1) rest).map fun (content, behind) => ('/' :: '*' :: content, behind)
  | 0, '*' :: '/' :: rest => some ([], rest)
  | depth + 1, '*' :: '/' :: rest =>
      (blockEnd depth rest).map fun (content, behind) => ('*' :: '/' :: content, behind)
  | depth, c :: rest =>
      (blockEnd depth rest).map fun (content, behind) => (c :: content, behind)

/-- Whether a carriage return stands in a text without a line feed behind it. -/
def hasBareReturn : List Char → Bool
  | [] => false
  | '\r' :: '\n' :: rest => hasBareReturn rest
  | c :: rest => c == '\r' || hasBareReturn rest

/-- A documentation comment as the attribute that it stands for; an inner one has a mark. -/
def documentation (inner : Bool) (content : List Char) : List Lexeme :=
  let pound := [.token (.mark '#' false)]
  let bang := if inner then [.token (.mark '!' false)] else []
  let body := [.word "doc", .mark '=' false, .literal (literal (String.ofList content))]
  pound ++ bang ++ [.token (.group .bracket body)]

/-- What a text may start with, cut off. -/
inductive Cut where
  /-- Lexemes, none for a blank or a comment, and the text behind them. -/
  | step (found : List Lexeme) (rest : List Char)
  /-- Nothing that could be read. -/
  | refused

/-- Cuts off a documentation comment. -/
def cutDocumentation (inner : Bool) : Option (List Char × List Char) → Cut
  | some (content, rest) =>
      if hasBareReturn content then .refused else .step (documentation inner content) rest
  | none => .refused

/-- Cuts off a comment, if the text starts with one.  Comments with three or more slashes or
stars are plain, and so is an empty block comment. -/
def cutComment? : List Char → Option Cut
  | '/' :: '/' :: '/' :: '/' :: rest => some (.step [] (lineEnd rest).2)
  | '/' :: '/' :: '/' :: rest => some (cutDocumentation false (some (lineEnd rest)))
  | '/' :: '/' :: '!' :: rest => some (cutDocumentation true (some (lineEnd rest)))
  | '/' :: '/' :: rest => some (.step [] (lineEnd rest).2)
  | '/' :: '*' :: '*' :: '/' :: rest => some (.step [] rest)
  | '/' :: '*' :: '*' :: '*' :: rest => some (plain ('*' :: '*' :: rest))
  | '/' :: '*' :: '*' :: rest => some (cutDocumentation false (blockEnd 0 rest))
  | '/' :: '*' :: '!' :: rest => some (cutDocumentation true (blockEnd 0 rest))
  | '/' :: '*' :: rest => some (plain rest)
  | _ => none
where
  /-- A block comment that vanishes. -/
  plain (rest : List Char) : Cut :=
    match blockEnd 0 rest with
    | some (_, behind) => .step [] behind
    | none => .refused

/-! ## Tokens -/

/-- Whether a text starts with a punctuation character; the start of a comment is none. -/
def startsWithMark : List Char → Bool
  | '/' :: '/' :: _ => false
  | '/' :: '*' :: _ => false
  | c :: _ => "~!@#$%^&*-=+|;:,<.>/?'".toList.contains c
  | [] => false

/-- The part of `text` before `rest`, which is its end. -/
def before (text rest : List Char) : String :=
  String.ofList (text.take (text.length - rest.length))

/-- Words that may not be made raw. -/
def neverRaw : List String :=
  ["_", "super", "self", "Self", "crate"]

/-- An identifier, raw or not, and the text behind it. -/
def anyIdentifier? : List Char → Option (String × List Char)
  | 'r' :: '#' :: text =>
      match identifier? text with
      | some rest =>
          if neverRaw.contains (before text rest) then none
          else some ("r#" ++ before text rest, rest)
      | none => none
  | text => (identifier? text).map fun rest => (before text rest, rest)

/-- Beginnings of literals, which are no identifiers even where no literal follows. -/
def literalBeginnings : List (List Char) :=
  ["r\"", "r#\"", "r##", "b\"", "b'", "br\"", "br#", "c\"", "cr\"", "cr#"].map (·.toList)

/-- Whether a text starts with a name that an apostrophe may stand before.  A second apostrophe
behind the name excludes it, and so does a hash unless the name is raw. -/
def startsLifetimeName (text : List Char) : Bool :=
  match anyIdentifier? text with
  | some (name, rest) =>
      match rest with
      | '\'' :: _ => false
      | '#' :: _ => name.startsWith "r#"
      | _ => true
  | none => false

/-- Cuts off an identifier, of which `tree` makes a token. -/
def cutIdentifier (tree : String → Tree) (text : List Char) : Cut :=
  if literalBeginnings.any (·.isPrefixOf text) then .refused
  else
    match anyIdentifier? text with
    | some (name, rest) => .step [.token (tree name)] rest
    | none => .refused

/-- Cuts off what stands behind an apostrophe that opens no character literal.  A name makes it a
lifetime; but where the letters of the name open a literal, the literal comes first and the
apostrophe is a mark before it. -/
def cutLifetime (text : List Char) : Cut :=
  if !startsLifetimeName text then .refused
  else
    match literal? text with
    | some rest => .step [.token (.mark '\'' true), .token (.literal (before text rest))] rest
    | none => cutIdentifier .lifetime text

/-- Cuts off a literal, a punctuation character or an identifier, in this order. -/
def cutToken (text : List Char) : Cut :=
  match literal? text with
  | some rest => .step [.token (.literal (before text rest))] rest
  | none =>
      match text with
      | '\'' :: rest => cutLifetime rest
      | c :: rest =>
          if startsWithMark text then .step [.token (.mark c (startsWithMark rest))] rest
          else cutIdentifier .word text
      | [] => .refused

/-- Cuts off whatever a text starts with. -/
def cut (text : List Char) : Cut :=
  match text with
  | '(' :: rest =>
      if placeholder.isPrefixOf text then cutToken text else .step [.opening .parenthesis] rest
  | '[' :: rest => .step [.opening .bracket] rest
  | '\x7b' :: rest => .step [.opening .brace] rest
  | ')' :: rest => .step [.closing .parenthesis] rest
  | ']' :: rest => .step [.closing .bracket] rest
  | '\x7d' :: rest => .step [.closing .brace] rest
  | _ =>
      match cutComment? text with
      | some found => found
      | none =>
          match text with
          | c :: rest => if isBlank c then .step [] rest else cutToken text
          | [] => .refused

/-- The lexemes of a text, or nothing where a part of it cannot be read.  Every cut leaves a
shorter text. -/
def lexemes? (text : List Char) : Option (List Lexeme) :=
  match text with
  | [] => some []
  | c :: behind =>
      match cut (c :: behind) with
      | .step found rest =>
          if rest.length ≤ behind.length then (lexemes? rest).map (found ++ ·) else none
      | .refused => none
termination_by text.length

/-! ## Trees -/

/-- Matches delimiters.  `open_` holds the delimited parts that are still open, innermost first,
each with the trees read before it; `done` holds the trees of the innermost part, last first. -/
def matchDelimiters :
    List Lexeme → (open_ : List (Delimiter × List Tree)) → (done : List Tree) →
      Option (List Tree)
  | [], [], done => some done.reverse
  | [], _ :: _, _ => none
  | .token t :: rest, open_, done => matchDelimiters rest open_ (t :: done)
  | .opening d :: rest, open_, done => matchDelimiters rest ((d, done) :: open_) []
  | .closing _ :: _, [], _ => none
  | .closing d :: rest, (d', outer) :: open_, done =>
      if d = d' then matchDelimiters rest open_ (.group d done.reverse :: outer) else none

/-- The trees of lexemes whose delimiters match. -/
def trees? (lexemes : List Lexeme) : Option (List Tree) :=
  matchDelimiters lexemes [] []

/-- The trees of a text; a byte order mark at its start is skipped. -/
def Tree.ofText? (text : String) : Option (List Tree) :=
  let chars := text.toList
  let body :=
    match chars with
    | c :: rest => if c.toNat == 0xfeff then rest else chars
    | [] => chars
  (lexemes? body).bind trees?

end SequenceKit.Source
