import SequenceKit.Source.Token

/-!
# Writing code

Small pieces of code, as token trees.

* `words` — tokens from a text in which blanks separate them.
* `marks` — the characters of a punctuation mark.
* `angled`, `parens`, `braces`, `brackets` — composed pieces.
* `commaIf` — a comma where there is to be one.
-/

namespace SequenceKit.Source

/-- One token: a lifetime, a punctuation character or a word. -/
def token (text : List Char) : Tree :=
  match text with
  | '\'' :: name => .lifetime (String.ofList name)
  | [c] => if c.isAlphanum then .word (String.ofList text) else .mark c false
  | _ => .word (String.ofList text)

/-- The tokens of a text in which blanks separate them. -/
def words (text : String) : Trees :=
  ((text.toList.splitOn ' ').filter (!·.isEmpty)).map token

/-- The characters of a punctuation mark, all but the last joint to the one behind. -/
def marksOf : List Char → Trees
  | [] => []
  | [c] => [.mark c false]
  | c :: more => .mark c true :: marksOf more

/-- A punctuation mark of one or more characters. -/
def marks (text : String) : Trees :=
  marksOf text.toList

/-- Two colons. -/
def colons : Trees :=
  marks "::"

/-- A path from the root: every identifier behind two colons. -/
def rootPath (segments : List String) : Trees :=
  (segments.map fun s => colons ++ [.word s]).flatten

/-- Trees between angle brackets. -/
def angled (trees : Trees) : Trees :=
  [.mark '<' false] ++ trees ++ [.mark '>' false]

/-- Trees between parentheses. -/
def parens (trees : Trees) : Trees :=
  [.group .parenthesis trees]

/-- Trees between braces. -/
def braces (trees : Trees) : Trees :=
  [.group .brace trees]

/-- Trees between brackets. -/
def brackets (trees : Trees) : Trees :=
  [.group .bracket trees]

/-- A comma, if there is to be one. -/
def commaIf (present : Bool) : Trees :=
  if present then [.mark ',' false] else []

end SequenceKit.Source
