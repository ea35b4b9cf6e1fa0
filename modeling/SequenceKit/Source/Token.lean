/-!
# Token trees

Source text is a sequence of tokens in which every opening delimiter has its closing one, so that
delimited parts are trees of their own.

* `Tree`, `Trees` — a token or a delimited group, and a run of them.
* `Tree.words`, `printTrees` — the tokens as words, one for each token and each delimiter, every
  punctuation character on its own.
-/

namespace SequenceKit.Source

/-- The three kinds of delimiters. -/
inductive Delimiter where
  | parenthesis
  | bracket
  | brace
  deriving DecidableEq, Repr

/-- How a delimited part starts. -/
def Delimiter.opening : Delimiter → String
  | parenthesis => "("
  | bracket => "["
  | brace => "\x7b"

/-- How a delimited part ends. -/
def Delimiter.closing : Delimiter → String
  | parenthesis => ")"
  | bracket => "]"
  | brace => "\x7d"

/-- A token, or the tokens between two delimiters. -/
inductive Tree where
  /-- A word; a raw identifier keeps its mark `r#`. -/
  | word (text : String)
  /-- A lifetime, without its apostrophe. -/
  | lifetime (name : String)
  /-- One punctuation character; it is joint when punctuation follows it without a gap. -/
  | mark (c : Char) (joint : Bool)
  /-- A literal, as it is written. -/
  | literal (text : String)
  | group (delimiter : Delimiter) (trees : List Tree)
  deriving Inhabited

/-- A run of token trees. -/
abbrev Trees := List Tree

mutual

/-- A tree as words. -/
def Tree.words : Tree → List String
  | .word text => [text]
  | .lifetime name => ["'" ++ name]
  | .mark c _ => [c.toString]
  | .literal text => [text]
  | .group delimiter trees =>
      delimiter.opening :: (treesWords trees ++ [delimiter.closing])

/-- Several trees as words. -/
def treesWords : List Tree → List String
  | [] => []
  | t :: rest => t.words ++ treesWords rest

end

/-- Trees as one line of words. -/
def printTrees (trees : List Tree) : String :=
  " ".intercalate (treesWords trees)

/-- Words are appended when trees are. -/
theorem treesWords_append (ts us : List Tree) :
    treesWords (ts ++ us) = treesWords ts ++ treesWords us := by
  induction ts with
  | nil => simp [treesWords]
  | cons t rest ih => simp [treesWords, ih]

end SequenceKit.Source
