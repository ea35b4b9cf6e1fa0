import SequenceKit.Source.Code

/-!
# Reading token trees

A reader takes trees off the front of a list and answers with what it found, or fails.  What may
come next is decided by tests that look at the front and take nothing.

* `Reader` — the type of readers.
* `startsWord`, `startsMark`, `startsGroup`, … — the tests.
* `word`, `mark`, `name`, `within`, … — the readers of single trees.
* `attempt` — a reader that takes nothing where it fails.
* `asWritten` — the trees that a reader takes, whatever it makes of them.
* `gather`, `looping` — repetition, bounded by the number of trees that are left.
* `listed` — what stands between commas up to the end.
-/

namespace SequenceKit.Grammar

open SequenceKit.Source

/-- A reader of token trees. -/
abbrev Reader := StateT Trees Option

/-! ## What comes next -/

/-- Words with a meaning of their own, which cannot be names unless they are raw. -/
def reservedWords : List String :=
  ["_", "abstract", "as", "async", "await", "become", "box", "break", "const", "continue",
    "crate", "do", "dyn", "else", "enum", "extern", "false", "final", "fn", "for", "if", "impl",
    "in", "let", "loop", "macro", "match", "mod", "move", "mut", "override", "priv", "pub",
    "ref", "return", "Self", "self", "static", "struct", "super", "trait", "true", "try", "type",
    "typeof", "unsafe", "unsized", "use", "virtual", "where", "while", "yield"]

/-- Whether the word `w` comes next. -/
def startsWord (w : String) : Trees → Bool
  | .word text :: _ => text == w
  | _ => false

/-- Whether one of some words comes next. -/
def startsOneOf (ws : List String) : Trees → Bool
  | .word text :: _ => ws.contains text
  | _ => false

/-- Whether a word of any kind comes next. -/
def startsAnyWord : Trees → Bool
  | .word _ :: _ => true
  | _ => false

/-- Whether a word that can be a name comes next. -/
def startsName : Trees → Bool
  | .word text :: _ => !reservedWords.contains text
  | _ => false

/-- Whether a lifetime comes next. -/
def startsLifetime : Trees → Bool
  | .lifetime _ :: _ => true
  | _ => false

/-- Whether a delimited group of one kind comes next. -/
def startsGroup (d : Delimiter) : Trees → Bool
  | .group d' _ :: _ => d == d'
  | _ => false

/-- Whether punctuation characters come next, all but the last joint to the one behind. -/
def startsMarks : List Char → Trees → Bool
  | [], _ => true
  | [c], .mark d _ :: _ => c == d
  | c :: more, .mark d joint :: rest => c == d && joint && startsMarks more rest
  | _, _ => false

/-- Whether a punctuation mark of one or more characters comes next. -/
def startsMark (s : String) (ts : Trees) : Bool :=
  startsMarks s.toList ts

/-- Whether a single point comes next, such as the one before a field. -/
def startsPoint (ts : Trees) : Bool :=
  startsMark "." ts && !startsMark ".." ts

/-- Whether something comes next that goes on with an expression that ends with a block. -/
def startsTrailer (ts : Trees) : Bool :=
  startsPoint ts || startsMark "?" ts

/-- Whether an inner attribute comes next. -/
def startsInnerAttribute (ts : Trees) : Bool :=
  startsMark "#" ts && startsMark "!" (ts.drop 1)

/-- Whether a string literal comes next. -/
def startsString : Trees → Bool
  | .literal text :: _ => text.startsWith "\"" || text.startsWith "r"
  | _ => false

/-- Whether a literal is a number. -/
def isNumber (text : String) : Bool :=
  match text.toList with
  | c :: _ => c.isDigit
  | [] => false

/-- Whether a literal comes next: a literal token, a truth value, or a number with a minus. -/
def startsLiteral : Trees → Bool
  | .literal _ :: _ => true
  | .word text :: _ => text == "true" || text == "false"
  | .mark '-' _ :: .literal text :: _ => isNumber text
  | _ => false

/-! ## Single trees -/

/-- Looks at what comes next. -/
def peek (test : Trees → Bool) : Reader Bool := do
  return test (← get)

/-- Fails unless the test holds. -/
def require (test : Trees → Bool) : Reader Unit := do
  if !(← peek test) then failure

/-- Takes the next tree. -/
def next : Reader Tree := do
  match ← get with
  | t :: rest =>
      set rest
      return t
  | [] => failure

/-- Takes as many trees as there are characters in a punctuation mark that comes next. -/
def mark (s : String) : Reader Trees := do
  require (startsMark s)
  let ts ← get
  set (ts.drop s.length)
  return ts.take s.length

/-- Takes a punctuation mark if it comes next. -/
def optionalMark (s : String) : Reader Trees := do
  if ← peek (startsMark s) then mark s else return []

/-- Takes the next tree if the test holds, and fails otherwise. -/
def one (test : Trees → Bool) : Reader Trees := do
  require test
  return [← next]

/-- Takes the next tree if the test holds. -/
def optional (test : Trees → Bool) : Reader Trees := do
  if ← peek test then return [← next] else return []

/-- Takes the word `w`. -/
def word (w : String) : Reader Trees :=
  one (startsWord w)

/-- Takes a name. -/
def name : Reader Trees :=
  one startsName

/-- Takes a lifetime. -/
def lifetime : Reader Trees :=
  one startsLifetime

/-- Takes a literal. -/
def literal : Reader Trees := do
  require startsLiteral
  if ← peek (startsMark "-") then
    let sign ← next
    return [sign, ← next]
  else
    return [← next]

/-- Takes a delimited group of any kind whole. -/
def anyGroup : Reader Trees :=
  one fun ts => startsGroup .parenthesis ts || startsGroup .bracket ts || startsGroup .brace ts

/-- Whether nothing is left. -/
def atEnd : Reader Bool :=
  peek List.isEmpty

/-- Reads the inside of a group, of which nothing may be left. -/
def inside (d : Delimiter) {α : Type} (p : Reader α) : Reader α := do
  match ← next with
  | .group d' trees =>
      if d == d' then
        match p.run trees with
        | some (a, []) => return a
        | _ => failure
      else failure
  | _ => failure

/-- Reads the inside of a group and answers with the group around what was read. -/
def within (d : Delimiter) (p : Reader Trees) : Reader Trees := do
  return [.group d (← inside d p)]

/-! ## Alternatives and extent -/

/-- Reads what a reader reads, or takes nothing where it fails. -/
def attempt {α : Type} (p : Reader α) : Reader (Option α) := fun ts =>
  match p.run ts with
  | some (a, rest) => some (some a, rest)
  | none => some (none, ts)

/-- What is left of trees behind a reader, if it does not fail. -/
def behind? {α : Type} (p : Reader α) (ts : Trees) : Option Trees :=
  (p.run ts).map (·.2)

/-- The trees that were taken since `start` was what comes next. -/
def since (start : Trees) : Reader Trees := do
  return start.take (start.length - (← get).length)

/-- The trees that a reader takes, as they are written. -/
def asWritten {α : Type} (p : Reader α) : Reader Trees := do
  let start ← get
  let _ ← p
  since start

/-! ## Repetition -/

/-- Repeats a step on a state as long as it asks for more, at most `fuel` times. -/
def iterate {σ : Type} (step : σ → Reader (σ × Bool)) : (fuel : Nat) → σ → Reader σ
  | 0, _ => failure
  | fuel + 1, s => do
      let (s', more) ← step s
      if more then iterate step fuel s' else return s'

/-- Repeats a step that takes at least one tree whenever it asks for more. -/
def looping {σ : Type} (step : σ → Reader (σ × Bool)) (s : σ) : Reader σ := do
  iterate step ((← get).length + 1) s

/-- Repeats a step and joins what it answers. -/
def gather (step : Reader (Trees × Bool)) : Reader Trees :=
  looping (fun ts => do
    let (found, more) ← step
    return (ts ++ found, more)) []

/-- Reads items with commas between them up to the end; a last comma is allowed. -/
def listed (item : Reader Trees) : Reader Trees :=
  gather do
    if ← atEnd then return ([], false)
    let found ← item
    if ← atEnd then return (found, false)
    return (found ++ (← mark ","), true)

end SequenceKit.Grammar
