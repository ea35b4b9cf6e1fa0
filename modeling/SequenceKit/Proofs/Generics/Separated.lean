import Mathlib.Data.List.Perm.Basic
import SequenceKit.Proofs.Grammar.Punctuated

/-!
# Lists as they are written

A list is written entry by entry, each with the comma that is kept behind it.  If the list is
punctuated, what is written has a comma between any two entries and perhaps one behind the last.
So the marks for the commas can be forgotten, and the words of a written list be compared with the
words of its entries.

**Words.**  Here everything that is written is a list of words, one for each token and delimiter.
What a parameter or a predicate is to look like is said by its words, `Parameter.declaration` and
`Predicate.statement`, and not by the functions that print it.

* `commaSeparated`, `inAngles`, `behindWhere` — the words of lists, from those of their entries.
* `lifetimesThenOthers` — the order in which parameters are written, whatever becomes of commas.
* `words_printInOrder`, `words_printWhere` — parameters and predicates as they are written.
-/

namespace SequenceKit.Generics

open SequenceKit.Source SequenceKit.Grammar

variable {α : Type}

/-! ## Words -/

/-- Words behind a colon; without words there is no colon. -/
def behindColon (bounds : List String) : List String :=
  if bounds.isEmpty then [] else ":" :: bounds

/-- Entries with a comma between any two of them, and one behind the last if `trailing`. -/
def commaSeparated (entries : List (List String)) (trailing : Bool) : List String :=
  [","].intercalate entries ++ if trailing then [","] else []

/-- Entries between angle brackets; of no entries nothing is written. -/
def inAngles (entries : List (List String)) (trailing : Bool) : List String :=
  if entries.isEmpty then [] else "<" :: (commaSeparated entries trailing ++ [">"])

/-- Statements behind `where`; of no statements nothing is written. -/
def behindWhere (statements : List (List String)) (trailing : Bool) : List String :=
  if statements.isEmpty then [] else "where" :: commaSeparated statements trailing

/-- A parameter as an implementation declares it: all but its default, and no comma. -/
def Parameter.declaration (p : Parameter) : List String :=
  treesWords p.attributes ++
    match p.kind with
    | .lifetime bounds | .type bounds _ => p.name.words ++ behindColon (treesWords bounds)
    | .constant type _ => "const" :: (p.name.words ++ ":" :: treesWords type)

/-- A predicate without its comma. -/
def Predicate.statement (p : Predicate) : List String :=
  treesWords p.binder ++ treesWords p.subject ++ ":" :: treesWords p.bounds

/-! ## Words of trees -/

/-- Every tree has a word. -/
lemma isEmpty_treesWords (ts : Trees) : (treesWords ts).isEmpty = ts.isEmpty := by
  cases ts with
  | nil => rfl
  | cons t rest => cases t <;> rfl

lemma treesWords_flatten (pieces : List Trees) :
    treesWords pieces.flatten = (pieces.map treesWords).flatten := by
  induction pieces with
  | nil => rfl
  | cons piece rest ih =>
      rw [List.flatten_cons, treesWords_append, ih, List.map_cons, List.flatten_cons]

lemma treesWords_commaIf (present : Bool) :
    treesWords (commaIf present) = if present then [","] else [] := by
  cases present <;> rfl

lemma treesWords_boundsBehind (bounds : Trees) :
    treesWords (boundsBehind bounds) = behindColon (treesWords bounds) := by
  rw [boundsBehind, behindColon, isEmpty_treesWords]
  cases bounds.isEmpty with
  | true => rfl
  | false => exact treesWords_append (words ":") bounds

/-! ## Commas -/

/-- Whether a comma follows the last entry. -/
def lastComma (comma : α → Bool) (entries : List α) : Bool :=
  entries.getLast?.any comma

/-- A punctuated list is written with commas between its entries. -/
lemma words_of_punctuated {comma : α → Bool} (content : α → List String) {entries : List α}
    (h : Punctuated comma entries) :
    (entries.map fun a => content a ++ if comma a then [","] else []).flatten =
      commaSeparated (entries.map content) (lastComma comma entries) := by
  induction entries with
  | nil => rfl
  | cons a rest ih =>
      -- only an entry with another one behind it is known to have a comma
      cases rest with
      | nil => cases last : comma a <;> simp [commaSeparated, lastComma, last]
      | cons b rest =>
          have has_comma : comma a = true := List.rel_of_pairwise_cons h (.head rest)
          have later := ih h.of_cons
          have same : lastComma comma (a :: b :: rest) = lastComma comma (b :: rest) := by
            rw [lastComma, List.getLast?_cons_cons, lastComma]
          rw [List.map_cons, List.flatten_cons, later, has_comma, same, commaSeparated,
            commaSeparated, List.map_cons, List.map_cons, List.map_cons,
            List.intercalate_cons_cons]
          simp only [if_true, List.append_assoc]

/-! ## The order of parameters -/

/-- Parameters in the order in which they are written: lifetimes first, and otherwise in the order
of the declaration. -/
def lifetimesThenOthers (parameters : List Parameter) : List Parameter :=
  parameters.filter Parameter.isLifetime ++ parameters.filter (!·.isLifetime)

/-- Each parameter is written once. -/
lemma lifetimesThenOthers_perm (parameters : List Parameter) :
    (lifetimesThenOthers parameters).Perm parameters :=
  List.filter_append_perm _ _

/-- The order says nothing about commas, and so nothing that ignores them can tell it from the
order in which parameters are written. -/
lemma map_inWrittenOrder {content : Parameter → α}
    (ignores : ∀ p : Parameter, content { p with comma := true } = content p)
    (parameters : List Parameter) :
    (inWrittenOrder parameters).map content = (lifetimesThenOthers parameters).map content := by
  rw [inWrittenOrder, lifetimesFirst, lifetimesThenOthers, List.map_append, List.map_append]
  congr 1
  split
  · rfl
  · rw [List.map_map]
    exact List.map_congr_left fun p _ => ignores p

/-- Moving the lifetimes to the front leaves no entry in the middle without a comma. -/
lemma punctuated_inWrittenOrder {parameters : List Parameter}
    (h : Punctuated Parameter.comma parameters) :
    Punctuated Parameter.comma (inWrittenOrder parameters) := by
  rw [inWrittenOrder, lifetimesFirst]
  by_cases alone : (parameters.filter (!·.isLifetime)).isEmpty = true
  · rw [if_pos alone, List.isEmpty_iff.mp alone, List.append_nil]
    exact h.filter _
  · rw [if_neg alone]
    have commas : ∀ p ∈ (parameters.filter Parameter.isLifetime).map ({ · with comma := true }),
        p.comma = true := by
      intro p member
      obtain ⟨q, -, rfl⟩ := List.mem_map.mp member
      rfl
    exact List.pairwise_append.mpr
      ⟨Punctuated.of_all commas, h.filter _, fun p member _ _ => commas p member⟩

/-! ## Parameters as they are written -/

lemma Parameter.words_print_withoutDefault (p : Parameter) :
    treesWords p.withoutDefault.print = p.declaration ++ if p.comma then [","] else [] := by
  have colon (ts : Trees) : treesWords (words ":" ++ ts) = ":" :: treesWords ts :=
    treesWords_append _ _
  have const (ts : Trees) : treesWords (words "const" ++ ts) = "const" :: treesWords ts :=
    treesWords_append _ _
  cases kind : p.kind <;>
    simp only [withoutDefault, print, declaration, kind, valueBehind, treesWords_append,
      treesWords_commaIf, treesWords_boundsBehind, treesWords, colon, const, List.append_assoc,
      List.append_nil, List.cons_append]

lemma Parameter.words_printName_withoutDefault (p : Parameter) :
    treesWords p.withoutDefault.printName = p.name.words ++ if p.comma then [","] else [] := by
  cases kind : p.kind <;>
    simp only [withoutDefault, printName, kind, treesWords, treesWords_commaIf]

/-- Defaults have no part in the order of parameters. -/
lemma inWrittenOrder_withoutDefault (parameters : List Parameter) :
    inWrittenOrder (parameters.map Parameter.withoutDefault) =
      (inWrittenOrder parameters).map Parameter.withoutDefault := by
  have leads : Parameter.isLifetime ∘ Parameter.withoutDefault = Parameter.isLifetime := by
    funext p
    cases kind : p.kind <;> simp [Parameter.withoutDefault, Parameter.isLifetime, kind]
  have others : (!·.isLifetime) ∘ Parameter.withoutDefault = (!·.isLifetime) :=
    funext fun p => congrArg (!·) (congrFun leads p)
  have commas : ({ · with comma := true }) ∘ Parameter.withoutDefault =
      Parameter.withoutDefault ∘ ({ · with comma := true }) := by
    funext p
    cases kind : p.kind <;> simp [Parameter.withoutDefault, kind]
  rw [inWrittenOrder, lifetimesFirst, inWrittenOrder, lifetimesFirst, List.filter_map,
    List.filter_map, leads, others, List.isEmpty_map, List.map_map, commas, List.map_append,
    ← List.map_map]
  split <;> rfl

/-- Punctuated parameters are written with commas between them, lifetimes first. -/
lemma words_printInOrder {print : Parameter → Trees} {content : Parameter → List String}
    (ends : ∀ p : Parameter,
      treesWords (print p.withoutDefault) = content p ++ if p.comma then [","] else [])
    (ignores : ∀ p : Parameter, content { p with comma := true } = content p)
    {parameters : List Parameter} (h : Punctuated Parameter.comma parameters) :
    treesWords (printInOrder print (inWrittenOrder (parameters.map Parameter.withoutDefault))) =
      inAngles ((lifetimesThenOthers parameters).map content)
        (lastComma Parameter.comma (inWrittenOrder parameters)) := by
  have written := words_of_punctuated content (punctuated_inWrittenOrder h)
  have prints : (treesWords ∘ print) ∘ Parameter.withoutDefault =
      fun p => content p ++ if p.comma then [","] else [] := funext ends
  rw [inWrittenOrder_withoutDefault, printInOrder, List.isEmpty_map, inAngles,
    ← map_inWrittenOrder ignores, List.isEmpty_map]
  split
  · rfl
  · rw [angled, treesWords_append, treesWords_append, treesWords_flatten, List.map_map,
      List.map_map, prints, written]
    rfl

/-! ## Predicates as they are written -/

lemma Predicate.words_print (p : Predicate) :
    treesWords p.print = p.statement ++ if p.comma then [","] else [] := by
  rw [print, statement, treesWords_append, treesWords_append, treesWords_append, treesWords_append,
    treesWords_commaIf, List.append_assoc (treesWords _ ++ treesWords _)]
  rfl

lemma words_printWhere {predicates : List Predicate}
    (h : Punctuated Predicate.comma predicates) :
    treesWords (printWhere predicates) =
      behindWhere (predicates.map Predicate.statement) (lastComma Predicate.comma predicates) := by
  rw [printWhere, behindWhere, List.isEmpty_map]
  split
  · rfl
  · rw [treesWords_append, treesWords_flatten, List.map_map,
      show treesWords ∘ Predicate.print = _ from funext Predicate.words_print,
      words_of_punctuated _ h]
    rfl

end SequenceKit.Generics
