import SequenceKit.Proofs.TypeName.Piece
import SequenceKit.TypeName.Basic

/-!
# What the pass leaves of a printed tree

The pass drops every lifetime, but what stood around it goes only in an argument list.  Behind the
lifetime of a reference the blank stays, before the lifetime of a list of bounds the plus sign
stays, and a comma that follows there goes.  `TypeName.remnant` writes this down by recursion on
the tree.

Nothing else of a tree depends on its lifetimes.  A constant argument is one token, and the pass
treats it like any other: an apostrophe in front makes it a lifetime, and of a path the last
segment stays.

* `TypeName.named` — trees of plain identifiers, with lifetimes anywhere.
* **`piece_remnant`** — every type in such a tree leaves its remnant, wherever it stands.
-/

namespace SequenceKit.TypeName

open ShortName

/-! ## Remnants of trees -/

/-- What is left of a constant. -/
def remnantConstant (text : List Char) : Option Remnant :=
  if isLifetime text then none else some ⟨lastSegment text, false⟩

/-- The blank behind a lifetime that was dropped. -/
def orphanedBlank : Option String → List Char
  | none => []
  | some _ => [' ']

/-- The keyword in front of what can be written. -/
def writableChars (writable : Bool) : List Char :=
  if writable then ['m', 'u', 't', ' '] else []

mutual

/-- What the pass leaves of a printed type. -/
def remnant : TypeName → Remnant
  | path segments arguments =>
      ⟨("::".intercalate (lastOnly segments)).toList ++
        Remnant.angled (remnantArguments arguments), false⟩
  | tuple parts => ⟨Remnant.tupled (remnantAll parts), false⟩
  | slice element => ⟨['['] ++ ((remnant element).text ++ [']']), false⟩
  | array element length =>
      ⟨['['] ++ ((remnant element).text ++ [';']) ++ ([' '] ++ (length.toList ++ [']'])), false⟩
  | reference lifetime writable target =>
      (remnant target).after (['&'] ++ (orphanedBlank lifetime ++ writableChars writable))
  | pointer writable target =>
      (remnant target).after ((if writable then "*mut " else "*const ").toList)
  | function inputs output => Remnant.function (remnantAll inputs) (remnantOption output)
  | dynamic bounds lifetime =>
      let written := (Remnant.joined (remnantAll bounds)).after ['d', 'y', 'n', ' ']
      if lifetime.isSome then written.bounded else written

/-- What is left of an argument, if it is no lifetime. -/
def remnantArgument : Argument → Option Remnant
  | .lifetime _ => none
  | .type t => some (remnant t)
  | .constant text => remnantConstant text.toList

/-- What is left of a path's arguments. -/
def remnantArguments : List Argument → List Remnant
  | [] => []
  | a :: rest => (remnantArgument a).toList ++ remnantArguments rest

/-- What is left of several types. -/
def remnantAll : List TypeName → List Remnant
  | [] => []
  | t :: rest => remnant t :: remnantAll rest

/-- What is left of a type that may be absent. -/
def remnantOption : Option TypeName → Option Remnant
  | none => none
  | some t => some (remnant t)

end

lemma remnantArguments_eq (arguments : List Argument) :
    remnantArguments arguments = (arguments.map remnantArgument).reduceOption := by
  induction arguments with
  | nil => rfl
  | cons a rest ih =>
      rw [remnantArguments, ih, List.map_cons]
      cases remnantArgument a <;> rfl

/-! ## Trees -/

/-- A text that holds no delimiter, and of which something is left unless it starts with an
apostrophe. -/
def isConstant (text : List Char) : Bool :=
  text.all (!isDelimiter ·) && (isLifetime text || !(lastSegment text).isEmpty)

mutual

/-- Trees whose identifiers and lifetimes are words and whose constants are single tokens. -/
def named : TypeName → Bool
  | path segments arguments =>
      !segments.isEmpty && segments.all (isWord ·.toList) && namedArguments arguments
  | tuple parts => namedAll parts
  | slice element => named element
  | array element length => named element && isWord length.toList
  | reference lifetime _ target => lifetime.all (isWord ·.toList) && named target
  | pointer _ target => named target
  | function inputs output => namedAll inputs && namedOption output
  | dynamic bounds lifetime =>
      !bounds.isEmpty && namedAll bounds && lifetime.all (isWord ·.toList)

/-- A lifetime's name is a word, and a constant is a token. -/
def namedArgument : Argument → Bool
  | .lifetime name => isWord name.toList
  | .type t => named t
  | .constant text => isConstant text.toList

def namedArguments : List Argument → Bool
  | [] => true
  | a :: rest => namedArgument a && namedArguments rest

def namedAll : List TypeName → Bool
  | [] => true
  | t :: rest => named t && namedAll rest

def namedOption : Option TypeName → Bool
  | none => true
  | some t => named t

end

lemma isConstant_of_isWord {text : List Char} (h : isWord text = true) :
    isConstant text = true := by
  have plain : text.all (!isDelimiter ·) = true := by
    rw [List.all_eq_true]
    intro c mem
    rw [(isWord_mem h mem).1, Bool.not_false]
  rw [isConstant, plain, lastSegment_of_notMem (isWord_colon_notMem h)]
  simp [isWord_ne_nil h]

lemma remnantConstant_of_isWord {text : List Char} (h : isWord text = true) :
    remnantConstant text = some ⟨text, false⟩ := by
  have unquoted := isLifetime_of_notMem fun mem => (isWord_mem h mem).2.2 rfl
  rw [remnantConstant, unquoted, if_neg Bool.false_ne_true,
    lastSegment_of_notMem (isWord_colon_notMem h)]

lemma plain_of_all {text : List Char} (h : text.all (!isDelimiter ·) = true) :
    ∀ c ∈ text, isDelimiter c = false := by
  rw [List.all_eq_true] at h
  exact fun c mem => by simpa using h c mem

lemma plain_of_isConstant {text : List Char} (h : isConstant text = true) :
    ∀ c ∈ text, isDelimiter c = false := by
  rw [isConstant, Bool.and_eq_true] at h
  exact plain_of_all h.1

lemma shown_of_isConstant {text : List Char} (h : isConstant text = true)
    (unquoted : isLifetime text = false) : lastSegment text ≠ [] := by
  rw [isConstant, unquoted, Bool.false_or, Bool.and_eq_true] at h
  simpa using h.2

lemma argumentLeaves_constant {text : List Char} (h : isConstant text = true) :
    ArgumentLeaves text (remnantConstant text) := by
  have plain := plain_of_isConstant h
  rw [remnantConstant]
  cases quoted : isLifetime text with
  | true =>
      rw [if_pos rfl]
      rw [isLifetime.eq_def] at quoted
      split at quoted
      · exact .dropped fun c mem => plain c (List.mem_cons_of_mem _ mem)
      · exact absurd quoted Bool.false_ne_true
  | false =>
      rw [if_neg Bool.false_ne_true]
      refine .kept ⟨.settled (.token plain quoted), ?_⟩
      refine closed_of_plain (shown_of_isConstant h quoted) fun c mem => ?_
      exact plain c ((lastSegment_suffix text).subset mem)

lemma argumentLeaves_lifetime {name : String} (h : isWord name.toList = true) :
    ArgumentLeaves ("'" ++ name).toList none := by
  have dropped := ArgumentLeaves.dropped fun c mem => (isWord_mem h mem).1
  simpa using dropped

/-- The lifetime of a reference closes up nothing, as it stands behind the mark of the reference.
Its blank is written. -/
lemma writes_reference {lifetime : Option String} (h : lifetime.all (isWord ·.toList) = true) :
    Writes ("&" ++ leadingLifetime lifetime).toList (['&'] ++ orphanedBlank lifetime) := by
  have mark := writes_delimiter (c := '&') rfl
  cases lifetime with
  | none => simpa [leadingLifetime, orphanedBlank] using mark
  | some name =>
      intro text
      have split : ("&" ++ leadingLifetime (some name)).toList =
          ['&'] ++ ('\'' :: name.toList ++ [' ']) := by
        simp [leadingLifetime]
      rw [split, List.foldl_append, mark text,
        read_lifetime_closing (fun c mem => (isWord_mem h mem).1) _ rfl (by decide)]
      simp [close, orphanedBlank]

lemma writes_writable (writable : Bool) :
    Writes (if writable then "mut " else "").toList (writableChars writable) := by
  cases writable with
  | false => exact Writes.nil
  | true => exact writes_word (w := ['m', 'u', 't']) rfl (c := ' ') rfl

lemma writes_pointer (writable : Bool) :
    Writes (if writable then "*mut " else "*const ").toList
      (if writable then "*mut " else "*const ").toList := by
  cases writable with
  | false => exact writes_word (w := "*const".toList) rfl (c := ' ') rfl
  | true => exact writes_word (w := "*mut".toList) rfl (c := ' ') rfl

/-! ## Printed lists as characters -/

lemma toList_angled (texts : List String) :
    (angled texts).toList = angledChars (texts.map String.toList) := by
  cases texts with
  | nil => rfl
  | cons first rest => simp [angled, angledChars, comma]

lemma toList_tupled (texts : List String) :
    (tupled texts).toList = tupledChars (texts.map String.toList) := by
  match texts with
  | [] => rfl
  | [text] => simp [tupled, tupledChars]
  | first :: second :: rest => simp [tupled, tupledChars, comma]

lemma toList_arrow (text? : Option String) :
    (arrow text?).toList = arrowChars (text?.map String.toList) := by
  cases text? with
  | none => rfl
  | some text => simp [arrow, arrowChars]

lemma lastOnly_concat (front : List String) (last : String) :
    lastOnly (front ++ [last]) = [last] := by
  simp [lastOnly]

mutual

/-- **Every type of a tree leaves its remnant**, wherever it stands. -/
theorem piece_remnant : ∀ {t : TypeName}, t.named = true → Piece t.full.toList t.remnant
  | .path segments arguments, h => by
      rw [named, Bool.and_eq_true, Bool.and_eq_true] at h
      obtain ⟨⟨present, words⟩, arguments_ok⟩ := h
      rcases List.eq_nil_or_concat segments with rfl | ⟨front, last, rfl⟩
      · exact absurd present (by decide)
      · rw [List.concat_eq_append] at words ⊢
        have texts : ∀ word ∈ front.map String.toList ++ [last.toList], isWord word = true := by
          rw [← List.map_singleton, ← List.map_append]
          intro word mem
          obtain ⟨segment, inside, rfl⟩ := List.mem_map.mp mem
          exact List.all_eq_true.mp words segment inside
        have piece := Piece.path texts (leaves_arguments arguments_ok)
        rw [remnant, lastOnly_concat, full, remnantArguments_eq]
        simpa [toList_angled, String.toList_intercalate] using piece
  | .tuple parts, h => by
      rw [named] at h
      have piece := Piece.tuple (pieces_remnant h)
      rwa [← toList_tupled] at piece
  | .slice element, h => by
      rw [named] at h
      simpa [full, remnant] using (piece_remnant h).slice
  | .array element length, h => by
      rw [named, Bool.and_eq_true] at h
      simpa [full, remnant] using (piece_remnant h.1).array h.2
  | .reference lifetime writable target, h => by
      rw [named, Bool.and_eq_true] at h
      have front := (writes_reference h.1).append (writes_writable writable)
      rw [← String.toList_append, List.append_assoc] at front
      rw [full, String.toList_append]
      exact (piece_remnant h.2).prepend front
  | .pointer writable target, h => by
      rw [named] at h
      rw [full, String.toList_append]
      exact (piece_remnant h).prepend (writes_pointer writable)
  | .function inputs output, h => by
      rw [named, Bool.and_eq_true] at h
      have piece := Piece.function (pieces_remnant h.1) (output_remnant h.2)
      simpa [full, remnant, comma, toList_arrow, String.toList_intercalate] using piece
  | .dynamic bounds lifetime, h => by
      rw [named, Bool.and_eq_true, Bool.and_eq_true] at h
      obtain ⟨⟨present, bounds_ok⟩, lifetime_ok⟩ := h
      have some_bound : (fullAll bounds).map String.toList ≠ [] := by
        cases bounds with
        | nil => exact absurd present (by decide)
        | cons t rest => simp [fullAll]
      have written := Piece.dynamic (pieces_remnant bounds_ok) some_bound
      cases lifetime with
      | none =>
          simpa [full, remnant, trailingLifetime, plus, String.toList_intercalate] using written
      | some name =>
          have bounded := written.bounded fun c mem => (isWord_mem lifetime_ok mem).1
          simpa [full, remnant, trailingLifetime, plus, String.toList_intercalate] using bounded

/-- What becomes of each argument of a path. -/
theorem leaves_argument : ∀ {a : Argument}, namedArgument a = true →
    ArgumentLeaves (fullArgument a).toList (remnantArgument a)
  | .lifetime name, h => by
      rw [namedArgument] at h
      exact argumentLeaves_lifetime h
  | .type t, h => by
      rw [namedArgument] at h
      exact .kept (piece_remnant h)
  | .constant text, h => by
      rw [namedArgument] at h
      exact argumentLeaves_constant h

theorem leaves_arguments : ∀ {arguments : List Argument}, namedArguments arguments = true →
    List.Forall₂ ArgumentLeaves ((fullArguments arguments).map String.toList)
      (arguments.map remnantArgument)
  | [], _ => .nil
  | a :: rest, h => by
      rw [namedArguments, Bool.and_eq_true] at h
      exact .cons (leaves_argument h.1) (leaves_arguments h.2)

theorem pieces_remnant : ∀ {ts : List TypeName}, namedAll ts = true →
    List.Forall₂ Piece ((fullAll ts).map String.toList) (remnantAll ts)
  | [], _ => .nil
  | t :: rest, h => by
      rw [namedAll, Bool.and_eq_true] at h
      exact .cons (piece_remnant h.1) (pieces_remnant h.2)

theorem output_remnant : ∀ {output : Option TypeName}, namedOption output = true →
    Option.Rel Piece ((fullOption output).map String.toList) (remnantOption output)
  | none, _ => .none
  | some t, h => by
      rw [namedOption] at h
      exact .some (piece_remnant h)

end

/-- The whole of a printed tree. -/
lemma toList_shorten_full {t : TypeName} (h : t.named = true) :
    (shorten t.full).toList = t.remnant.text := by
  rw [shorten, String.toList_ofList, (piece_remnant h).leaves.shortenChars_eq]

end SequenceKit.TypeName
