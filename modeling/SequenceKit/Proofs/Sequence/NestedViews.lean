import SequenceKit.Proofs.Sequence.Defaults
import SequenceKit.Proofs.TypeName.Remembered
import SequenceKit.Proofs.TypeName.Structure

/-!
# Views of views

Each view of a view puts one more layer around the name of a type.  The layers show in two places:
the log line of a new view tells the full name of what it looks at, and the text of a view tells
the short one.

**Making views.**  `nested_eq` is the whole of it: the marks of making `further + 1` views, and the
outermost of them.

**Names.**  In full each layer brings its path and a lifetime along, `full_viewsOf`; shortened it is
one word, `full_stripped_viewsOf`.  That the shortening pass finds the lifetimes at every depth,
next to the brackets of whatever stands inside, is the theorem on printed trees, of which the name
of a view is one: `wellFormed_viewsOf`.

**No residue.**  A lifetime would show by its apostrophe.  `unquoted_stripped` says that a stripped
tree is printed without one.

* **`nested_logs_and_texts`** — the log lines and the texts of any number of views.
-/

namespace SequenceKit

/-! ## Texts without apostrophes -/

/-- A text without an apostrophe. -/
def Unquoted (text : String) : Prop :=
  '\'' ∉ text.toList

instance (text : String) : Decidable (Unquoted text) :=
  inferInstanceAs (Decidable (_ ∉ _))

namespace Unquoted

lemma append {text more : String} (h : Unquoted text) (h' : Unquoted more) :
    Unquoted (text ++ more) := by
  rw [Unquoted, String.toList_append, List.mem_append, not_or]
  exact ⟨h, h'⟩

lemma enclosed {text front back : String} (h : Unquoted text) (before : Unquoted front)
    (behind : Unquoted back) : Unquoted (front ++ text ++ back) :=
  (before.append h).append behind

lemma join {texts : List String} (all : ∀ text ∈ texts, Unquoted text) :
    Unquoted (String.join texts) := by
  rw [Unquoted, String.toList_join, List.mem_flatMap]
  rintro ⟨text, inside, quoted⟩
  exact all text inside quoted

lemma intercalate {separator : String} (h : Unquoted separator) {texts : List String}
    (all : ∀ text ∈ texts, Unquoted text) : Unquoted (separator.intercalate texts) := by
  induction texts with
  | nil => exact List.not_mem_nil
  | cons first rest ih =>
      have head : Unquoted first := all first List.mem_cons_self
      have later := ih fun text mem => all text (List.mem_cons_of_mem first mem)
      cases rest with
      | nil => simpa [Unquoted] using head
      | cons second rest =>
          rw [String.intercalate_cons_cons]
          exact (head.append h).append later

lemma of_isWord {text : String} (h : ShortName.isWord text.toList = true) : Unquoted text :=
  fun quoted => (ShortName.isWord_mem h quoted).2.2 rfl

lemma toString_nat (n : Nat) : Unquoted (toString n) := by
  rw [Unquoted, Nat.toString_eq_repr, Nat.toList_repr]
  intro quoted
  have digit := Nat.isDigit_of_mem_toDigits (by decide) (by decide) quoted
  exact absurd digit (by decide)

end Unquoted

namespace TypeName

lemma unquoted_angled {texts : List String} (all : ∀ text ∈ texts, Unquoted text) :
    Unquoted (angled texts) := by
  rw [angled.eq_def]
  split
  · decide
  · exact (Unquoted.intercalate (by decide) all).enclosed (by decide) (by decide)

lemma unquoted_tupled {texts : List String} (all : ∀ text ∈ texts, Unquoted text) :
    Unquoted (tupled texts) := by
  rw [tupled.eq_def]
  split
  · next text => exact (all text List.mem_cons_self).enclosed (by decide) (by decide)
  · exact (Unquoted.intercalate (by decide) all).enclosed (by decide) (by decide)

lemma unquoted_arrow {output : Option String} (all : ∀ text ∈ output, Unquoted text) :
    Unquoted (arrow output) := by
  cases output with
  | none => decide
  | some text => exact Unquoted.append (by decide) (all text rfl)

mutual

/-- No lifetime is left in a stripped tree. -/
theorem unquoted_stripped : ∀ {t : TypeName}, t.wellFormed = true → Unquoted t.stripped.full
  | .path segments arguments, h => by
      rw [wellFormed, Bool.and_eq_true, Bool.and_eq_true] at h
      rw [stripped, full]
      refine (Unquoted.intercalate (by decide) fun text last => ?_).append
        (unquoted_angled (unquoted_strippedArguments h.2))
      exact .of_isWord (List.all_eq_true.mp h.1.2 text (List.mem_of_mem_drop last))
  | .tuple parts, h => by
      rw [wellFormed] at h
      rw [stripped, full]
      exact unquoted_tupled (unquoted_strippedAll h)
  | .slice element, h => by
      rw [wellFormed] at h
      rw [stripped, full]
      exact (unquoted_stripped h).enclosed (by decide) (by decide)
  | .array element length, h => by
      rw [wellFormed, Bool.and_eq_true] at h
      rw [stripped, full]
      exact (((unquoted_stripped h.1).enclosed (by decide) (by decide)).append
        (.of_isWord h.2)).append (by decide)
  | .reference lifetime writable target, h => by
      rw [wellFormed, Bool.and_eq_true] at h
      rw [stripped, full]
      refine Unquoted.append ?_ (unquoted_stripped h.2)
      cases writable <;> decide
  | .pointer writable target, h => by
      rw [wellFormed] at h
      rw [stripped, full]
      refine Unquoted.append ?_ (unquoted_stripped h)
      cases writable <;> decide
  | .function inputs output, h => by
      rw [wellFormed, Bool.and_eq_true] at h
      rw [stripped, full]
      refine Unquoted.append (.enclosed ?_ (by decide) (by decide))
        (unquoted_arrow (unquoted_strippedOption h.2))
      exact .intercalate (by decide) (unquoted_strippedAll h.1)
  | .dynamic bounds lifetime, h => by
      rw [wellFormed, Bool.and_eq_true, Bool.and_eq_true] at h
      rw [stripped, full]
      refine Unquoted.enclosed ?_ (by decide) (by decide)
      exact .intercalate (by decide) (unquoted_strippedAll h.1.2)

theorem unquoted_strippedArguments : ∀ {arguments : List Argument},
    wellFormedArguments arguments = true →
    ∀ text ∈ fullArguments (strippedArguments arguments), Unquoted text
  | [], _, _, mem => absurd mem List.not_mem_nil
  | .lifetime name :: rest, h, text, mem => by
      rw [wellFormedArguments, Bool.and_eq_true] at h
      exact unquoted_strippedArguments h.2 text mem
  | .type t :: rest, h, text, mem => by
      rw [wellFormedArguments, Bool.and_eq_true] at h
      rcases List.mem_cons.mp mem with rfl | mem
      · exact unquoted_stripped h.1
      · exact unquoted_strippedArguments h.2 text mem
  | .constant value :: rest, h, text, mem => by
      rw [wellFormedArguments, Bool.and_eq_true] at h
      rcases List.mem_cons.mp mem with rfl | mem
      · exact .of_isWord h.1
      · exact unquoted_strippedArguments h.2 text mem

theorem unquoted_strippedAll : ∀ {ts : List TypeName}, wellFormedAll ts = true →
    ∀ text ∈ fullAll (strippedAll ts), Unquoted text
  | [], _, _, mem => absurd mem List.not_mem_nil
  | t :: rest, h, text, mem => by
      rw [wellFormedAll, Bool.and_eq_true] at h
      rcases List.mem_cons.mp mem with rfl | mem
      · exact unquoted_stripped h.1
      · exact unquoted_strippedAll h.2 text mem

theorem unquoted_strippedOption : ∀ {output : Option TypeName}, wellFormedOption output = true →
    ∀ text ∈ fullOption (strippedOption output), Unquoted text
  | none, _, _, mem => by cases mem
  | some t, h, text, mem => by
      obtain rfl := Option.some.inj mem
      exact unquoted_stripped h

end

end TypeName

/-! ## Names of views -/

/-- `text`, `n` times. -/
def times (n : Nat) (text : String) : String :=
  String.join (List.replicate n text)

lemma Unquoted.times {text : String} (h : Unquoted text) (n : Nat) :
    Unquoted (times n text) := by
  refine .join fun copy mem => ?_
  rwa [List.eq_of_mem_replicate mem]

/-- What is enclosed at every step is enclosed as often as there are steps. -/
lemma enclosed_times {opening closing : String} (texts : Nat → String)
    (step : ∀ n, texts (n + 1) = opening ++ texts n ++ closing) (n : Nat) :
    texts n = times n opening ++ texts 0 ++ times n closing := by
  induction n with
  | zero => simp [times]
  | succ n ih =>
      have first : times (n + 1) opening = opening ++ times n opening := by
        rw [times, List.replicate_succ, String.join_cons, times]
      have last : times (n + 1) closing = times n closing ++ closing := by
        rw [times, List.replicate_succ', String.join_append, times]
        simp
      rw [step, ih, first, last]
      simp only [String.append_assoc]

namespace TypeName

/-- In full a view brings its path and a lifetime along. -/
lemma full_viewOf (t : TypeName) :
    (viewOf t).full = "seqcap::view::SequenceView<'_, " ++ t.full ++ ">" := by
  apply String.toList_injective
  simp [viewOf, full, fullArguments, fullArgument, angled]

/-- Shortened it is one word around its target. -/
lemma full_stripped_viewOf (t : TypeName) :
    (viewOf t).stripped.full = "SequenceView<" ++ t.stripped.full ++ ">" := by
  apply String.toList_injective
  simp [viewOf, stripped, strippedArguments, strippedArgument, lastOnly, full, fullArguments,
    fullArgument, angled]

lemma full_viewsOf (t : TypeName) (depth : Nat) :
    (viewsOf depth t).full =
      times depth "seqcap::view::SequenceView<'_, " ++ t.full ++ times depth ">" :=
  enclosed_times (fun depth => (viewsOf depth t).full)
    (fun depth => full_viewOf (viewsOf depth t)) depth

lemma full_stripped_viewsOf (t : TypeName) (depth : Nat) :
    (viewsOf depth t).stripped.full =
      times depth "SequenceView<" ++ t.stripped.full ++ times depth ">" :=
  enclosed_times (fun depth => (viewsOf depth t).stripped.full)
    (fun depth => full_stripped_viewOf (viewsOf depth t)) depth

/-- The name of a view is a tree like any other. -/
lemma wellFormed_viewsOf {t : TypeName} (h : t.wellFormed = true) (depth : Nat) :
    (viewsOf depth t).wellFormed = true := by
  induction depth with
  | zero => exact h
  | succ depth ih =>
      have segments :
          ["seqcap", "view", "SequenceView"].all (ShortName.isWord ·.toList) = true := by
        decide
      simp only [viewsOf, viewOf, wellFormed, wellFormedArguments, wellFormedArgument, ih,
        segments]
      decide

end TypeName

/-! ## Making views -/

namespace View

variable {α : Type} {s : Sequence α} {size : Nat}

/-- The marks that making a view leaves, and the view. -/
lemma make_eq (constant : s.size.outcome = .ok size) (name : TypeName) :
    make name s = ⟨s.size.trace ++ [.log (.viewMade name.full size)], .ok ⟨s, name⟩⟩ := by
  rw [make, Traced.bind_eq_after constant]
  rfl

section Nested

variable [BEq α]

/-- A view of a sequence asks for the size as the sequence does. -/
lemma size_stack (s : Sequence α) (depth : Nat) :
    (s.stack (List.replicate depth .view)).size = s.size :=
  Sequence.ask_stack (List.replicate depth .view) s .size

/-- **Making several views.**  Each asks for the size, through those made before it, and leaves one
line. -/
lemma nested_eq (constant : s.size.outcome = .ok size) (name : TypeName) (further : Nat) :
    nested name s further =
      ⟨(List.range (further + 1)).flatMap fun depth =>
          s.size.trace ++ [.log (.viewMade (TypeName.viewsOf depth name).full size)],
        .ok ⟨s.stack (List.replicate further .view), .viewsOf further name⟩⟩ := by
  induction further with
  | zero =>
      rw [nested, make_eq constant]
      simp [TypeName.viewsOf, Sequence.stack]
  | succ further ih =>
      have outer := make_eq (size_stack s (further + 1) ▸ constant)
        (.viewsOf (further + 1) name)
      rw [size_stack] at outer
      rw [nested, ih, Traced.bind_eq_after rfl, List.range_succ (n := further + 1),
        List.flatMap_append, List.flatMap_singleton]
      exact congrArg (Traced.after _) outer

/-- Where the size itself leaves no line, there is one line for each view, innermost first. -/
lemma logs_nested (constant : s.size.outcome = .ok size) (silent : s.size.logs = [])
    (name : TypeName) (further : Nat) :
    (nested name s further).logs = (List.range (further + 1)).map fun depth =>
      .viewMade (TypeName.viewsOf depth name).full size := by
  have one (line : LogLine) :
      (s.size.trace ++ [Event.log line]).filterMap Event.log? = [line] := by
    rw [List.filterMap_append]
    exact congrArg (· ++ [line]) silent
  rw [nested_eq constant, Traced.logs, List.filterMap_flatMap]
  simp only [one]
  exact List.map_eq_flatMap.symm

end Nested

/-! ## What is shown -/

/-- The line that is logged when a sequence of the given size behind `depth` views gets another
one. -/
def lineOf (name : TypeName) (depth size : Nat) : String :=
  "TRACE SequenceView over " ++
    (times depth "seqcap::view::SequenceView<'_, " ++ name.full ++ times depth ">") ++
    " (" ++ toString size ++ " elements)"

/-- The text of the outermost of `depth` views of a sequence of the given size. -/
def textOf (name : TypeName) (depth size : Nat) : String :=
  times depth "SequenceView<" ++ name.stripped.full ++ times depth ">" ++
    " \x7b size: " ++ toString size ++ " \x7d"

lemma text_viewMade (name : TypeName) (depth size : Nat) :
    LogLine.text (.viewMade (TypeName.viewsOf depth name).full size) = lineOf name depth size := by
  rw [TypeName.full_viewsOf]
  rfl

lemma unquoted_textOf {name : TypeName} (tree : name.wellFormed = true) (depth size : Nat) :
    Unquoted (textOf name depth size) := by
  rw [textOf]
  have opening : Unquoted "SequenceView<" := by decide
  have closing : Unquoted ">" := by decide
  have shown := (TypeName.unquoted_stripped tree).enclosed (opening.times depth)
    (closing.times depth)
  exact ((shown.append (by decide)).append (.toString_nat size)).append (by decide)

/-- One view around the name of the others. -/
lemma shownText_eq {name : TypeName} (tree : name.wellFormed = true) {v : View α} {further : Nat}
    (named : v.targetName = .viewsOf further name) (size : Nat) :
    v.shownText size = textOf name (further + 1) size := by
  have short : ShortName.shorten v.targetName.full = v.targetName.stripped.full := by
    rw [named, ShortName.shorten,
      (TypeName.piece_full (TypeName.wellFormed_viewsOf tree further)).shortens.shortenChars_eq]
    exact String.ofList_toList
  have outer := TypeName.full_stripped_viewOf v.targetName
  rw [shownText, short, ← outer, named, textOf, ← TypeName.full_stripped_viewsOf]
  apply String.toList_injective
  simp [Text.record, Text.field, TypeName.viewsOf]

variable [BEq α]

/-- **Log lines and texts of views of views.**  Let the type of `s` have a well-formed name, and let
`s` tell a size, always the same.  Then any number of views can be made of it, one of the other.

* Each asks `s` for the size and logs one line, the innermost first: the full name of the views
  made before it around the name of `s`, and the size.
* The text of the outermost, and the texts of its copy and its clone, show one word for each view
  around the short name of `s`, and the size, whichever names have been shortened before.
* No lifetime leaves a trace in that text. -/
theorem nested_logs_and_texts {name : TypeName} (tree : name.wellFormed = true)
    (constant : s.size.outcome = .ok size) (further : Nat) :
    (nested name s further).trace = (List.range (further + 1)).flatMap (fun depth =>
      s.size.trace ++ [.log (.viewMade (TypeName.viewsOf depth name).full size)]) ∧
    (s.size.logs = [] → (nested name s further).logs.map LogLine.text =
      (List.range (further + 1)).map fun depth => lineOf name depth size) ∧
    ∃ v, (nested name s further).outcome = .ok v ∧
      (∀ names, NameCache.empty.Reaches names →
        (v.debugText names).1.outcome = .ok (textOf name (further + 1) size) ∧
        (v.copyText names).1.outcome =
          .ok (textOf name (further + 1) size ++ " " ++ textOf name (further + 1) size)) ∧
      Unquoted (textOf name (further + 1) size) := by
  let v : View α := ⟨s.stack (List.replicate further .view), .viewsOf further name⟩
  have made := nested_eq constant name further
  refine ⟨by rw [made], ?_, v, by rw [made], ?_, unquoted_textOf tree (further + 1) size⟩
  · intro silent
    rw [logs_nested constant silent, List.map_map]
    exact List.map_congr_left fun depth _ => text_viewMade name depth size
  · intro names reached
    have sound := (NameCache.sound_empty.follows_reaches reached).sound
    have told : v.target.size.outcome = .ok size := size_stack s further ▸ constant
    have shown : v.shown.outcome = .ok (textOf name (further + 1) size) := by
      rw [View.shown, Traced.outcome_map_of_ok told, shownText_eq tree rfl]
    constructor
    · rw [debugText_eq sound]
      exact shown
    · have twice : v.shownTwice.outcome =
          .ok (textOf name (further + 1) size ++ " " ++ textOf name (further + 1) size) := by
        rw [shownTwice, Traced.outcome_bind_of_ok shown, Traced.outcome_bind_of_ok shown]
        rfl
      rw [copyText_fst sound]
      exact twice

/-- A type with lifetimes in front of an argument and inside it. -/
def borrower : TypeName :=
  .path ["a", "B"] [.lifetime "x", .type (.path ["c", "D"] [.lifetime "_"])]

/-- Three views of a recording sequence of two elements. -/
theorem nested_logs_and_texts_borrower :
    let s : Sequence Int64 := (Tally.mk true #[7, 8]).sequence
    borrower.wellFormed = true ∧ s.size.outcome = .ok 2 ∧
      (nested borrower s 2).logs.map LogLine.text =
        ["TRACE SequenceView over a::B<'x, c::D<'_>> (2 elements)",
          "TRACE SequenceView over seqcap::view::SequenceView<'_, a::B<'x, c::D<'_>>> (2 elements)",
          "TRACE SequenceView over seqcap::view::SequenceView<'_, " ++
            "seqcap::view::SequenceView<'_, a::B<'x, c::D<'_>>>> (2 elements)"] ∧
      ∃ v, (nested borrower s 2).outcome = .ok v ∧
        (v.debugText .empty).1.outcome =
          .ok "SequenceView<SequenceView<SequenceView<B<D>>>> \x7b size: 2 \x7d" := by
  intro s
  have tree : borrower.wellFormed = true := by decide
  have constant : s.size.outcome = .ok 2 := rfl
  obtain ⟨-, lines, v, made, texts, -⟩ := nested_logs_and_texts tree constant 2
  have text : textOf borrower 3 2 =
      "SequenceView<SequenceView<SequenceView<B<D>>>> \x7b size: 2 \x7d" := by
    decide +kernel
  exact ⟨tree, constant, (lines rfl).trans (by decide +kernel), v, made,
    text ▸ (texts .empty .refl).1⟩

end View

end SequenceKit
