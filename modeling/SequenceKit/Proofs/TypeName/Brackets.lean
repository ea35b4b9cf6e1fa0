import Mathlib.Logic.Relation
import SequenceKit.Proofs.TypeName.Pass

/-!
# The pass keeps the structure of any text

Nothing makes a text that is given to the pass the printed name of a type.  On any text at all,
with brackets that do not match and apostrophes anywhere, the pass only leaves characters out, and
of the brackets it leaves out nothing but pairs that enclose nothing.

**Brackets.**  `Balanced` is the language of matching brackets of three kinds, and `closes` reads
it with the closing brackets that are still due.  `closes_iff_balanced` says that the two agree.
Reading passes over an adjacent pair without a trace, so the pair may as well be gone:
`balanced_iff_of_dropsPairs`.

**The pass.**  `Scan.Trims` relates a state to the text that has been read.  `Scan.Trims.read` is
one step.  The only step at which a bracket goes is `close`, behind a lifetime that ends an
argument list: there the bracket that opened the list is the last that has been written.

* **`shorten_keeps_structure`** — subsequence, dropped pairs and balance, for any text.
-/

namespace SequenceKit.ShortName

/-! ## Balanced brackets -/

/-- The bracket that closes what `c` opens. -/
def closing? : Char → Option Char
  | '<' => some '>'
  | '(' => some ')'
  | '[' => some ']'
  | _ => none

def isBracket (c : Char) : Bool :=
  c == '<' || c == '>' || c == '(' || c == ')' || c == '[' || c == ']'

/-- The brackets of a text, in order. -/
def brackets (text : List Char) : List Char :=
  text.filter isBracket

/-- Brackets that match. -/
inductive Balanced : List Char → Prop
  | nil : Balanced []
  | nest {opening closing : Char} (pair : closing? opening = some closing)
      {inside rest : List Char} (inner : Balanced inside) (later : Balanced rest) :
      Balanced (opening :: inside ++ closing :: rest)

/-- Reads brackets with a stack of closing brackets that are due, the next one first. -/
def closes : List Char → List Char → Bool
  | due, [] => due.isEmpty
  | due, c :: rest =>
      match closing? c, due with
      | some closing, _ => closes (closing :: due) rest
      | none, next :: due => c == next && closes due rest
      | none, [] => false

lemma closes_open {c closing : Char} (pair : closing? c = some closing) (due rest : List Char) :
    closes due (c :: rest) = closes (closing :: due) rest := by
  simp [closes, pair]

/-- No bracket opens and closes. -/
lemma closing?_closing {opening closing : Char} (pair : closing? opening = some closing) :
    closing? closing = none := by
  rw [closing?.eq_def] at pair
  split at pair <;> cases pair <;> rfl

lemma closes_close {opening closing : Char} (pair : closing? opening = some closing)
    (due rest : List Char) : closes (closing :: due) (closing :: rest) = closes due rest := by
  simp [closes, closing?_closing pair]

/-- Matching brackets leave the stack as it was. -/
lemma Balanced.closes_append {text : List Char} (h : Balanced text) (due rest : List Char) :
    closes due (text ++ rest) = closes due rest := by
  induction h generalizing due rest with
  | nil => rfl
  | @nest opening closing pair inside later _ _ inner_ih later_ih =>
      rw [List.cons_append, List.cons_append, closes_open pair, List.append_assoc, inner_ih,
        List.cons_append, closes_close pair, later_ih]

/-- What the reader accepts with closing brackets due: matching brackets in front of each of them
and behind the last. -/
inductive Closing : List Char → List Char → Prop
  | done {text : List Char} (balanced : Balanced text) : Closing [] text
  | due {c : Char} {due inside rest : List Char} (balanced : Balanced inside)
      (later : Closing due rest) : Closing (c :: due) (inside ++ c :: rest)

lemma closing_of_closes {due text : List Char} (h : closes due text = true) :
    Closing due text := by
  induction text generalizing due with
  | nil =>
      obtain rfl := List.isEmpty_iff.mp h
      exact .done .nil
  | cons c rest ih =>
      cases pair : closing? c with
      | some closing =>
          rw [closes_open pair] at h
          -- what follows closes `c` first; the pair belongs to the part in front of the next one
          cases ih h with
          | due inside later =>
              cases later with
              | done balanced => exact .done (.nest pair inside balanced)
              | @due next due between rest balanced later =>
                  have whole := Closing.due (c := next) (.nest pair inside balanced) later
                  simpa using whole
      | none =>
          cases due with
          | nil => simp [closes, pair] at h
          | cons next due =>
              simp only [closes, pair, Bool.and_eq_true, beq_iff_eq] at h
              obtain ⟨rfl, later⟩ := h
              exact .due .nil (ih later)

/-- **The reader accepts the balanced texts.** -/
lemma closes_iff_balanced {text : List Char} : closes [] text = true ↔ Balanced text := by
  constructor
  · intro h
    cases closing_of_closes h with
    | done balanced => exact balanced
  · intro h
    have all := h.closes_append [] []
    rwa [List.append_nil] at all

instance (text : List Char) : Decidable (Balanced text) :=
  decidable_of_iff (closes [] text = true) closes_iff_balanced

/-! ## Pairs that enclose nothing -/

/-- One pair of angle brackets goes, between which there is no other bracket. -/
inductive DropsPair : List Char → List Char → Prop
  | pair (front rest : List Char) : DropsPair (front ++ '<' :: '>' :: rest) (front ++ rest)

/-- Any number of such pairs, one after the other. -/
def DropsPairs : List Char → List Char → Prop :=
  Relation.ReflTransGen DropsPair

lemma DropsPairs.append_right {text text' : List Char} (h : DropsPairs text text')
    (rest : List Char) : DropsPairs (text ++ rest) (text' ++ rest) := by
  refine Relation.ReflTransGen.lift (· ++ rest) (fun _ _ step => ?_) _ _ h
  obtain ⟨front, behind⟩ := step
  have later := DropsPair.pair front (behind ++ rest)
  rw [← List.cons_append, ← List.cons_append, ← List.append_assoc, ← List.append_assoc] at later
  exact later

/-- Whatever is due, a pair makes no difference. -/
lemma closes_drop (front rest due : List Char) :
    closes due (front ++ '<' :: '>' :: rest) = closes due (front ++ rest) := by
  induction front generalizing due with
  | nil => rfl
  | cons c front ih =>
      rw [List.cons_append, List.cons_append]
      cases pair : closing? c with
      | some closing => rw [closes_open pair, closes_open pair, ih]
      | none =>
          cases due with
          | nil => simp [closes, pair]
          | cons next due => simp [closes, pair, ih]

lemma balanced_iff_of_dropsPairs {text text' : List Char} (h : DropsPairs text text') :
    Balanced text' ↔ Balanced text := by
  induction h with
  | refl => exact Iff.rfl
  | tail _ step ih =>
      obtain ⟨front, rest⟩ := step
      rw [← ih, ← closes_iff_balanced, ← closes_iff_balanced, closes_drop]

/-! ## What the pass leaves out -/

lemma brackets_append (text rest : List Char) :
    brackets (text ++ rest) = brackets text ++ brackets rest :=
  List.filter_append text rest

/-- Every bracket is a delimiter. -/
lemma isBracket_of_not_isDelimiter {c : Char} (plain : isDelimiter c = false) :
    isBracket c = false := by
  simp only [isDelimiter, Bool.or_eq_false_iff] at plain
  simp [isBracket, plain]

lemma brackets_of_plain {token : List Char} (plain : ∀ c ∈ token, isDelimiter c = false) :
    brackets token = [] := by
  refine List.filter_eq_nil_iff.mpr fun c mem => ?_
  rw [isBracket_of_not_isDelimiter (plain c mem)]
  exact Bool.false_ne_true

lemma exists_withoutSeparator (written : List Char) :
    ∃ separator, written = separator ++ withoutSeparator written ∧
      (separator = [] ∨ separator = [' ', ',']) := by
  rw [withoutSeparator.eq_def]
  split
  · exact ⟨[' ', ','], rfl, .inr rfl⟩
  · exact ⟨[], rfl, .inl rfl⟩

/-- Closing up writes the delimiter or, if that is a bracket that closes nothing, takes back the
opening bracket. -/
lemma close_cases (written : List Char) (c : Char) :
    close written c = c :: withoutSeparator written ∨
      c = '>' ∧ withoutSeparator written = '<' :: close written c := by
  rw [close_eq]
  split
  · rename_i pair
    obtain ⟨rfl, head⟩ := pair
    obtain ⟨rest, opened⟩ := List.head?_eq_some_iff.mp head
    rw [opened]
    exact .inr ⟨rfl, rfl⟩
  · exact .inl rfl

/-- Closing up only leaves characters out. -/
lemma close_sublist (written : List Char) (c : Char) :
    (close written c).reverse.Sublist (written.reverse ++ [c]) := by
  obtain ⟨separator, whole, -⟩ := exists_withoutSeparator written
  have taken_back : (withoutSeparator written).Sublist written := by
    conv => rhs; rw [whole]
    exact List.sublist_append_right separator _
  rcases close_cases written c with closed | ⟨rfl, opened⟩
  · rw [closed, List.reverse_cons]
    exact taken_back.reverse.append_right [c]
  · have inside : (close written '>').Sublist (withoutSeparator written) := by
      rw [opened]
      exact List.sublist_cons_self '<' _
    exact (inside.trans taken_back).reverse.trans (List.sublist_append_left _ _)

/-- The brackets that closing up leaves out are a pair. -/
lemma dropsPairs_close (written : List Char) (c : Char) :
    DropsPairs (brackets (written.reverse ++ [c])) (brackets (close written c).reverse) := by
  obtain ⟨separator, whole, blank⟩ := exists_withoutSeparator written
  have none_between : brackets separator.reverse = [] := by
    rcases blank with rfl | rfl <;> rfl
  have taken_back : brackets written.reverse = brackets (withoutSeparator written).reverse := by
    conv => lhs; rw [whole, List.reverse_append, brackets_append, none_between, List.append_nil]
  rw [brackets_append, taken_back, ← brackets_append]
  rcases close_cases written c with closed | ⟨rfl, opened⟩
  · rw [closed, List.reverse_cons]
    exact Relation.ReflTransGen.refl
  · have pair := DropsPair.pair (brackets (close written '>').reverse) []
    rw [opened, List.reverse_cons, List.append_assoc, brackets_append]
    rw [List.append_nil] at pair
    exact Relation.ReflTransGen.single pair

/-! ## The pass -/

/-- A state behind `source`: the token holds no delimiter, what is written and the token are part
of the source, and of its brackets at most pairs are missing. -/
structure Scan.Trims (s : Scan) (source : List Char) : Prop where
  plain : ∀ c ∈ s.token, isDelimiter c = false
  kept : (s.written.reverse ++ s.token.reverse).Sublist source
  paired : DropsPairs (brackets source) (brackets s.written.reverse)

namespace Scan.Trims

variable {s : Scan} {source : List Char} (h : s.Trims source)

include h

lemma written_sublist : s.written.reverse.Sublist source :=
  (List.sublist_append_left _ _).trans h.kept

/-- A delimiter that is left out, and the token before it. -/
lemma skip {c : Char} (plain : isBracket c = false) (afterLifetime : Bool) :
    Trims ⟨s.written, [], afterLifetime⟩ (source ++ [c]) where
  plain := fun _ mem => absurd mem List.not_mem_nil
  kept := by
    rw [List.reverse_nil, List.append_nil]
    exact h.written_sublist.trans (List.sublist_append_left source [c])
  paired := by
    have same : brackets (source ++ [c]) = brackets source := by
      simp [brackets, plain]
    exact same ▸ h.paired

/-- A delimiter behind a lifetime. -/
lemma closeUp (c : Char) : Trims ⟨close s.written c, [], false⟩ (source ++ [c]) where
  plain := fun _ mem => absurd mem List.not_mem_nil
  kept := by
    rw [List.reverse_nil, List.append_nil]
    exact (close_sublist s.written c).trans (h.written_sublist.append_right [c])
  paired := by
    have read := h.paired.append_right (brackets [c])
    rw [← brackets_append, ← brackets_append] at read
    exact read.trans (dropsPairs_close s.written c)

/-- A delimiter behind any other token. -/
lemma write (c : Char) :
    Trims ⟨c :: ((lastSegment s.token.reverse).reverse ++ s.written), [], false⟩
      (source ++ [c]) where
  plain := fun _ mem => absurd mem List.not_mem_nil
  kept := by
    have token := (lastSegment_suffix s.token.reverse).sublist
    simpa using ((token.append_left s.written.reverse).trans h.kept).append_right [c]
  paired := by
    have no_bracket : brackets (lastSegment s.token.reverse) = [] := by
      refine brackets_of_plain fun d mem => h.plain d ?_
      exact List.mem_reverse.mp ((lastSegment_suffix _).subset mem)
    have read := h.paired.append_right (brackets [c])
    simpa [brackets_append, no_bracket] using read

/-- **One step.** -/
lemma read (c : Char) : (s.read c).Trims (source ++ [c]) := by
  rw [Scan.read]
  split
  · rename_i delimiter
    rw [Scan.endToken]
    split
    · split
      · rename_i comma
        obtain rfl := beq_iff_eq.mp comma
        exact h.skip rfl true
      · exact h.closeUp c
    · split
      · rename_i blank
        obtain rfl : c = ' ' := by
          simp only [Bool.and_eq_true, beq_iff_eq] at blank
          exact blank.2
        exact h.skip rfl false
      · exact h.write c
  · rename_i plain
    refine ⟨?_, ?_, ?_⟩
    · intro d mem
      rcases List.mem_cons.mp mem with rfl | mem
      · exact Bool.not_eq_true _ ▸ plain
      · exact h.plain d mem
    · simpa using h.kept.append_right [c]
    · have same : brackets (source ++ [c]) = brackets source := by
        have none_added := isBracket_of_not_isDelimiter (Bool.not_eq_true _ ▸ plain)
        simp [brackets, none_added]
      exact same ▸ h.paired

/-- Several steps. -/
lemma foldl_read (text : List Char) : (text.foldl Scan.read s).Trims (source ++ text) := by
  induction text generalizing s source with
  | nil => rwa [List.append_nil]
  | cons c rest ih =>
      have later := ih (h.read c)
      rwa [List.append_assoc] at later

/-- The end of the text. -/
lemma finish : s.finish.Sublist source ∧ DropsPairs (brackets source) (brackets s.finish) := by
  rw [Scan.finish]
  split
  · rw [List.append_nil]
    exact ⟨h.written_sublist, h.paired⟩
  · have no_bracket : brackets (lastSegment s.token.reverse) = [] := by
      refine brackets_of_plain fun d mem => h.plain d ?_
      exact List.mem_reverse.mp ((lastSegment_suffix _).subset mem)
    have token := (lastSegment_suffix s.token.reverse).sublist
    refine ⟨(token.append_left s.written.reverse).trans h.kept, ?_⟩
    rw [brackets_append, no_bracket, List.append_nil]
    exact h.paired

end Scan.Trims

lemma Scan.trims_start : Scan.start.Trims [] where
  plain := fun _ mem => absurd mem List.not_mem_nil
  kept := List.Sublist.refl []
  paired := Relation.ReflTransGen.refl

/-- **The pass keeps the structure of any text.**  Whatever the text is, its short form is a
subsequence of it, so that nothing is made up, doubled or moved.  Its brackets are those of the
text, less pairs of angle brackets each of which was adjacent when it went.  Hence brackets match
in the short form exactly if they match in the text. -/
theorem shorten_keeps_structure (text : String) :
    (shorten text).toList.Sublist text.toList ∧
      DropsPairs (brackets text.toList) (brackets (shorten text).toList) ∧
      (Balanced (brackets (shorten text).toList) ↔ Balanced (brackets text.toList)) := by
  have short : (shorten text).toList = (text.toList.foldl Scan.read Scan.start).finish := by
    rw [shorten, String.toList_ofList, shortenChars]
  have trimmed := (Scan.trims_start.foldl_read text.toList).finish
  rw [List.nil_append, ← short] at trimmed
  exact ⟨trimmed.1, trimmed.2, balanced_iff_of_dropsPairs trimmed.2⟩

/-- A quoted bracket: the pair goes, the bracket without a partner stays. -/
example : shorten "m::C<'>'>" = "C>" ∧ brackets "m::C<'>'>".toList = "<>>".toList ∧
    ¬ Balanced "<>>".toList ∧ ¬ Balanced ">".toList := by
  decide +kernel

end SequenceKit.ShortName
