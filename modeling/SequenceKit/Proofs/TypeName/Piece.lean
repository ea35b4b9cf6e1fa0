import Mathlib.Data.List.ReduceOption
import Mathlib.Data.List.Forall2
import SequenceKit.Proofs.TypeName.Pass

/-!
# Pieces of a printed type name

A printed type is put together from the printed types in it.  `Piece` is what holds of each of
them, wherever it stands, and there is one lemma for each way of putting them together.

**Remnants.**  What a piece leaves in the short name is a text, and where the piece ends in the
lifetime of a list of bounds, something else happens besides: the pass has dropped the lifetime
but takes the next comma for a part of it.  `Remnant` keeps both, and `Remnant.separated` says what
becomes of a list.

**Ends.**  No remnant ends in `<`.  Otherwise, where lifetimes behind it go away, its own end
could be taken for the bracket that opened the list.  `Closed` says so, and every piece carries it.

**Argument lists.**  A lifetime among the arguments of a path is dropped in one of three ways, by
what stands around it, and the pass knows only the text that it has written.  `read_arguments`
carries the arguments that have been kept so far through the list.

* `isWord` and `shortens_joined` — identifiers and their paths.
* `Leaves` — a text and its remnant, by the two ways in which it may end.
* `Piece.slice`, `Piece.tuple`, … — the built-in forms.
* **`Piece.path`** — a path with its arguments.
-/

namespace SequenceKit.ShortName

/-! ## Ends -/

/-- A text that is not empty and does not end in an opening angle bracket. -/
def Closed (text : List Char) : Prop :=
  ∃ init c, text = init ++ [c] ∧ c ≠ '<'

lemma closed_concat (init : List Char) {c : Char} (ne : c ≠ '<') : Closed (init ++ [c]) :=
  ⟨init, c, rfl, ne⟩

lemma Closed.append_left {text : List Char} (h : Closed text) (front : List Char) :
    Closed (front ++ text) := by
  obtain ⟨init, c, rfl, ne⟩ := h
  exact ⟨front ++ init, c, (List.append_assoc front init [c]).symm, ne⟩

lemma closed_of_plain {text : List Char} (ne : text ≠ [])
    (plain : ∀ c ∈ text, isDelimiter c = false) : Closed text := by
  rcases List.eq_nil_or_concat text with rfl | ⟨init, c, rfl⟩
  · exact absurd rfl ne
  · rw [List.concat_eq_append] at plain ⊢
    refine closed_concat init ?_
    rintro rfl
    exact absurd (plain '<' (by simp)) (by decide)

/-- A list of texts that grows at its end: each text but the last has the separator behind it. -/
lemma flatMap_append_last (separator : List Char) (texts : List (List Char)) (last : List Char) :
    texts.flatMap (· ++ separator) ++ last = separator.intercalate (texts ++ [last]) := by
  induction texts with
  | nil => simp
  | cons first rest ih =>
      rw [List.flatMap_cons, List.append_assoc, ih, List.cons_append,
        List.intercalate_cons_of_ne_nil (by simp)]

/-! ## Words -/

/-- An identifier, a number or the like: not empty, and without delimiters, colons and
apostrophes. -/
def isWord (text : List Char) : Bool :=
  !text.isEmpty && text.all fun c => !isDelimiter c && c != ':' && c != '\''

section Word

variable {word : List Char} (h : isWord word = true)

include h

lemma isWord_ne_nil : word ≠ [] := by
  rintro rfl
  exact Bool.false_ne_true h

lemma isWord_mem {c : Char} (mem : c ∈ word) :
    isDelimiter c = false ∧ c ≠ ':' ∧ c ≠ '\'' := by
  simp only [isWord, Bool.and_eq_true, List.all_eq_true] at h
  simpa [and_assoc] using h.2 c mem

lemma isWord_colon_notMem : ':' ∉ word :=
  fun mem => (isWord_mem h mem).2.1 rfl

lemma isWord_closed : Closed word :=
  closed_of_plain (isWord_ne_nil h) fun _ mem => (isWord_mem h mem).1

end Word

lemma isLifetime_of_notMem {token : List Char} (h : '\'' ∉ token) : isLifetime token = false := by
  rw [isLifetime.eq_def]
  split
  · exact absurd List.mem_cons_self h
  · rfl

/-- Of identifiers that are joined by separators the last one is kept. -/
lemma shortens_joined {front : List (List Char)} {last : List Char}
    (words : ∀ word ∈ front ++ [last], isWord word = true) :
    Shortens ([':', ':'].intercalate (front ++ [last])) last := by
  have last_word := words last (by simp)
  have characters : ∀ c ∈ front.flatMap (· ++ [':', ':']) ++ last,
      isDelimiter c = false ∧ c ≠ '\'' := by
    intro c mem
    rcases List.mem_append.mp mem with mem | mem
    · obtain ⟨word, inside, mem⟩ := List.mem_flatMap.mp mem
      rcases List.mem_append.mp mem with mem | mem
      · have word_char := isWord_mem (words word (List.mem_append_left _ inside)) mem
        exact ⟨word_char.1, word_char.2.2⟩
      · obtain rfl : c = ':' := by simpa using mem
        decide
    · exact ⟨(isWord_mem last_word mem).1, (isWord_mem last_word mem).2.2⟩
  have kept : lastSegment (front.flatMap (· ++ [':', ':']) ++ last) = last := by
    rcases List.eq_nil_or_concat front with rfl | ⟨others, previous, rfl⟩
    · exact lastSegment_of_notMem (isWord_colon_notMem last_word)
    · have behind := lastSegment_append (others.flatMap (· ++ [':', ':']) ++ previous)
        (isWord_colon_notMem last_word)
      simpa using behind
  have shortens := Shortens.token (fun c mem => (characters c mem).1)
    (isLifetime_of_notMem fun mem => (characters _ mem).2 rfl)
  rwa [kept, flatMap_append_last] at shortens

lemma shortens_word {word : List Char} (h : isWord word = true) : Shortens word word := by
  have joined : Shortens ([':', ':'].intercalate ([] ++ [word])) word :=
    shortens_joined (by simpa using h)
  simpa using joined

/-! ## Remnants -/

/-- The separator of arguments and parts. -/
def comma : List Char :=
  [',', ' ']

/-- The separator of bounds. -/
def plus : List Char :=
  [' ', '+', ' ']

/-- What is left of a piece in the short name. -/
structure Remnant where
  text : List Char
  /-- The last token of the piece is a lifetime, and a comma behind it goes with it. -/
  trails : Bool

namespace Remnant

/-- With a text in front. -/
def after (front : List Char) (r : Remnant) : Remnant :=
  ⟨front ++ r.text, r.trails⟩

/-- What is left of a separator behind the piece. -/
def separator (r : Remnant) : List Char :=
  if r.trails then [] else comma

/-- What is left of pieces with separators between them. -/
def separated : List Remnant → List Char
  | [] => []
  | [r] => r.text
  | r :: rest => r.text ++ r.separator ++ separated rest

lemma separated_cons_cons (first second : Remnant) (rest : List Remnant) :
    separated (first :: second :: rest) =
      first.text ++ first.separator ++ separated (second :: rest) :=
  rfl

/-- The pieces that come before another one. -/
def leading (rs : List Remnant) : List Char :=
  rs.flatMap fun r => r.text ++ r.separator

lemma separated_concat (rs : List Remnant) (last : Remnant) :
    separated (rs ++ [last]) = leading rs ++ last.text := by
  induction rs with
  | nil => rfl
  | cons first rest ih =>
      cases rest with
      | nil => simp [separated, leading]
      | cons second rest =>
          have later : leading (first :: second :: rest) =
              first.text ++ first.separator ++ leading (second :: rest) := rfl
          rw [List.cons_append, List.cons_append, separated_cons_cons, ← List.cons_append, ih,
            later, List.append_assoc _ _ last.text]

end Remnant

/-- A text leaves a remnant, whatever has been written before it: either its last token is an
ordinary one, or it is a lifetime behind a separator of bounds. -/
inductive Leaves : List Char → Remnant → Prop
  | settled {source short : List Char} (shortens : Shortens source short) :
      Leaves source ⟨short, false⟩
  | trailing {source short name : List Char} (front : Writes source (short ++ plus))
      (plain : ∀ c ∈ name, isDelimiter c = false) :
      Leaves (source ++ '\'' :: name) ⟨short ++ plus, true⟩

/-- Where bounds end, there is nothing to close up. -/
lemma close_plus (text : List Char) (c : Char) :
    (close (text ++ plus).reverse c).reverse = text ++ plus ++ [c] := by
  rcases eq_or_ne c '>' with rfl | ne
  · simp [close, plus]
  · simp [close, plus, ne]

namespace Leaves

variable {source : List Char} {r : Remnant}

lemma of_writes {short : List Char} (h : Writes source short) : Leaves source ⟨short, false⟩ := by
  have settled := h.shortens Shortens.nil
  rw [List.append_nil, List.append_nil] at settled
  exact .settled settled

/-- A stretch in front. -/
lemma prepend {front short : List Char} (before : Writes front short) (h : Leaves source r) :
    Leaves (front ++ source) (r.after short) := by
  cases h with
  | settled shortens => exact .settled (before.shortens shortens)
  | trailing front plain =>
      have whole := before.append front
      rw [← List.append_assoc] at whole ⊢
      rw [Remnant.after, ← List.append_assoc]
      exact .trailing whole plain

/-- A delimiter behind, if it is no comma, is kept whatever the text ends in. -/
lemma writes (h : Leaves source r) {c : Char} (delimiter : isDelimiter c = true) (ne : c ≠ ',') :
    Writes (source ++ [c]) (r.text ++ [c]) := by
  cases h with
  | settled shortens => exact shortens.writes delimiter
  | trailing front plain =>
      intro text
      rw [List.append_assoc, List.foldl_append, front text,
        read_lifetime_closing plain _ delimiter ne, ← List.append_assoc, close_plus]
      simp

/-- A separator behind. -/
lemma writes_separator (h : Leaves source r) :
    Writes (source ++ comma) (r.text ++ r.separator) := by
  cases h with
  | settled shortens =>
      have whole := (shortens.writes (c := ',') rfl).append (writes_delimiter (c := ' ') rfl)
      simpa [comma, Remnant.separator] using whole
  | trailing front plain =>
      intro text
      rw [List.append_assoc, List.foldl_append, front text]
      exact (read_lifetime_comma plain _).trans (by simp [Remnant.separator])

/-- A comma with a bracket behind it, as behind the only part of a tuple. -/
lemma writes_comma (h : Leaves source r) :
    Writes (source ++ [',', ')']) (r.text ++ if r.trails then [')'] else [',', ')']) := by
  cases h with
  | settled shortens =>
      have whole := (shortens.writes (c := ',') rfl).append (writes_delimiter (c := ')') rfl)
      simpa using whole
  | trailing front plain =>
      intro text
      rw [List.append_assoc, List.foldl_append, front text, List.foldl_append,
        foldl_read_lifetime plain]
      simp [Scan.read, Scan.endToken, Scan.between, isDelimiter, isLifetime, lastSegment,
        afterLastSeparator]

/-- The end of the input. -/
lemma shortenChars_eq (h : Leaves source r) : shortenChars source = r.text := by
  cases h with
  | settled shortens => exact shortens.shortenChars_eq
  | trailing front plain =>
      rw [shortenChars, List.foldl_append, show Scan.start = .between [] from rfl, front [],
        foldl_read_lifetime plain]
      simp [Scan.finish, isLifetime]

end Leaves

/-! ## Pieces -/

/-- What holds of every type, wherever it stands in another one. -/
structure Piece (source : List Char) (r : Remnant) : Prop where
  leaves : Leaves source r
  closed : Closed r.text

namespace Piece

/-- A stretch in front. -/
lemma prepend {front short source : List Char} {r : Remnant} (before : Writes front short)
    (h : Piece source r) : Piece (front ++ source) (r.after short) :=
  ⟨h.leaves.prepend before, h.closed.append_left short⟩

/-- A stretch that ends between two tokens. -/
lemma of_writes {source front last : List Char} (h : Writes source (front ++ last))
    (closed : Closed last) : Piece source ⟨front ++ last, false⟩ :=
  ⟨.of_writes h, closed.append_left front⟩

end Piece

lemma writes_word {w : List Char} (h : isWord w = true) {c : Char}
    (delimiter : isDelimiter c = true) : Writes (w ++ [c]) (w ++ [c]) :=
  (shortens_word h).writes delimiter

/-! ## Lists -/

/-- A list and the delimiter behind it. -/
lemma writes_separated {sources : List (List Char)} {rs : List Remnant}
    (h : List.Forall₂ Piece sources rs) {c : Char} (delimiter : isDelimiter c = true)
    (ne : c ≠ ',') :
    Writes (comma.intercalate sources ++ [c]) (Remnant.separated rs ++ [c]) := by
  induction h with
  | nil => exact writes_delimiter delimiter
  | @cons source r sources rs first others ih =>
      cases others with
      | nil => simpa [Remnant.separated] using first.leaves.writes delimiter ne
      | cons second others =>
          rw [List.intercalate_cons_cons, Remnant.separated_cons_cons, List.append_assoc _ _ [c],
            List.append_assoc (r.text ++ r.separator)]
          exact first.leaves.writes_separator.append ih

/-- A bound with another one behind it. -/
lemma Leaves.writes_plus {source : List Char} {r : Remnant} (h : Leaves source r) :
    Writes (source ++ plus) (r.text ++ plus) := by
  have sign := writes_word (w := ['+']) rfl (c := ' ') rfl
  have whole := (h.writes (c := ' ') rfl (by decide)).append sign
  simpa [plus] using whole

/-- What is left of bounds: a lifetime makes no difference to the separator of bounds, and only
the last bound can trail. -/
def Remnant.joined (rs : List Remnant) : Remnant :=
  ⟨plus.intercalate (rs.map text), rs.getLast?.any trails⟩

/-- Bounds. -/
lemma piece_joined {sources : List (List Char)} {rs : List Remnant}
    (h : List.Forall₂ Piece sources rs) (ne : sources ≠ []) :
    Piece (plus.intercalate sources) (Remnant.joined rs) := by
  induction h with
  | nil => exact absurd rfl ne
  | @cons source r sources rs first others ih =>
      cases others with
      | nil => simpa [Remnant.joined] using first
      | @cons source' r' sources rs second others =>
          have later := (ih (by simp)).prepend first.leaves.writes_plus
          simpa [Remnant.joined, Remnant.after] using later

/-! ## Built-in forms -/

/-- Texts between parentheses; a single one is followed by a comma. -/
def tupledChars : List (List Char) → List Char
  | [text] => '(' :: (text ++ [',', ')'])
  | texts => '(' :: (comma.intercalate texts ++ [')'])

/-- What stands behind the inputs of a function type. -/
def arrowChars : Option (List Char) → List Char
  | none => []
  | some text => ' ' :: '-' :: '>' :: ' ' :: text

namespace Remnant

/-- What is left of texts between parentheses; a single one is followed by a comma. -/
def tupled : List Remnant → List Char
  | [r] => ['('] ++ (r.text ++ if r.trails then [')'] else [',', ')'])
  | rs => ['('] ++ (separated rs ++ [')'])

/-- What is left of the keyword and the inputs of a function type. -/
def called (inputs : List Remnant) : List Char :=
  ['f', 'n', '('] ++ (separated inputs ++ [')'])

/-- What is left of a function type. -/
def function (inputs : List Remnant) : Option Remnant → Remnant
  | none => ⟨called inputs, false⟩
  | some output => (output.after [' ', '-', '>', ' ']).after (called inputs)

/-- What is left of bounds with a lifetime behind them. -/
def bounded (r : Remnant) : Remnant :=
  ⟨r.text ++ plus, true⟩

end Remnant

namespace Piece

variable {source : List Char} {r : Remnant} {sources : List (List Char)} {rs : List Remnant}

lemma slice (h : Piece source r) :
    Piece (['['] ++ (source ++ [']'])) ⟨['['] ++ (r.text ++ [']']), false⟩ := by
  have element := h.leaves.writes (c := ']') rfl (by decide)
  exact of_writes ((writes_delimiter (c := '[') rfl).append element)
    (closed_concat r.text (by decide))

lemma array {length : List Char} (h : Piece source r) (number : isWord length = true) :
    Piece (['['] ++ (source ++ [';']) ++ ([' '] ++ (length ++ [']'])))
      ⟨['['] ++ (r.text ++ [';']) ++ ([' '] ++ (length ++ [']'])), false⟩ := by
  have element := h.leaves.writes (c := ';') rfl (by decide)
  have rest := (writes_delimiter (c := ' ') rfl).append (writes_word number (c := ']') rfl)
  exact of_writes (((writes_delimiter (c := '[') rfl).append element).append rest)
    ((closed_concat length (by decide)).append_left [' '])

lemma tuple (h : List.Forall₂ Piece sources rs) :
    Piece (tupledChars sources) ⟨Remnant.tupled rs, false⟩ := by
  have opened := writes_delimiter (c := '(') rfl
  have inside := writes_separated h (c := ')') rfl (by decide)
  cases h with
  | nil => exact of_writes (opened.append inside) (closed_concat [] (by decide))
  | @cons source r _ _ first others =>
      cases others with
      | nil =>
          have closed : Closed (if r.trails then [')'] else [',', ')']) := by
            split
            · exact closed_concat [] (by decide)
            · exact closed_concat [','] (by decide)
          exact of_writes (opened.append first.leaves.writes_comma) (closed.append_left r.text)
      | cons second others =>
          exact of_writes (opened.append inside) (closed_concat _ (by decide))

lemma function (inputs : List.Forall₂ Piece sources rs) {source? : Option (List Char)}
    {r? : Option Remnant} (output : Option.Rel Piece source? r?) :
    Piece (['f', 'n', '('] ++ (comma.intercalate sources ++ [')']) ++ arrowChars source?)
      (Remnant.function rs r?) := by
  have keyword := writes_word (w := ['f', 'n']) rfl (c := '(') rfl
  have called : Writes (['f', 'n', '('] ++ (comma.intercalate sources ++ [')']))
      (Remnant.called rs) :=
    keyword.append (writes_separated inputs rfl (by decide))
  cases output with
  | none =>
      rw [arrowChars, List.append_nil]
      exact of_writes called (closed_concat _ (by decide))
  | some result =>
      -- The tip of the arrow is a delimiter like any other.
      have tip := writes_word (w := ['-']) rfl (c := '>') rfl
      have blank := writes_delimiter (c := ' ') rfl
      exact result.prepend (blank.append (tip.append blank)) |>.prepend called

lemma dynamic (bounds : List.Forall₂ Piece sources rs) (ne : sources ≠ []) :
    Piece (['d', 'y', 'n', ' '] ++ plus.intercalate sources)
      ((Remnant.joined rs).after ['d', 'y', 'n', ' ']) :=
  (piece_joined bounds ne).prepend (writes_word (w := ['d', 'y', 'n']) rfl (c := ' ') rfl)

/-- A lifetime behind the bounds. -/
lemma bounded {name : List Char} (h : Piece source r) (plain : ∀ c ∈ name, isDelimiter c = false) :
    Piece (source ++ plus ++ '\'' :: name) r.bounded := by
  refine ⟨.trailing h.leaves.writes_plus plain, ?_⟩
  exact (closed_concat [' ', '+'] (by decide)).append_left r.text

end Piece

/-! ## Argument lists -/

/-- Texts between angle brackets, or nothing when there are none. -/
def angledChars (texts : List (List Char)) : List Char :=
  if texts = [] then [] else '<' :: comma.intercalate texts ++ ['>']

/-- What is left of texts between angle brackets. -/
def Remnant.angled (rs : List Remnant) : List Char :=
  if rs = [] then [] else ['<'] ++ (separated rs ++ ['>'])

/-- What becomes of an argument: a token with an apostrophe in front is dropped. -/
inductive ArgumentLeaves : List Char → Option Remnant → Prop
  | dropped {name : List Char} (plain : ∀ c ∈ name, isDelimiter c = false) :
      ArgumentLeaves ('\'' :: name) none
  | kept {source : List Char} {r : Remnant} (piece : Piece source r) :
      ArgumentLeaves source (some r)

/-- Closing up behind the remnant takes back its separator and nothing else. -/
def Remnant.ClosesUp (r : Remnant) : Prop :=
  ∀ text, (close (text ++ r.text ++ r.separator).reverse '>').reverse = text ++ r.text ++ ['>']

lemma Piece.shortens {source short : List Char} (h : Piece source ⟨short, false⟩) :
    Shortens source short := by
  cases h.leaves with
  | settled shortens => exact shortens

lemma Piece.closesUp {source : List Char} {r : Remnant} (h : Piece source r) : r.ClosesUp := by
  intro text
  cases h.leaves with
  | settled shortens =>
      obtain ⟨init, c, rfl, ne⟩ := h.closed
      have separated := close_separated (text ++ init) ne
      simpa [Remnant.separator, comma] using separated
  | @trailing _ short _ front plain =>
      have bounded := close_plus (text ++ short) '>'
      simpa [Remnant.separator] using bounded

/-- The state inside the argument list behind `front`.  The arguments in `kept` have been written
already, each with what is left of the separator behind it. -/
def Scan.inList (front : List Char) (kept : List Remnant) : Scan :=
  .between (front ++ ['<'] ++ Remnant.leading kept)

/-- An argument with another one behind it. -/
lemma read_inner_argument {source : List Char} {r? : Option Remnant}
    (h : ArgumentLeaves source r?) (front : List Char) (kept : List Remnant) :
    (source ++ comma).foldl Scan.read (.inList front kept) =
      .inList front (kept ++ r?.toList) := by
  cases h with
  | dropped plain =>
      rw [Option.toList_none, List.append_nil]
      exact read_lifetime_comma plain _
  | kept piece =>
      rw [Scan.inList, piece.leaves.writes_separator, Scan.inList]
      simp [Remnant.leading]

/-- Closing up behind the arguments that have been kept: the bracket goes if there are none. -/
lemma close_leading (front : List Char) {kept : List Remnant} (closeUp : ∀ r ∈ kept, r.ClosesUp) :
    (close (front ++ ['<'] ++ Remnant.leading kept).reverse '>').reverse =
      front ++ Remnant.angled kept := by
  rcases List.eq_nil_or_concat kept with rfl | ⟨others, last, rfl⟩
  · rw [Remnant.leading, List.flatMap_nil, List.append_nil, close_opened, Remnant.angled,
      if_pos rfl, List.append_nil]
  · rw [List.concat_eq_append] at closeUp ⊢
    have leading : Remnant.leading (others ++ [last]) =
        Remnant.leading others ++ (last.text ++ last.separator) := by
      simp [Remnant.leading]
    rw [leading, ← List.append_assoc, ← List.append_assoc, closeUp last (by simp),
      Remnant.angled, if_neg (by simp), Remnant.separated_concat]
    simp

/-- The last argument, and the bracket behind it. -/
lemma read_last_argument {source : List Char} {r? : Option Remnant}
    (h : ArgumentLeaves source r?) (front : List Char) {kept : List Remnant}
    (closeUp : ∀ r ∈ kept, r.ClosesUp) :
    (source ++ ['>']).foldl Scan.read (.inList front kept) =
      .between (front ++ Remnant.angled (kept ++ r?.toList)) := by
  cases h with
  | dropped plain =>
      rw [Scan.inList, read_lifetime_closing plain _ rfl (by decide), close_leading front closeUp,
        Option.toList_none, List.append_nil]
  | @kept _ r piece =>
      rw [Scan.inList, piece.leaves.writes rfl (by decide)]
      simp [Remnant.angled, Remnant.separated_concat]

/-- The arguments from one on, and the bracket behind the last. -/
lemma read_arguments {sources : List (List Char)} {rs : List (Option Remnant)}
    (h : List.Forall₂ ArgumentLeaves sources rs) (front : List Char) :
    sources ≠ [] → ∀ kept : List Remnant, (∀ r ∈ kept, r.ClosesUp) →
      (comma.intercalate sources ++ ['>']).foldl Scan.read (.inList front kept) =
        .between (front ++ Remnant.angled (kept ++ rs.reduceOption)) := by
  induction h with
  | nil => exact fun ne => absurd rfl ne
  | @cons source r? sources rs first others ih =>
      intro _ kept closeUp
      have keeps : r?.toList ++ rs.reduceOption = (r? :: rs).reduceOption := by
        cases r? <;> rfl
      cases others with
      | nil =>
          rw [List.intercalate_singleton, ← keeps, List.reduceOption_nil, List.append_nil]
          exact read_last_argument first front closeUp
      | @cons next _ sources _ second others =>
          have closeUp' : ∀ r ∈ kept ++ r?.toList, r.ClosesUp := by
            intro r mem
            rcases List.mem_append.mp mem with mem | mem
            · exact closeUp r mem
            · cases first with
              | dropped _ => exact absurd mem List.not_mem_nil
              | kept piece => exact List.mem_singleton.mp mem ▸ piece.closesUp
          have split : comma.intercalate (source :: next :: sources) ++ ['>'] =
              source ++ comma ++ (comma.intercalate (next :: sources) ++ ['>']) := by
            rw [List.intercalate_cons_cons, List.append_assoc]
          rw [split, List.foldl_append, read_inner_argument first, ih (by simp) _ closeUp',
            List.append_assoc, keeps]

/-- A path's name and its arguments. -/
lemma Leaves.angled {name last : List Char} (h : Shortens name last)
    {sources : List (List Char)} {rs : List (Option Remnant)}
    (arguments : List.Forall₂ ArgumentLeaves sources rs) :
    Leaves (name ++ angledChars sources) ⟨last ++ Remnant.angled rs.reduceOption, false⟩ := by
  by_cases none : sources = []
  · subst none
    obtain rfl := List.forall₂_nil_left_iff.mp arguments
    simpa [angledChars, Remnant.angled] using Leaves.settled h
  · have opened (text : List Char) :
        (name ++ ['<']).foldl Scan.read (.between text) = .inList (text ++ last) [] := by
      rw [h.writes rfl text, Scan.inList, Remnant.leading, List.flatMap_nil, List.append_nil,
        List.append_assoc]
    have split : name ++ angledChars sources =
        name ++ ['<'] ++ (comma.intercalate sources ++ ['>']) := by
      simp [angledChars, none]
    refine of_writes fun text => ?_
    rw [split, List.foldl_append, opened, read_arguments arguments _ none [] (by simp),
      List.nil_append, List.append_assoc]

/-- **Of a path its last identifier stays**, with those of its arguments that are no lifetimes. -/
lemma Piece.path {front : List (List Char)} {last : List Char}
    (words : ∀ word ∈ front ++ [last], isWord word = true)
    {sources : List (List Char)} {rs : List (Option Remnant)}
    (arguments : List.Forall₂ ArgumentLeaves sources rs) :
    Piece ([':', ':'].intercalate (front ++ [last]) ++ angledChars sources)
      ⟨last ++ Remnant.angled rs.reduceOption, false⟩ := by
  refine ⟨.angled (shortens_joined words) arguments, ?_⟩
  by_cases none : rs.reduceOption = []
  · rw [none, Remnant.angled, if_pos rfl, List.append_nil]
    exact isWord_closed (words last (by simp))
  · rw [Remnant.angled, if_neg none]
    exact ((closed_concat _ (by decide)).append_left ['<']).append_left last

end SequenceKit.ShortName
