import Mathlib.Tactic.Lemma
import SequenceKit.TypeName.Short

/-!
# The shortening pass, piece by piece

The pass over a printed name knows nothing of the tree behind it.  To follow it through a tree,
this file says what it does with a piece of text, whatever has been written before the piece.

* `Scan.between` — the state between two tokens, with a text written so far.
* `Scan.Shows` — the state behind a piece, whose last token may still be open.
* **`Shortens`** — a piece comes out as another text, wherever it stands.
* `Writes` — the same for a stretch from between two tokens to between two tokens.
* `read_lifetime_comma`, `read_lifetime_closing` — the ways in which a lifetime goes away.
-/

namespace SequenceKit.ShortName

/-! ## Tokens -/

/-- A separator further on comes before one at the head. -/
lemma afterLastSeparator_cons {rest segment : List Char} (c : Char)
    (h : afterLastSeparator rest = some segment) :
    afterLastSeparator (c :: rest) = some segment := by
  simp [afterLastSeparator, h]

lemma afterLastSeparator_of_notMem {token : List Char} (h : ':' ∉ token) :
    afterLastSeparator token = none := by
  induction token with
  | nil => rfl
  | cons c rest ih =>
      rw [List.mem_cons, not_or] at h
      rw [afterLastSeparator, ih h.2]
      rintro segment rfl -
      exact h.1 rfl

/-- The last separator is the one behind which no colon follows. -/
lemma afterLastSeparator_append (path : List Char) {last : List Char} (h : ':' ∉ last) :
    afterLastSeparator (path ++ ':' :: ':' :: last) = some last := by
  induction path with
  | nil =>
      have none_inside : afterLastSeparator (':' :: last) = none := by
        rw [afterLastSeparator, afterLastSeparator_of_notMem h]
        rintro segment - rfl
        exact h List.mem_cons_self
      rw [List.nil_append, afterLastSeparator, none_inside]
  | cons c rest ih => exact afterLastSeparator_cons c ih

lemma lastSegment_of_notMem {token : List Char} (h : ':' ∉ token) : lastSegment token = token := by
  rw [lastSegment, afterLastSeparator_of_notMem h, Option.getD_none]

lemma lastSegment_append (path : List Char) {last : List Char} (h : ':' ∉ last) :
    lastSegment (path ++ ':' :: ':' :: last) = last := by
  rw [lastSegment, afterLastSeparator_append path h, Option.getD_some]

/-- What stands behind the last separator is the end of the token. -/
lemma afterLastSeparator_suffix {token segment : List Char}
    (h : afterLastSeparator token = some segment) : segment <:+ token := by
  induction token with
  | nil => cases h
  | cons c rest ih =>
      rw [afterLastSeparator.eq_def] at h
      dsimp only at h
      split at h
      · rename_i inner found
        obtain rfl := Option.some.inj h
        exact (ih found).trans (List.suffix_cons c rest)
      · split at h
        · obtain rfl := Option.some.inj h
          exact ⟨[':', ':'], rfl⟩
        · cases h

lemma lastSegment_suffix (token : List Char) : lastSegment token <:+ token := by
  rw [lastSegment]
  cases found : afterLastSeparator token with
  | none => exact List.suffix_rfl
  | some segment => exact afterLastSeparator_suffix found

/-! ## Closing up -/

/-- What is written, without a separator that waits for another argument. -/
def withoutSeparator (written : List Char) : List Char :=
  match written with
  | ' ' :: ',' :: rest => rest
  | _ => written

/-- Closing up takes back a separator at most.  Then it either takes back an opening bracket as
well or writes the delimiter. -/
lemma close_eq (written : List Char) (c : Char) :
    close written c =
      if c = '>' ∧ (withoutSeparator written).head? = some '<' then (withoutSeparator written).tail
      else c :: withoutSeparator written := by
  rw [close.eq_def]
  dsimp only
  split
  · rename_i rest kept
    have kept : withoutSeparator written = '<' :: rest := kept
    simp [kept]
  · rename_i other
    rw [if_neg]
    · rfl
    · rintro ⟨rfl, head⟩
      obtain ⟨rest, split⟩ := List.head?_eq_some_iff.mp head
      exact other rest rfl split

/-! ## States -/

namespace Scan

/-- The state between two tokens: a text is written, and no token is begun. -/
def between (text : List Char) : Scan :=
  ⟨text.reverse, [], false⟩

/-- If the current token ended here, by a delimiter or with the input, `text` would be written.
The token is no lifetime, nor does it stand right behind one. -/
structure Shows (s : Scan) (text : List Char) : Prop where
  settled : s.afterLifetime = false
  kept : isLifetime s.token.reverse = false
  written : s.written.reverse ++ lastSegment s.token.reverse = text

lemma shows_between (text : List Char) : (between text).Shows text where
  settled := rfl
  kept := rfl
  written := by simp [between, lastSegment, afterLastSeparator]

/-- At a delimiter the token is written, and the delimiter behind it. -/
lemma Shows.read {s : Scan} {text : List Char} (h : s.Shows text) {c : Char}
    (delimiter : isDelimiter c = true) : s.read c = between (text ++ [c]) := by
  rw [Scan.read, if_pos delimiter, Scan.endToken, h.kept, h.settled, ← h.written]
  simp [between]

/-- At the end of the input the token is written. -/
lemma Shows.finish {s : Scan} {text : List Char} (h : s.Shows text) : s.finish = text := by
  rw [Scan.finish, ← h.written]
  simp [h.kept]

/-- Without a delimiter the token grows. -/
lemma foldl_read_token (s : Scan) {token : List Char}
    (plain : ∀ c ∈ token, isDelimiter c = false) :
    token.foldl Scan.read s = { s with token := token.reverse ++ s.token } := by
  induction token generalizing s with
  | nil => rfl
  | cons c rest ih =>
      have step : s.read c = { s with token := c :: s.token } := by
        rw [Scan.read, plain c List.mem_cons_self, if_neg Bool.false_ne_true]
      rw [List.foldl_cons, ih _ fun c mem => plain c (List.mem_cons_of_mem _ mem), step]
      simp

end Scan

/-! ## Pieces -/

/-- The piece `source` comes out as `short`, whatever has been written before it. -/
def Shortens (source short : List Char) : Prop :=
  ∀ text, (source.foldl Scan.read (.between text)).Shows (text ++ short)

namespace Shortens

/-- A token keeps its last segment. -/
lemma token {token : List Char} (plain : ∀ c ∈ token, isDelimiter c = false)
    (kept : isLifetime token = false) : Shortens token (lastSegment token) := by
  intro text
  rw [Scan.foldl_read_token _ plain]
  exact ⟨rfl, by simpa [Scan.between] using kept, by simp [Scan.between]⟩

lemma nil : Shortens [] [] := fun text => by
  rw [List.append_nil]
  exact Scan.shows_between text

/-- A whole input that is one piece. -/
lemma shortenChars_eq {source short : List Char} (h : Shortens source short) :
    shortenChars source = short :=
  (h []).finish

end Shortens

/-! ## Stretches -/

/-- The stretch `source` begins and ends between two tokens, and `short` is written for it. -/
def Writes (source short : List Char) : Prop :=
  ∀ text, source.foldl Scan.read (.between text) = .between (text ++ short)

namespace Writes

lemma nil : Writes [] [] := fun text => by rw [List.append_nil, List.foldl_nil]

/-- **Stretches are read one by one.** -/
lemma append {source₁ short₁ source₂ short₂ : List Char} (h₁ : Writes source₁ short₁)
    (h₂ : Writes source₂ short₂) : Writes (source₁ ++ source₂) (short₁ ++ short₂) := by
  intro text
  rw [List.foldl_append, h₁ text, h₂, List.append_assoc]

/-- A stretch in front of a piece. -/
lemma shortens {source₁ short₁ source₂ short₂ : List Char} (h₁ : Writes source₁ short₁)
    (h₂ : Shortens source₂ short₂) : Shortens (source₁ ++ source₂) (short₁ ++ short₂) := by
  intro text
  rw [List.foldl_append, h₁ text, ← List.append_assoc]
  exact h₂ (text ++ short₁)

end Writes

/-- A delimiter ends the piece in front of it. -/
lemma Shortens.writes {source short : List Char} (h : Shortens source short) {c : Char}
    (delimiter : isDelimiter c = true) : Writes (source ++ [c]) (short ++ [c]) := by
  intro text
  rw [List.foldl_append, List.foldl_cons, List.foldl_nil, (h text).read delimiter,
    List.append_assoc]

lemma writes_delimiter {c : Char} (delimiter : isDelimiter c = true) : Writes [c] [c] :=
  Shortens.nil.writes delimiter

/-! ## Lifetimes -/

section Lifetime

variable {name : List Char} (plain : ∀ c ∈ name, isDelimiter c = false)

include plain

/-- What a delimiter behind a lifetime meets: nothing of the lifetime is written. -/
lemma foldl_read_lifetime (text : List Char) :
    ('\'' :: name).foldl Scan.read (.between text) =
      ⟨text.reverse, ('\'' :: name).reverse, false⟩ := by
  have whole : ∀ c ∈ '\'' :: name, isDelimiter c = false := by
    intro c mem
    rcases List.mem_cons.mp mem with rfl | mem
    · rfl
    · exact plain c mem
  rw [Scan.foldl_read_token _ whole, Scan.between, List.append_nil]

/-- A lifetime with another argument behind it leaves no trace. -/
lemma read_lifetime_comma (text : List Char) :
    ('\'' :: name ++ [',', ' ']).foldl Scan.read (.between text) = .between text := by
  rw [List.foldl_append, foldl_read_lifetime plain]
  simp [Scan.read, Scan.endToken, Scan.between, isDelimiter, isLifetime]

/-- A lifetime without another argument behind it closes up what is written. -/
lemma read_lifetime_closing (text : List Char) {c : Char} (delimiter : isDelimiter c = true)
    (ne : c ≠ ',') :
    ('\'' :: name ++ [c]).foldl Scan.read (.between text) =
      .between (close text.reverse c).reverse := by
  rw [List.foldl_append, foldl_read_lifetime plain]
  simp [Scan.read, Scan.endToken, Scan.between, delimiter, isLifetime, ne]

end Lifetime

/-- Nothing but lifetimes: the bracket goes. -/
lemma close_opened (text : List Char) : (close (text ++ ['<']).reverse '>').reverse = text := by
  simp [close]

/-- Lifetimes behind an argument: the separator goes. -/
lemma close_separated (text : List Char) {c : Char} (ne : c ≠ '<') :
    (close (text ++ [c] ++ [',', ' ']).reverse '>').reverse = text ++ [c] ++ ['>'] := by
  simp [close, ne]

end SequenceKit.ShortName
