import SequenceKit.Proofs.TypeName.Pass

/-!
# One token of any text

What the pass makes of a token does not depend on the rest of the text, and what it makes of the
rest depends on the token only by whether that is a lifetime.  This holds in any text: nothing
around the token needs to be the name of a type.

**In front of the token.**  No token is open between two tokens, whatever has been read:
`SettlesToken`.

**Behind the token.**  What is written behind a kept token stands on top of it.  Closing up takes
back a separator and a bracket, and since a token ends in neither, it never reaches below:
`Scan.read_onTop`.

* **`exists_around_token`** — the short form around a kept token is the same for all tokens.
* **`shortenChars_lifetime`** — all lifetimes in one place give the same short form.
-/

namespace SequenceKit.ShortName

/-! ## On top of a text -/

section OnTop

variable {c : Char} (plain : isDelimiter c = false) (below : List Char)

include plain

lemma ne_of_plain {d : Char} (delimiter : isDelimiter d = true) : c ≠ d := by
  rintro rfl
  exact Bool.false_ne_true (plain.symm.trans delimiter)

lemma withoutSeparator_append (written : List Char) :
    withoutSeparator (written ++ c :: below) = withoutSeparator written ++ c :: below := by
  have not_blank : c ≠ ' ' := ne_of_plain plain rfl
  have not_comma : c ≠ ',' := ne_of_plain plain rfl
  match written with
  | [] => simp [withoutSeparator, not_blank]
  | [d] => simp [withoutSeparator, not_comma]
  | d :: e :: rest =>
      by_cases blank : d = ' '
      · by_cases comma : e = ','
        · subst blank comma
          rfl
        · simp [withoutSeparator, comma]
      · simp [withoutSeparator, blank]

/-- Where the text below ends in no delimiter, closing up stops. -/
lemma close_append (written : List Char) (d : Char) :
    close (written ++ c :: below) d = close written d ++ c :: below := by
  have not_bracket : c ≠ '<' := ne_of_plain plain rfl
  rw [close_eq, close_eq, withoutSeparator_append plain]
  cases withoutSeparator written with
  | nil => simp [not_bracket]
  | cons e rest =>
      rw [List.cons_append, List.head?_cons, List.head?_cons, List.tail_cons, List.tail_cons,
        apply_ite (· ++ c :: below)]
      rfl

namespace Scan

omit plain in
/-- The same state with a text written before, last character first. -/
def onTop (below : List Char) (s : Scan) : Scan :=
  { s with written := s.written ++ below }

/-- **One step**, on top of a text that ends in no delimiter. -/
lemma read_onTop (s : Scan) (d : Char) :
    (s.onTop (c :: below)).read d = (s.read d).onTop (c :: below) := by
  rw [read, read, apply_ite (onTop (c :: below))]
  refine ite_congr rfl (fun _ => ?_) fun _ => rfl
  rw [endToken, endToken, apply_ite (onTop (c :: below)), apply_ite (onTop (c :: below)),
    apply_ite (onTop (c :: below))]
  refine ite_congr rfl (fun _ => ite_congr rfl (fun _ => rfl) fun _ => ?_) fun _ =>
    ite_congr rfl (fun _ => rfl) fun _ => ?_
  · simp [onTop, close_append plain]
  · simp [onTop]

lemma foldl_read_onTop (s : Scan) (text : List Char) :
    text.foldl read (s.onTop (c :: below)) = (text.foldl read s).onTop (c :: below) := by
  induction text generalizing s with
  | nil => rfl
  | cons d rest ih => rw [List.foldl_cons, List.foldl_cons, read_onTop plain, ih]

omit plain in
lemma finish_onTop (s : Scan) : (s.onTop below).finish = below.reverse ++ s.finish := by
  rw [finish, finish, onTop, List.reverse_append, List.append_assoc]

end Scan

end OnTop

/-! ## Around a token -/

/-- Behind the text no token is open. -/
def SettlesToken (front : List Char) : Prop :=
  ∀ s : Scan, s.token = [] → (front.foldl Scan.read s).token = []

lemma token_endToken (s : Scan) (c : Char) : (s.endToken c).token = [] := by
  rw [Scan.endToken, apply_ite Scan.token, apply_ite Scan.token, apply_ite Scan.token, ite_self,
    ite_self, ite_self]

namespace SettlesToken

lemma nil : SettlesToken [] := fun _ none_open => none_open

lemma append {front more : List Char} (h : SettlesToken front) (h' : SettlesToken more) :
    SettlesToken (front ++ more) := by
  intro s none_open
  rw [List.foldl_append]
  exact h' _ (h s none_open)

/-- A delimiter ends whatever token there is. -/
lemma concat (front : List Char) {c : Char} (delimiter : isDelimiter c = true) :
    SettlesToken (front ++ [c]) := by
  intro s _
  rw [List.foldl_append, List.foldl_cons, List.foldl_nil, Scan.read, if_pos delimiter,
    token_endToken]

/-- Texts with a separator behind each. -/
lemma flatMap {separator : List Char} (ends : ∀ text, SettlesToken (text ++ separator))
    (texts : List (List Char)) : SettlesToken (texts.flatMap (· ++ separator)) := by
  induction texts with
  | nil => exact nil
  | cons text rest ih => exact (ends text).append ih

end SettlesToken

/-- The text begins between two tokens. -/
inductive StartsBetween : List Char → Prop
  | nil : StartsBetween []
  | cons {c : Char} (delimiter : isDelimiter c = true) (rest : List Char) :
      StartsBetween (c :: rest)

lemma StartsBetween.append {back more : List Char} (h : StartsBetween back)
    (h' : StartsBetween more) : StartsBetween (back ++ more) := by
  cases h with
  | nil => exact h'
  | cons delimiter rest => exact .cons delimiter (rest ++ more)

lemma intercalate_cons_eq (separator text : List Char) (after : List (List Char)) :
    separator.intercalate (text :: after) = text ++ after.flatMap (separator ++ ·) := by
  induction after generalizing text with
  | nil => simp
  | cons next rest ih =>
      rw [List.intercalate_cons_cons, ih, List.flatMap_cons]
      simp only [List.append_assoc]

lemma intercalate_around (separator : List Char) (before after : List (List Char))
    (text : List Char) :
    separator.intercalate (before ++ text :: after) =
      before.flatMap (· ++ separator) ++ (text ++ after.flatMap (separator ++ ·)) := by
  induction before with
  | nil => exact intercalate_cons_eq separator text after
  | cons first rest ih =>
      rw [List.cons_append, List.intercalate_cons_of_ne_nil (by simp), ih, List.flatMap_cons]
      simp only [List.append_assoc]

/-- Each `outer` text is the `inner` one between two texts that are always the same and do not
reach into it. -/
def Encloses {α : Type} (inner outer : α → List Char) : Prop :=
  ∃ front back, SettlesToken front ∧ StartsBetween back ∧ ∀ x, outer x = front ++ inner x ++ back

namespace Encloses

variable {α β : Type} {inner outer : α → List Char}

lemma trans {outermost : α → List Char} (h : Encloses inner outer)
    (h' : Encloses outer outermost) : Encloses inner outermost := by
  obtain ⟨front, back, before, behind, eq⟩ := h
  obtain ⟨front', back', before', behind', eq'⟩ := h'
  refine ⟨front' ++ front, back ++ back', before'.append before, behind.append behind', ?_⟩
  intro x
  simp [eq', eq]

lemma comp (h : Encloses inner outer) (f : β → α) : Encloses (inner ∘ f) (outer ∘ f) := by
  obtain ⟨front, back, before, behind, eq⟩ := h
  exact ⟨front, back, before, behind, fun x => eq (f x)⟩

/-- One member of a list with separators, between two texts. -/
lemma list (inner : α → List Char) {separator front back : List Char}
    (ends : ∀ text, SettlesToken (text ++ separator))
    (starts : ∀ text, StartsBetween (separator ++ text)) (opened : SettlesToken front)
    (behind : StartsBetween back) (before after : List (List Char)) :
    Encloses inner fun x =>
      front ++ separator.intercalate (before ++ inner x :: after) ++ back := by
  refine ⟨front ++ before.flatMap (· ++ separator), after.flatMap (separator ++ ·) ++ back,
    opened.append (.flatMap ends before), ?_, fun x => ?_⟩
  · cases after with
    | nil => exact behind
    | cons text rest =>
        rw [List.flatMap_cons, List.append_assoc, List.append_assoc]
        exact starts _
  · dsimp only
    rw [intercalate_around]
    simp only [List.append_assoc]

end Encloses

section Around

variable {front back : List Char} (before : SettlesToken front) (behind : StartsBetween back)

include before in
/-- The state behind a token. -/
lemma foldl_read_behind {token : List Char} (plain : ∀ c ∈ token, isDelimiter c = false) :
    (front ++ token).foldl Scan.read .start =
      { front.foldl Scan.read .start with token := token.reverse } := by
  rw [List.foldl_append, Scan.foldl_read_token _ plain, before _ rfl, List.append_nil]

include before behind

/-- **Around a kept token** the short form is the same, whatever the token is. -/
lemma exists_around_token :
    ∃ short rest, ∀ token : List Char, (∀ c ∈ token, isDelimiter c = false) →
      isLifetime token = false → lastSegment token ≠ [] →
      shortenChars (front ++ token ++ back) = short ++ lastSegment token ++ rest := by
  let s := front.foldl Scan.read .start
  cases behind with
  | nil =>
      refine ⟨s.written.reverse, [], fun token plain kept _ => ?_⟩
      rw [List.append_nil, List.append_nil, shortenChars, foldl_read_behind before plain]
      simp [Scan.finish, kept, s]
  | @cons d delimiter rest =>
      refine ⟨s.written.reverse, (rest.foldl Scan.read ⟨[d], [], false⟩).finish,
        fun token plain kept ne => ?_⟩
      have begun : token ≠ [] := by
        rintro rfl
        exact ne rfl
      obtain ⟨init, c, segment⟩ : ∃ init c, lastSegment token = init ++ [c] :=
        ⟨_, _, (List.dropLast_concat_getLast ne).symm⟩
      have last_plain : isDelimiter c = false := by
        refine plain c ((lastSegment_suffix token).subset ?_)
        simp [segment]
      have read : (Scan.mk s.written token.reverse s.afterLifetime).read d =
          (Scan.mk [d] [] false).onTop (c :: (init.reverse ++ s.written)) := by
        simp [Scan.read, Scan.endToken, Scan.onTop, delimiter, kept, begun, segment]
      rw [shortenChars, List.foldl_append, foldl_read_behind before plain, List.foldl_cons, read,
        Scan.foldl_read_onTop last_plain, Scan.finish_onTop, segment]
      simp

/-- **Lifetimes in one place** are all the same. -/
lemma shortenChars_lifetime {token other : List Char} (plain : ∀ c ∈ token, isDelimiter c = false)
    (plain' : ∀ c ∈ other, isDelimiter c = false) (quoted : isLifetime token = true)
    (quoted' : isLifetime other = true) :
    shortenChars (front ++ token ++ back) = shortenChars (front ++ other ++ back) := by
  rw [shortenChars, shortenChars, List.foldl_append, List.foldl_append (l := front ++ other),
    foldl_read_behind before plain, foldl_read_behind before plain']
  cases behind with
  | nil => simp [Scan.finish, quoted, quoted']
  | cons delimiter rest =>
      simp [Scan.read, Scan.endToken, delimiter, quoted, quoted']

end Around

end SequenceKit.ShortName
