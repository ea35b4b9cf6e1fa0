import SequenceKit.Proofs.TypeName.Piece

/-!
# Texts without apostrophes

In a text without apostrophes no token is a lifetime, so nothing that is written is ever taken
back.  The pass is then as simple as it looks: it works on each run between two delimiters by
itself and leaves the delimiters alone.  The text need not be the name of a type.

**Segments.**  `BehindLastSeparator` says what the part of a run behind its last `::` is, by the
places at which `::` occurs.  Runs of more than two colons are covered: the last `::` is the one
that starts last, so behind it no other starts, not even one that it overlaps.

**Runs.**  A text is a run, or a run, a delimiter and a text: `run_induction`.  What the pass makes
of the two sides of a delimiter is put together by `shortenChars_append`, and the rest follows by
this induction.

* **`shorten_by_runs`** — the short form run by run, cut at any delimiter, and shortened again.
-/

namespace SequenceKit.ShortName

/-! ## Segments -/

/-- `segment` is what stands in `token` behind the last `::`, or the whole token without one. -/
def BehindLastSeparator (token segment : List Char) : Prop :=
  (¬ [':', ':'] <:+: token ∧ segment = token) ∨
    ∃ path, token = path ++ ':' :: ':' :: segment ∧ ¬ [':', ':'] <:+: ':' :: segment

lemma afterLastSeparator_eq_none_iff {token : List Char} :
    afterLastSeparator token = none ↔ ¬ [':', ':'] <:+: token := by
  induction token with
  | nil => simp [afterLastSeparator]
  | cons c rest ih =>
      rw [List.infix_cons_iff, not_or, ← ih]
      constructor
      · intro none_found
        cases behind : afterLastSeparator rest with
        | some segment => simp [afterLastSeparator_cons c behind] at none_found
        | none =>
            refine ⟨?_, rfl⟩
            rintro ⟨segment, split⟩
            obtain ⟨rfl, rfl⟩ : c = ':' ∧ rest = ':' :: segment := by simpa [eq_comm] using split
            rw [afterLastSeparator, behind] at none_found
            cases none_found
      · rintro ⟨not_here, behind⟩
        rw [afterLastSeparator, behind]
        rintro segment rfl rfl
        exact not_here ⟨segment, rfl⟩

/-- A separator that is found is the last one. -/
lemma exists_of_afterLastSeparator {token segment : List Char}
    (found : afterLastSeparator token = some segment) :
    ∃ path, token = path ++ ':' :: ':' :: segment ∧ afterLastSeparator (':' :: segment) = none := by
  induction token with
  | nil => cases found
  | cons c rest ih =>
      rw [afterLastSeparator.eq_def] at found
      dsimp only at found
      split at found
      · next inner behind =>
          obtain rfl := Option.some.inj found
          obtain ⟨path, split, last⟩ := ih behind
          exact ⟨c :: path, congrArg (c :: ·) split, last⟩
      · next behind =>
          split at found
          · obtain rfl := Option.some.inj found
            exact ⟨[], rfl, behind⟩
          · cases found

lemma behindLastSeparator_lastSegment (token : List Char) :
    BehindLastSeparator token (lastSegment token) := by
  rw [lastSegment]
  cases found : afterLastSeparator token with
  | none => exact .inl ⟨afterLastSeparator_eq_none_iff.mp found, rfl⟩
  | some segment =>
      obtain ⟨path, split, last⟩ := exists_of_afterLastSeparator found
      exact .inr ⟨path, split, afterLastSeparator_eq_none_iff.mp last⟩

/-- A segment holds no separator, so it is its own segment. -/
lemma lastSegment_lastSegment (token : List Char) :
    lastSegment (lastSegment token) = lastSegment token := by
  have none_left : afterLastSeparator (lastSegment token) = none := by
    rw [lastSegment]
    cases found : afterLastSeparator token with
    | none => exact found
    | some segment =>
        obtain ⟨-, -, last⟩ := exists_of_afterLastSeparator found
        rw [afterLastSeparator_eq_none_iff, List.infix_cons_iff, not_or] at last
        exact afterLastSeparator_eq_none_iff.mpr last.2
  rw [lastSegment, none_left, Option.getD_none]

/-! ## Runs -/

/-- The runs of a text between its delimiters, in order; some may be empty. -/
def runs (text : List Char) : List (List Char) :=
  text.splitOnP isDelimiter

/-- The delimiters of a text, in order. -/
def delimiters (text : List Char) : List Char :=
  text.filter isDelimiter

/-- A text is a run, or a run, a delimiter and a text. -/
@[elab_as_elim]
lemma run_induction {motive : List Char → Prop}
    (last : ∀ token, (∀ c ∈ token, isDelimiter c = false) → motive token)
    (delimited : ∀ token d rest, (∀ c ∈ token, isDelimiter c = false) → isDelimiter d = true →
      motive rest → motive (token ++ d :: rest))
    (text : List Char) : motive text := by
  -- `begun` is the part of the first run that has been passed
  have whole : ∀ begun, (∀ c ∈ begun, isDelimiter c = false) → motive (begun ++ text) := by
    induction text with
    | nil =>
        intro begun plain
        rw [List.append_nil]
        exact last begun plain
    | cons d rest ih =>
        intro begun plain
        cases delimiter : isDelimiter d with
        | true => exact delimited begun d rest plain delimiter (ih [] (by simp))
        | false =>
            have longer := ih (begun ++ [d]) fun c mem => by
              rcases List.mem_append.mp mem with before | here
              · exact plain c before
              · rw [List.mem_singleton.mp here]
                exact delimiter
            rwa [List.append_assoc] at longer
  exact whole [] (by simp)

lemma runs_append {d : Char} (delimiter : isDelimiter d = true) (front back : List Char) :
    runs (front ++ d :: back) = runs front ++ runs back :=
  List.splitOnP_append_cons front back delimiter

lemma delimiters_append {d : Char} (delimiter : isDelimiter d = true) (front back : List Char) :
    delimiters (front ++ d :: back) = delimiters front ++ d :: delimiters back := by
  rw [delimiters, List.filter_append, List.filter_cons_of_pos delimiter]
  rfl

section Plain

variable {token : List Char} (plain : ∀ c ∈ token, isDelimiter c = false)

include plain

lemma runs_of_plain : runs token = [token] :=
  List.splitOnP_eq_singleton plain

lemma delimiters_of_plain : delimiters token = [] := by
  refine List.filter_eq_nil_iff.mpr fun c mem => ?_
  rw [plain c mem]
  exact Bool.false_ne_true

lemma plain_lastSegment : ∀ c ∈ lastSegment token, isDelimiter c = false :=
  fun c mem => plain c ((lastSegment_suffix token).subset mem)

end Plain

/-! ## The pass -/

section Unquoted

variable {text front back : List Char}

lemma apostrophe_notMem_append {d : Char} (unquoted : '\'' ∉ front ++ d :: back) :
    '\'' ∉ front ∧ '\'' ∉ back := by
  rw [List.mem_append, List.mem_cons, not_or, not_or] at unquoted
  exact ⟨unquoted.1, unquoted.2.2⟩

/-- A text without apostrophes is one piece, wherever it stands. -/
lemma shortens_of_unquoted (unquoted : '\'' ∉ text) : Shortens text (shortenChars text) := by
  have piece : ∃ short, Shortens text short := by
    induction text using run_induction with
    | last token plain => exact ⟨_, .token plain (isLifetime_of_notMem unquoted)⟩
    | delimited token d rest plain delimiter ih =>
        obtain ⟨in_token, in_rest⟩ := apostrophe_notMem_append unquoted
        obtain ⟨short, behind⟩ := ih in_rest
        have before := Shortens.token plain (isLifetime_of_notMem in_token)
        have both := (before.writes delimiter).shortens behind
        rw [List.append_assoc] at both
        exact ⟨_, both⟩
  obtain ⟨short, piece⟩ := piece
  rwa [piece.shortenChars_eq]

/-- **The two sides of a delimiter are shortened by themselves.** -/
lemma shortenChars_append (in_front : '\'' ∉ front) (in_back : '\'' ∉ back) {d : Char}
    (delimiter : isDelimiter d = true) :
    shortenChars (front ++ d :: back) = shortenChars front ++ d :: shortenChars back := by
  have both :=
    ((shortens_of_unquoted in_front).writes delimiter).shortens (shortens_of_unquoted in_back)
  rw [List.append_assoc, List.append_assoc] at both
  exact both.shortenChars_eq

lemma shortenChars_of_plain {token : List Char} (plain : ∀ c ∈ token, isDelimiter c = false)
    (unquoted : '\'' ∉ token) : shortenChars token = lastSegment token :=
  (Shortens.token plain (isLifetime_of_notMem unquoted)).shortenChars_eq

/-- A run in front of a delimiter. -/
lemma shortenChars_delimited {token rest : List Char} (plain : ∀ c ∈ token, isDelimiter c = false)
    (in_token : '\'' ∉ token) (in_rest : '\'' ∉ rest) {d : Char}
    (delimiter : isDelimiter d = true) :
    shortenChars (token ++ d :: rest) = lastSegment token ++ d :: shortenChars rest := by
  rw [shortenChars_append in_token in_rest delimiter, shortenChars_of_plain plain in_token]

lemma delimiters_shortenChars (unquoted : '\'' ∉ text) :
    delimiters (shortenChars text) = delimiters text := by
  induction text using run_induction with
  | last token plain =>
      rw [shortenChars_of_plain plain unquoted, delimiters_of_plain plain,
        delimiters_of_plain (plain_lastSegment plain)]
  | delimited token d rest plain delimiter ih =>
      obtain ⟨in_token, in_rest⟩ := apostrophe_notMem_append unquoted
      rw [shortenChars_delimited plain in_token in_rest delimiter, delimiters_append delimiter,
        delimiters_append delimiter, ih in_rest, delimiters_of_plain plain,
        delimiters_of_plain (plain_lastSegment plain)]

lemma runs_shortenChars (unquoted : '\'' ∉ text) :
    runs (shortenChars text) = (runs text).map lastSegment := by
  induction text using run_induction with
  | last token plain =>
      rw [shortenChars_of_plain plain unquoted, runs_of_plain plain,
        runs_of_plain (plain_lastSegment plain)]
      rfl
  | delimited token d rest plain delimiter ih =>
      obtain ⟨in_token, in_rest⟩ := apostrophe_notMem_append unquoted
      rw [shortenChars_delimited plain in_token in_rest delimiter, runs_append delimiter,
        runs_append delimiter, ih in_rest, runs_of_plain plain,
        runs_of_plain (plain_lastSegment plain), List.map_append]
      rfl

lemma apostrophe_notMem_lastSegment (unquoted : '\'' ∉ text) : '\'' ∉ lastSegment text :=
  fun mem => unquoted ((lastSegment_suffix text).subset mem)

lemma apostrophe_notMem_shortenChars (unquoted : '\'' ∉ text) : '\'' ∉ shortenChars text := by
  induction text using run_induction with
  | last token plain =>
      rw [shortenChars_of_plain plain unquoted]
      exact apostrophe_notMem_lastSegment unquoted
  | delimited token d rest plain delimiter ih =>
      obtain ⟨in_token, in_rest⟩ := apostrophe_notMem_append unquoted
      rw [shortenChars_delimited plain in_token in_rest delimiter, List.mem_append, List.mem_cons]
      rintro (mem | rfl | mem)
      · exact apostrophe_notMem_lastSegment in_token mem
      · exact absurd delimiter (by decide)
      · exact ih in_rest mem

/-- Nothing is left to shorten: a segment holds no `::`, and a delimiter keeps two segments from
making one. -/
lemma shortenChars_shortenChars (unquoted : '\'' ∉ text) :
    shortenChars (shortenChars text) = shortenChars text := by
  induction text using run_induction with
  | last token plain =>
      rw [shortenChars_of_plain plain unquoted,
        shortenChars_of_plain (plain_lastSegment plain) (apostrophe_notMem_lastSegment unquoted),
        lastSegment_lastSegment]
  | delimited token d rest plain delimiter ih =>
      obtain ⟨in_token, in_rest⟩ := apostrophe_notMem_append unquoted
      rw [shortenChars_delimited plain in_token in_rest delimiter,
        shortenChars_delimited (plain_lastSegment plain) (apostrophe_notMem_lastSegment in_token)
          (apostrophe_notMem_shortenChars in_rest) delimiter,
        ih in_rest, lastSegment_lastSegment]

end Unquoted

lemma toList_shorten (text : String) : (shorten text).toList = shortenChars text.toList :=
  String.toList_ofList

/-- **Without apostrophes a text is shortened run by run.**  Let `text` be any text without an
apostrophe.

* Its short form has the same delimiters in the same order.
* Each run between them is what stood behind the last `::` of that run, or the whole run.
* Wherever the text is cut at a delimiter, its short form is that of the two sides.
* The short form is its own short form. -/
theorem shorten_by_runs {text : String} (unquoted : '\'' ∉ text.toList) :
    delimiters (shorten text).toList = delimiters text.toList ∧
      List.Forall₂ BehindLastSeparator (runs text.toList) (runs (shorten text).toList) ∧
      (∀ {front back : String} {d : Char}, isDelimiter d = true →
        text = front ++ d.toString ++ back →
        shorten text = shorten front ++ d.toString ++ shorten back) ∧
      shorten (shorten text) = shorten text := by
  refine ⟨?_, ?_, ?_, ?_⟩
  · rw [toList_shorten, delimiters_shortenChars unquoted]
  · rw [toList_shorten, runs_shortenChars unquoted, List.forall₂_map_right_iff,
      List.forall₂_same]
    exact fun token _ => behindLastSeparator_lastSegment token
  · rintro front back d delimiter rfl
    have split : (front ++ d.toString ++ back).toList = front.toList ++ d :: back.toList := by
      simp
    rw [split] at unquoted
    obtain ⟨in_front, in_back⟩ := apostrophe_notMem_append unquoted
    apply String.toList_injective
    rw [toList_shorten, split, shortenChars_append in_front in_back delimiter]
    simp [toList_shorten]
  · rw [shorten, toList_shorten, shortenChars_shortenChars unquoted]
    rfl

/-- Colons in rows, empty runs, brackets that do not match, and letters of other alphabets. -/
def malformed : String :=
  "a::é>::,:::[b::ü::<x:::y;c:d::&z::"

theorem shorten_by_runs_malformed :
    '\'' ∉ malformed.toList ∧ shorten malformed = "é>,[<y;&" ∧
      delimiters (shorten malformed).toList = delimiters malformed.toList ∧
      shorten malformed =
        shorten "a::é>::,:::[b::ü::" ++ '<'.toString ++ shorten "x:::y;c:d::&z::" ∧
      shorten (shorten malformed) = shorten malformed := by
  have unquoted : '\'' ∉ malformed.toList := by decide +kernel
  obtain ⟨kept, -, cut, again⟩ := shorten_by_runs unquoted
  have delimiter : isDelimiter '<' = true := rfl
  exact ⟨unquoted, by decide +kernel, kept, cut delimiter (by decide +kernel), again⟩

end SequenceKit.ShortName
