import SequenceKit.Proofs.TypeName.Lifetimes
import SequenceKit.Proofs.TypeName.Structure
import SequenceKit.Proofs.TypeName.Surroundings
import SequenceKit.Text.Quoted

/-!
# Constants among the arguments of a path

A generic argument is a lifetime, a type or a constant.  The pass tells a lifetime by its
apostrophe, and a character constant begins with one too.

**What is kept.**  `keptArgument` is what the pass keeps of an argument: of a type its own short
name, of a number or a truth value all of it, and of a character constant nothing.  The short name
of a path is made of its last identifier and of what is kept, in order.  What is lost makes it
shorter, so that nothing else can make up for it: `angled_kept_eq_iff`.

**One constant in a name.**  `Place` is a name with one constant left out, at any depth and in
any form of types.  Since a constant is a token of its own, two constants in one place are compared
without a look at what stands around them, which need not even be well formed.  Numbers and truth
values stay apart.  Characters fall together, unless they are delimiters themselves.

* `shorten_path` — the short name of a path with arguments.
* `Place.encloses` — the printed name around a constant.
* `plain_quotedChar` — a character that is no delimiter is quoted without one.
* **`shorten_constants`** — what is kept of a list of arguments, and which constants are told apart.
-/

namespace SequenceKit.TypeName

open ShortName

/-! ## What is kept of an argument -/

/-- What is kept of a constant: a token with an apostrophe in front is taken for a lifetime, and of
a path the last segment stays. -/
def keptConstant (text : String) : Option String :=
  if isLifetime text.toList then none else some (String.ofList (lastSegment text.toList))

/-- What is kept of an argument. -/
def keptArgument : Argument → Option String
  | .lifetime _ => none
  | .type t => some (shorten t.full)
  | .constant text => keptConstant text

/-- A word is kept as it is. -/
lemma keptConstant_of_isWord {text : String} (h : isWord text.toList = true) :
    keptConstant text = some text := by
  rw [keptConstant, isLifetime_of_notMem fun mem => (isWord_mem h mem).2.2 rfl,
    if_neg Bool.false_ne_true, lastSegment_of_notMem (isWord_colon_notMem h), String.ofList_toList]

lemma remnantConstant_eq (text : String) :
    remnantConstant text.toList = (keptConstant text).map settled := by
  rw [remnantConstant, keptConstant]
  split
  · rfl
  · rw [Option.map_some, settled, String.toList_ofList]

/-- Without loose lifetimes a type leaves its short name. -/
lemma remnant_of_loose_eq_zero {t : TypeName} (h : t.named = true) (tight : t.loose = 0) :
    t.remnant = settled (shorten t.full) := by
  have untrailed := (outweighs_erased t).settled
  rw [erased_of_loose_eq_zero tight] at untrailed
  rw [settled, toList_shorten_full h, ← untrailed]

lemma remnantArguments_of_loose_eq_zero {arguments : List Argument}
    (h : namedArguments arguments = true) (tight : looseArguments arguments = 0) :
    remnantArguments arguments = (arguments.filterMap keptArgument).map settled := by
  induction arguments with
  | nil => rfl
  | cons a rest ih =>
      rw [namedArguments, Bool.and_eq_true] at h
      rw [looseArguments, Nat.add_eq_zero_iff] at tight
      rw [remnantArguments, ih h.2 tight.2]
      cases a with
      | lifetime name => rfl
      | type t =>
          rw [namedArgument] at h
          rw [looseArgument] at tight
          rw [remnantArgument, remnant_of_loose_eq_zero h.1 tight.1]
          rfl
      | constant text =>
          rw [remnantArgument, remnantConstant_eq, List.filterMap_cons, keptArgument]
          cases keptConstant text <;> rfl

/-- **The short name of a path**: its last identifier, and what is kept of its arguments. -/
lemma shorten_path {segments : List String} {arguments : List Argument}
    (h : (path segments arguments).named = true) (tight : (path segments arguments).loose = 0) :
    shorten (path segments arguments).full =
      "::".intercalate (lastOnly segments) ++ angled (arguments.filterMap keptArgument) := by
  have whole := toList_shorten_full h
  rw [named, Bool.and_eq_true] at h
  rw [loose] at tight
  rw [← String.toList_inj, whole, remnant, remnantArguments_of_loose_eq_zero h.2 tight,
    angled_settled, String.toList_append]

/-! ## Arguments kept as they are -/

/-- What a list of arguments should keep: types by their short names, and constants as they are. -/
def verbatimArgument : Argument → Option String
  | .lifetime _ => none
  | .type t => some (shorten t.full)
  | .constant text => some text

/-- The length of texts between angle brackets: with each of them stand two characters more, those
of a separator or of the brackets. -/
def angledLength : List String → Nat
  | [] => 0
  | text :: rest => text.length + 2 + angledLength rest

lemma length_flatMap_comma (texts : List String) :
    ((texts.map String.toList).flatMap (comma ++ ·)).length = angledLength texts := by
  induction texts with
  | nil => rfl
  | cons text rest ih =>
      rw [List.map_cons, List.flatMap_cons, List.length_append, ih, List.length_append,
        String.length_toList, angledLength, Nat.add_comm comma.length]
      rfl

lemma length_angled (texts : List String) : (angled texts).length = angledLength texts := by
  rw [← String.length_toList, toList_angled, angledChars]
  cases texts with
  | nil => rfl
  | cons first rest =>
      rw [if_neg (by simp), List.map_cons, intercalate_cons_eq, angledLength]
      simp only [List.length_append, List.length_cons, List.length_nil, length_flatMap_comma,
        String.length_toList, List.cons_append]
      omega

lemma angledLength_append (texts more : List String) :
    angledLength (texts ++ more) = angledLength texts + angledLength more := by
  induction texts with
  | nil => rw [List.nil_append, angledLength, Nat.zero_add]
  | cons text rest ih =>
      rw [List.cons_append, angledLength, ih, angledLength]
      omega

lemma angledLength_singleton (text : String) : angledLength [text] = text.length + 2 :=
  rfl

/-- A constant that is kept in part becomes shorter. -/
lemma length_lt_of_keptConstant {text short : String} (kept : keptConstant text = some short)
    (ne : short ≠ text) : short.length < text.length := by
  rw [keptConstant] at kept
  split at kept
  · cases kept
  · obtain rfl := Option.some.inj kept
    have segment := lastSegment_suffix text.toList
    have shorter := segment.length_le
    rw [String.length_toList] at shorter
    rw [String.length_ofList]
    refine Nat.lt_of_le_of_ne shorter fun same => ne ?_
    rw [segment.eq_of_length (same.trans (String.length_toList).symm), String.ofList_toList]

/-- What is kept of an argument is as long as the argument only if that is no constant or kept
whole. -/
lemma angledLength_keptArgument (a : Argument) :
    angledLength (keptArgument a).toList ≤ angledLength (verbatimArgument a).toList ∧
      (angledLength (keptArgument a).toList = angledLength (verbatimArgument a).toList →
        ∀ text, .constant text = a → keptConstant text = some text) := by
  cases a with
  | lifetime name => exact ⟨Nat.le_refl _, fun _ _ other => nomatch other⟩
  | type t => exact ⟨Nat.le_refl _, fun _ _ other => nomatch other⟩
  | constant text =>
      rw [keptArgument, verbatimArgument, Option.toList_some, angledLength_singleton]
      suffices decided : angledLength (keptConstant text).toList ≤ text.length + 2 ∧
          (angledLength (keptConstant text).toList = text.length + 2 →
            keptConstant text = some text) by
        refine ⟨decided.1, fun same other eq => ?_⟩
        cases eq
        exact decided.2 same
      cases kept : keptConstant text with
      | none => exact ⟨Nat.zero_le _, fun same => absurd same.symm (Nat.succ_ne_zero _)⟩
      | some short =>
          rw [Option.toList_some, angledLength_singleton]
          by_cases whole : short = text
          · rw [whole]
            exact ⟨Nat.le_refl _, fun _ => rfl⟩
          · have shorter := length_lt_of_keptConstant kept whole
            exact ⟨by omega, fun same => by omega⟩

lemma filterMap_cons_append (f : Argument → Option String) (a : Argument) (rest : List Argument) :
    (a :: rest).filterMap f = (f a).toList ++ rest.filterMap f := by
  rw [List.filterMap_cons]
  cases f a <;> rfl

lemma angledLength_keptArguments (arguments : List Argument) :
    angledLength (arguments.filterMap keptArgument) ≤
        angledLength (arguments.filterMap verbatimArgument) ∧
      (angledLength (arguments.filterMap keptArgument) =
          angledLength (arguments.filterMap verbatimArgument) →
        ∀ text, .constant text ∈ arguments → keptConstant text = some text) := by
  induction arguments with
  | nil => exact ⟨Nat.le_refl _, fun _ _ mem => absurd mem List.not_mem_nil⟩
  | cons a rest ih =>
      obtain ⟨first_le, first_whole⟩ := angledLength_keptArgument a
      obtain ⟨rest_le, rest_whole⟩ := ih
      rw [filterMap_cons_append, filterMap_cons_append, angledLength_append, angledLength_append]
      refine ⟨Nat.add_le_add first_le rest_le, fun same text mem => ?_⟩
      rcases List.mem_cons.mp mem with first | later
      · exact first_whole (by omega) text first
      · exact rest_whole (by omega) text later

/-- **A list is kept as it is** exactly if each of its constants is. -/
lemma angled_kept_eq_iff (arguments : List Argument) :
    angled (arguments.filterMap keptArgument) = angled (arguments.filterMap verbatimArgument) ↔
      ∀ text, .constant text ∈ arguments → keptConstant text = some text := by
  constructor
  · intro same
    refine (angledLength_keptArguments arguments).2 ?_
    rw [← length_angled, ← length_angled, same]
  · intro whole
    refine congrArg angled (List.filterMap_congr fun a mem => ?_)
    cases a with
    | lifetime name => rfl
    | type t => rfl
    | constant text => exact whole text mem

/-! ## Places -/

/-- One form of types with a type left out. -/
inductive Frame where
  | argument (segments : List String) (before after : List Argument)
  | part (before after : List TypeName)
  | slice
  | array (length : String)
  | target (lifetime : Option String) (writable : Bool)
  | pointee (writable : Bool)
  | input (before after : List TypeName) (output : Option TypeName)
  | result (inputs : List TypeName)
  | bound (before after : List TypeName) (lifetime : Option String)

/-- The type with `t` put in. -/
def Frame.plug (t : TypeName) : Frame → TypeName
  | .argument segments before after => .path segments (before ++ .type t :: after)
  | .part before after => .tuple (before ++ t :: after)
  | .slice => .slice t
  | .array length => .array t length
  | .target lifetime writable => .reference lifetime writable t
  | .pointee writable => .pointer writable t
  | .input before after output => .function (before ++ t :: after) output
  | .result inputs => .function inputs (some t)
  | .bound before after lifetime => .dynamic (before ++ t :: after) lifetime

/-- A name with one constant left out: the path whose argument it is, and the forms around it, the
innermost first. -/
structure Place where
  segments : List String
  before : List Argument
  after : List Argument
  frames : List Frame

/-- The name with a constant put in. -/
def Place.name (place : Place) (constant : String) : TypeName :=
  place.frames.foldl Frame.plug
    (.path place.segments (place.before ++ .constant constant :: place.after))

/-! ## Around a constant -/

lemma fullAll_append (before after : List TypeName) (t : TypeName) :
    fullAll (before ++ t :: after) = fullAll before ++ full t :: fullAll after := by
  induction before with
  | nil => rfl
  | cons first rest ih => rw [List.cons_append, fullAll, ih, fullAll, List.cons_append]

lemma fullArguments_append (before after : List Argument) (a : Argument) :
    fullArguments (before ++ a :: after) =
      fullArguments before ++ fullArgument a :: fullArguments after := by
  induction before with
  | nil => rfl
  | cons first rest ih =>
      rw [List.cons_append, fullArguments, ih, fullArguments, List.cons_append]

lemma settlesToken_comma (text : List Char) : SettlesToken (text ++ comma) := by
  have ended := SettlesToken.concat (text ++ [',']) (c := ' ') rfl
  rwa [List.append_assoc] at ended

lemma settlesToken_plus (text : List Char) : SettlesToken (text ++ plus) := by
  have ended := SettlesToken.concat (text ++ [' ', '+']) (c := ' ') rfl
  rwa [List.append_assoc] at ended

/-- One of the arguments of a path. -/
lemma encloses_argument (segments : List String) (before after : List Argument) {α : Type}
    (argument : α → Argument) :
    Encloses (fun x => (fullArgument (argument x)).toList)
      (fun x => (path segments (before ++ argument x :: after)).full.toList) := by
  have listed := Encloses.list (fun x => (fullArgument (argument x)).toList) settlesToken_comma
    (fun text => .cons rfl _) (.concat ("::".intercalate segments).toList (c := '<') rfl)
    (.cons (c := '>') rfl []) ((fullArguments before).map String.toList)
    ((fullArguments after).map String.toList)
  have printed (x : α) : (path segments (before ++ argument x :: after)).full.toList =
      ("::".intercalate segments).toList ++ ['<'] ++ comma.intercalate
        ((fullArguments before).map String.toList ++
          (fullArgument (argument x)).toList :: (fullArguments after).map String.toList) ++
        ['>'] := by
    rw [full, fullArguments_append, String.toList_append, toList_angled, angledChars,
      if_neg (by simp)]
    simp
  simpa only [printed] using listed

/-- One of several types, between two texts. -/
lemma encloses_member {separator front back : List Char}
    (ends : ∀ text, SettlesToken (text ++ separator))
    (starts : ∀ text, StartsBetween (separator ++ text)) (opened : SettlesToken front)
    (behind : StartsBetween back) (before after : List TypeName) :
    Encloses (fun t => t.full.toList) fun t =>
      front ++ separator.intercalate ((fullAll (before ++ t :: after)).map String.toList) ++
        back := by
  have listed := Encloses.list (fun t : TypeName => t.full.toList) ends starts opened behind
    ((fullAll before).map String.toList) ((fullAll after).map String.toList)
  simpa only [fullAll_append, List.map_append, List.map_cons] using listed

lemma settlesToken_leadingLifetime (lifetime : Option String) :
    SettlesToken (leadingLifetime lifetime).toList := by
  cases lifetime with
  | none => exact .nil
  | some name =>
      have ended := SettlesToken.concat ("'" ++ name).toList (c := ' ') rfl
      rwa [← String.toList_singleton, ← String.toList_append] at ended

lemma settlesToken_writable (writable : Bool) :
    SettlesToken (if writable then "mut " else "").toList := by
  cases writable with
  | false => exact .nil
  | true => exact .concat "mut".toList (c := ' ') rfl

/-- What closes a tuple of so many parts. -/
def tupleClosing (parts : Nat) : List Char :=
  if parts = 1 then [',', ')'] else [')']

lemma startsBetween_closing (parts : Nat) : StartsBetween (tupleClosing parts) := by
  rw [tupleClosing]
  split
  · exact .cons rfl [')']
  · exact .cons rfl []

lemma tupledChars_eq (texts : List (List Char)) :
    tupledChars texts = '(' :: (comma.intercalate texts ++ tupleClosing texts.length) := by
  match texts with
  | [] => rfl
  | [text] => simp [tupledChars, tupleClosing]
  | first :: second :: rest => simp [tupledChars, tupleClosing]

lemma length_fullAll (ts : List TypeName) : (fullAll ts).length = ts.length := by
  induction ts with
  | nil => rfl
  | cons t rest ih => rw [fullAll, List.length_cons, List.length_cons, ih]

/-- Each form of types. -/
lemma Frame.encloses (frame : Frame) :
    Encloses (fun t => t.full.toList) (fun t => (frame.plug t).full.toList) := by
  cases frame with
  | argument segments before after =>
      have inside := encloses_argument segments before after .type
      exact inside
  | part before after =>
      have listed := encloses_member settlesToken_comma (fun text => .cons rfl _)
        (.concat [] (c := '(') rfl) (startsBetween_closing (before.length + (after.length + 1)))
        before after
      simpa [plug, full, toList_tupled, tupledChars_eq, length_fullAll] using listed
  | slice => exact ⟨['['], [']'], .concat [] rfl, .cons rfl [], fun t => by simp [plug, full]⟩
  | array length =>
      exact ⟨['['], ';' :: ' ' :: (length.toList ++ [']']), .concat [] rfl, .cons rfl _,
        fun t => by simp [plug, full]⟩
  | target lifetime writable =>
      refine ⟨['&'] ++ (leadingLifetime lifetime).toList ++
        (if writable then "mut " else "").toList, [], ?_, .nil, fun t => by simp [plug, full]⟩
      exact ((SettlesToken.concat [] rfl).append (settlesToken_leadingLifetime lifetime)).append
        (settlesToken_writable writable)
  | pointee writable =>
      refine ⟨(if writable then "*mut " else "*const ").toList, [], ?_, .nil,
        fun t => by simp [plug, full]⟩
      cases writable with
      | false => exact .concat "*const".toList (c := ' ') rfl
      | true => exact .concat "*mut".toList (c := ' ') rfl
  | input before after output =>
      have listed := encloses_member settlesToken_comma (fun text => .cons rfl _)
        (.concat ['f', 'n'] (c := '(') rfl)
        (.cons (c := ')') rfl (arrow (fullOption output)).toList) before after
      simpa [plug, full, String.toList_intercalate, comma] using listed
  | result inputs =>
      refine ⟨("fn(" ++ ", ".intercalate (fullAll inputs) ++ ") -> ").toList, [], ?_, .nil,
        fun t => by simp [plug, full, fullOption, arrow]⟩
      have ended := SettlesToken.concat
        ("fn(" ++ ", ".intercalate (fullAll inputs) ++ ") ->").toList (c := ' ') rfl
      simpa using ended
  | bound before after lifetime =>
      have closing : StartsBetween (trailingLifetime lifetime).toList := by
        cases lifetime with
        | none => exact .nil
        | some name =>
            simp only [trailingLifetime, String.toList_append]
            exact .cons rfl _
      have listed := encloses_member settlesToken_plus (fun text => .cons rfl _)
        (.concat ['d', 'y', 'n'] (c := ' ') rfl) closing before after
      simpa [plug, full, String.toList_intercalate, plus] using listed

/-- **Any place**: what is printed around a constant is the same for all constants. -/
lemma Place.encloses (place : Place) :
    Encloses String.toList (fun constant => (place.name constant).full.toList) := by
  obtain ⟨segments, before, after, frames⟩ := place
  have inside := encloses_argument segments before after .constant
  suffices around : ∀ name : String → TypeName,
      Encloses String.toList (fun x => (name x).full.toList) →
        Encloses String.toList (fun x => (frames.foldl Frame.plug (name x)).full.toList) from
    around _ inside
  induction frames with
  | nil => exact fun _ h => h
  | cons frame rest ih => exact fun name h => ih _ (h.trans (frame.encloses.comp name))

/-! ## Characters -/

lemma isDelimiter_digitChar : ∀ digit < 16, isDelimiter (Nat.digitChar digit) = false := by
  decide

lemma plain_toDigits (n : Nat) : ∀ d ∈ Nat.toDigits 16 n, isDelimiter d = false := by
  induction n using Nat.strongRecOn with
  | ind n ih =>
      rcases Nat.lt_or_ge n 16 with small | large
      · rw [Nat.toDigits_of_lt_base small, List.forall_mem_singleton]
        exact isDelimiter_digitChar n small
      · rw [Nat.toDigits_of_base_le (by decide) large, List.forall_mem_append,
          List.forall_mem_singleton]
        exact ⟨ih (n / 16) (by omega), isDelimiter_digitChar _ (Nat.mod_lt n (by decide))⟩

lemma plain_codePoint (c : Char) : ∀ d ∈ (Text.codePoint c).toList, isDelimiter d = false := by
  simp only [Text.codePoint, String.toList_append, String.toList_ofList, List.forall_mem_append]
  exact ⟨⟨plain_of_all (by decide), plain_toDigits c.toNat⟩, plain_of_all (by decide)⟩

/-- Quotes and escapes are made without delimiters. -/
lemma plain_quotedChar {c : Char} (plain : isDelimiter c = false) :
    ∀ d ∈ (Text.quotedChar c).toList, isDelimiter d = false := by
  have inside : ∀ d ∈ (Text.escaped '\'' c).toList, isDelimiter d = false := by
    rw [Text.escaped]
    split_ifs
    · exact plain_of_all (by decide)
    · exact plain_of_all (by decide)
    · exact plain_of_all (by decide)
    · exact plain_of_all (by decide)
    · intro d mem
      rw [String.toList_ofList] at mem
      rcases List.mem_pair.mp mem with rfl | rfl
      · rfl
      · exact plain
    · exact plain_codePoint c
    · intro d mem
      obtain rfl : d = c := by simpa using mem
      exact plain
  rw [Text.quotedChar, String.toList_append, String.toList_append, List.forall_mem_append,
    List.forall_mem_append]
  exact ⟨⟨plain_of_all (by decide), inside⟩, plain_of_all (by decide)⟩

/-- A quoted character looks like a lifetime. -/
lemma isLifetime_quotedChar (c : Char) : isLifetime (Text.quotedChar c).toList = true := by
  rw [Text.quotedChar, String.toList_append, String.toList_append]
  rfl

/-! ## Constants in one place -/

/-- **Constants that are kept** are told apart by what is kept of them. -/
lemma Place.shorten_eq_iff (place : Place) {a b : String} (ha : isConstant a.toList = true)
    (hb : isConstant b.toList = true) (kept : isLifetime a.toList = false)
    (kept' : isLifetime b.toList = false) :
    shorten (place.name a).full = shorten (place.name b).full ↔
      lastSegment a.toList = lastSegment b.toList := by
  obtain ⟨front, back, before, behind, printed⟩ := place.encloses
  dsimp only at printed
  obtain ⟨short, rest, around⟩ := exists_around_token before behind
  have written {text : String} (h : isConstant text.toList = true)
      (unquoted : isLifetime text.toList = false) :
      shorten (place.name text).full =
        String.ofList (short ++ lastSegment text.toList ++ rest) := by
    have shown := shown_of_isConstant h unquoted
    rw [shorten, printed, around _ (plain_of_isConstant h) unquoted shown]
  rw [written ha kept, written hb kept', String.ofList_inj, List.append_left_inj,
    List.append_right_inj]

/-- **Constants that look like lifetimes** are not told apart. -/
lemma Place.shorten_lifetime (place : Place) {a b : String}
    (plain : ∀ c ∈ a.toList, isDelimiter c = false)
    (plain' : ∀ c ∈ b.toList, isDelimiter c = false) (quoted : isLifetime a.toList = true)
    (quoted' : isLifetime b.toList = true) :
    shorten (place.name a).full = shorten (place.name b).full := by
  obtain ⟨front, back, before, behind, printed⟩ := place.encloses
  dsimp only at printed
  rw [shorten, shorten, printed, printed,
    shortenChars_lifetime before behind plain plain' quoted quoted']

/-- Two constants of one kind. -/
lemma Place.shorten_constant_eq_iff (place : Place) {a b : String}
    (ha : isConstant a.toList = true) (hb : isConstant b.toList = true)
    (alike : isLifetime a.toList = isLifetime b.toList) :
    shorten (place.name a).full = shorten (place.name b).full ↔
      keptConstant a = keptConstant b := by
  rw [keptConstant, keptConstant]
  cases quoted : isLifetime a.toList with
  | true =>
      have quoted' := alike.symm.trans quoted
      rw [if_pos rfl, quoted', if_pos rfl]
      exact iff_of_true (place.shorten_lifetime (plain_of_isConstant ha) (plain_of_isConstant hb)
        quoted quoted') rfl
  | false =>
      have unquoted' := alike.symm.trans quoted
      rw [if_neg Bool.false_ne_true, unquoted', if_neg Bool.false_ne_true, Option.some_inj,
        String.ofList_inj]
      exact place.shorten_eq_iff ha hb quoted unquoted'

/-- **What becomes of constants.**  The short name of a path keeps, in order, its arguments less
the lifetimes and what looks like one: types by their short names, and numbers and truth values as
they are.  It keeps each constant as it is exactly if none of them starts with an apostrophe or
holds a separator of paths.  Of two numbers or two characters in one place, the names are the same
exactly if the same is kept of both, and nothing is kept of characters: those that are no
delimiters all give one name. -/
theorem shorten_constants {segments : List String} {arguments : List Argument}
    (h : (path segments arguments).named = true) (tight : (path segments arguments).loose = 0)
    (place : Place) {a b : String} (ha : isConstant a.toList = true)
    (hb : isConstant b.toList = true) (alike : isLifetime a.toList = isLifetime b.toList)
    {c d : Char} (plain : isDelimiter c = false) (plain' : isDelimiter d = false) :
    shorten (path segments arguments).full =
        "::".intercalate (lastOnly segments) ++ angled (arguments.filterMap keptArgument) ∧
      (shorten (path segments arguments).full =
          "::".intercalate (lastOnly segments) ++ angled (arguments.filterMap verbatimArgument) ↔
        ∀ text, .constant text ∈ arguments → keptConstant text = some text) ∧
      (shorten (place.name a).full = shorten (place.name b).full ↔
        keptConstant a = keptConstant b) ∧
      shorten (place.name (Text.quotedChar c)).full =
        shorten (place.name (Text.quotedChar d)).full := by
  have kept := shorten_path h tight
  refine ⟨kept, ?_, place.shorten_constant_eq_iff ha hb alike,
    place.shorten_lifetime (plain_quotedChar plain) (plain_quotedChar plain')
      (isLifetime_quotedChar c) (isLifetime_quotedChar d)⟩
  rw [kept, ← angled_kept_eq_iff, ← String.toList_inj, ← String.toList_inj, String.toList_append,
    String.toList_append, List.append_right_inj]

/-- A lifetime, a type, a character and a number; then two numbers and two characters in one
place. -/
theorem shorten_constants_mixed :
    let mixed := path ["types", "M"] [.lifetime "_", .type (path ["string", "String"] []),
      .constant (Text.quotedChar 'a'), .constant "3"]
    let place : Place := ⟨["types", "N"], [], [], [.part [simple "u8"] [], .slice]⟩
    mixed.full = "types::M<'_, string::String, 'a', 3>" ∧ shorten mixed.full = "M<String, 3>" ∧
      (place.name "3").full = "[(u8, types::N<3>)]" ∧
      shorten (place.name "3").full ≠ shorten (place.name "-3").full ∧
      shorten (place.name (Text.quotedChar 'a')).full =
        shorten (place.name (Text.quotedChar 'b')).full := by
  intro mixed place
  have named_mixed : mixed.named = true := by decide +kernel
  have tight : mixed.loose = 0 := by decide
  obtain ⟨short, -, apart, together⟩ := shorten_constants named_mixed tight place (a := "3")
    (b := "-3") (by decide) (by decide) (by decide) (c := 'a') (d := 'b') (by decide) (by decide)
  refine ⟨by decide +kernel, ?_, by decide +kernel, ?_, together⟩
  · rw [short]
    decide +kernel
  · rw [Ne, apart, keptConstant_of_isWord (by decide), keptConstant_of_isWord (by decide)]
    decide

/-- Two different types with one short name. -/
theorem shorten_merges_characters :
    let place : Place := ⟨["types", "C2"], [.constant (Text.quotedChar 'x')], [], []⟩
    (place.name (Text.quotedChar 'é')).full = "types::C2<'x', 'é'>" ∧
      (place.name (Text.quotedChar 'a')).full = "types::C2<'x', 'a'>" ∧
      shorten (place.name (Text.quotedChar 'é')).full = "C2" ∧
      shorten (place.name (Text.quotedChar 'a')).full = "C2" := by
  decide +kernel

end SequenceKit.TypeName
