import SequenceKit.Grammar.Knot
import SequenceKit.Proofs.Grammar.Passage

/-!
# Types and angle brackets

Angle brackets are no delimiters: they are punctuation, and a comma between them is a tree of the
same list as the brackets.  What separates the commas of a list of types from those inside of the
types is how many brackets are open.

**Counting.**  `CountsBrackets` says of a family of views, one for each number of open brackets,
that it goes by the brackets: an opening one leads one deeper, a closing one back.  The `>` of an
arrow and a minus in front of a number do not count, and nothing else is seen.  Views differ only
in what they make of a comma outside all brackets, and of a closing bracket that nothing has opened.

**Types keep the count.**  Every reader up to `typeRule` keeps such views: behind it as many
brackets are open as before.  Inside of delimiters nothing has to be said, since they are single
trees; so expressions, patterns and statements do not matter.  Types nest in one another, and this
is shown over any rules whose nested types, bounds and blocks keep the count.

* `carries_angledParameters` — a list of parameters, also where its brackets are not counted.
* **`keeps_typeRule`** — one level of the grammar.
* `Rules.keepCount_ofDepth` — hence every level.
-/

namespace SequenceKit.Grammar

open SequenceKit.Source SequenceKit.Generics

variable {α γ : Type}

/-! ## Attributes -/

section Attributes

variable {v : Trees → γ} (group : ∀ d trees rest, v (.group d trees :: rest) = v rest)

include group

lemma keeps_outerAttributes (g : Rules)
    (pound : ∀ joint rest, v (.mark '#' joint :: rest) = v rest) :
    Keeps (outerAttributes g) v := by
  refine keeps_gather ((keeps_peek _).bind fun _ => carries_ite ?_ (keeps_pure _))
  refine (carries_mark_one rfl fun joint rest => (pound joint rest).symm).bind fun _ => ?_
  exact (carries_within fun trees rest => (group _ trees rest).symm).returning _

lemma keeps_visibility (pub : ∀ rest, v (.word "pub" :: rest) = v rest) : Keeps visibility v := by
  have word : Keeps (word "pub") v := carries_word fun rest => (pub rest).symm
  refine (keeps_peek _).bind fun _ => carries_ite (word.bind fun _ => ?_) (keeps_pure _)
  refine (keeps_peek _).bind fun _ => carries_ite ?_ (keeps_pure _)
  exact (carries_within fun trees rest => (group _ trees rest).symm).returning _

end Attributes

/-! ## Counting angle brackets -/

/-- Neither a comma nor a character of an angle bracket or an arrow. -/
def isPlain : Tree → Bool
  | .mark c _ => !(['-', '<', '>', ','].contains c)
  | _ => true

lemma isPlain_of_not_mark {t : Tree} (not_mark : ∀ c joint, t ≠ .mark c joint) :
    isPlain t = true := by
  cases t with
  | mark c joint => exact absurd rfl (not_mark c joint)
  | _ => rfl

lemma exists_of_startsLiteral {ts : Trees} (starts : startsLiteral ts = true) :
    (∃ t rest, ts = t :: rest ∧ ∀ c joint, t ≠ .mark c joint) ∨
      ∃ joint text rest, ts = .mark '-' joint :: .literal text :: rest := by
  rw [startsLiteral.eq_def] at starts
  split at starts
  · exact .inl ⟨_, _, rfl, fun _ _ => Tree.noConfusion⟩
  · exact .inl ⟨_, _, rfl, fun _ _ => Tree.noConfusion⟩
  · exact .inr ⟨_, _, _, rfl⟩
  · cases starts

/-- Views that count the angle brackets that are open, and see commas only where none is. -/
structure CountsBrackets (V : (depth : Nat) → Trees → γ) : Prop where
  plain : ∀ depth t rest, isPlain t = true → V depth (t :: rest) = V depth rest
  arrow : ∀ depth joint joint' rest,
    V depth (.mark '-' joint :: .mark '>' joint' :: rest) = V depth rest
  sign : ∀ depth joint text rest, V depth (.mark '-' joint :: .literal text :: rest) = V depth rest
  opening : ∀ depth joint rest, V depth (.mark '<' joint :: rest) = V (depth + 1) rest
  closing : ∀ depth joint rest, V (depth + 1) (.mark '>' joint :: rest) = V depth rest
  comma : ∀ depth joint rest, V (depth + 1) (.mark ',' joint :: rest) = V (depth + 1) rest

namespace CountsBrackets

variable {V : (depth : Nat) → Trees → γ} (h : CountsBrackets V) {depth : Nat}

include h

/-- What can be seen through such a view is such a view. -/
lemma comp {δ : Type} (f : γ → δ) : CountsBrackets fun depth ts => f (V depth ts) where
  plain _ _ _ is_plain := congrArg f (h.plain _ _ _ is_plain)
  arrow _ _ _ _ := congrArg f (h.arrow _ _ _ _)
  sign _ _ _ _ := congrArg f (h.sign _ _ _ _)
  opening _ _ _ := congrArg f (h.opening _ _ _)
  closing _ _ _ := congrArg f (h.closing _ _ _)
  comma _ _ _ := congrArg f (h.comma _ _ _)

/-- A test that no punctuation mark passes. -/
lemma passed {test : Trees → Bool}
    (no_mark : ∀ c joint rest, test (.mark c joint :: rest) = false) (t : Tree) (rest : Trees)
    (passes : test (t :: rest) = true) : V depth rest = V depth (t :: rest) := by
  refine (h.plain depth t rest (isPlain_of_not_mark ?_)).symm
  rintro c joint rfl
  rw [no_mark] at passes
  cases passes

lemma one {test : Trees → Bool} (no_mark : ∀ c joint rest, test (.mark c joint :: rest) = false) :
    Keeps (one test) (V depth) :=
  carries_one (h.passed no_mark)

lemma optional {test : Trees → Bool}
    (no_mark : ∀ c joint rest, test (.mark c joint :: rest) = false) :
    Keeps (optional test) (V depth) :=
  keeps_optional (h.passed no_mark)

lemma word (w : String) : Keeps (word w) (V depth) :=
  h.one fun _ _ _ => rfl

lemma name : Keeps name (V depth) :=
  h.one fun _ _ _ => rfl

lemma lifetime : Keeps lifetime (V depth) :=
  h.one fun _ _ _ => rfl

lemma anyGroup : Keeps anyGroup (V depth) :=
  h.one fun _ _ _ => rfl

lemma inside {d : Delimiter} (p : Reader α) : Keeps (inside d p) (V depth) :=
  carries_inside fun _ _ => (h.plain depth _ _ rfl).symm

lemma within {d : Delimiter} (p : Reader Trees) : Keeps (within d p) (V depth) :=
  carries_within fun _ _ => (h.plain depth _ _ rfl).symm

lemma mark {s : String} {c : Char} (chars : s.toList = [c])
    (plain : ['-', '<', '>', ','].contains c = false) : Keeps (mark s) (V depth) :=
  carries_mark_one chars fun joint rest =>
    (h.plain depth (.mark c joint) rest (by rw [isPlain, plain]; rfl)).symm

lemma colons : Keeps (Grammar.mark "::") (V depth) :=
  carries_mark_two rfl fun joint rest => by rw [h.plain _ _ _ rfl, h.plain _ _ _ rfl]

lemma arrowMark : Keeps (Grammar.mark "->") (V depth) :=
  carries_mark_two rfl fun joint rest => (h.arrow depth true joint rest).symm

lemma openingMark : Carries (Grammar.mark "<") (V depth) (V (depth + 1)) :=
  carries_mark_one rfl fun joint rest => (h.opening depth joint rest).symm

lemma closingMark : Carries (Grammar.mark ">") (V (depth + 1)) (V depth) :=
  carries_mark_one rfl fun joint rest => (h.closing depth joint rest).symm

lemma commaMark : Keeps (Grammar.mark ",") (V (depth + 1)) :=
  carries_mark_one rfl fun joint rest => (h.comma depth joint rest).symm

lemma outerAttributes (g : Rules) : Keeps (outerAttributes g) (V depth) :=
  keeps_outerAttributes (fun _ _ _ => h.plain _ _ _ rfl) g fun _ _ => h.plain _ _ _ rfl

lemma visibility : Keeps visibility (V depth) :=
  keeps_visibility (fun _ _ _ => h.plain _ _ _ rfl) fun _ => h.plain _ _ _ rfl

/-- A literal token, a word, or a minus and a number. -/
lemma literal : Keeps literal (V depth) := by
  intro ts
  refine (leads_require fun starts => (leads_peek ?_).bind).bind
  rcases exists_of_startsLiteral starts with ⟨t, rest, rfl, not_mark⟩ | ⟨joint, text, rest, rfl⟩
  · have unsigned : startsMark "-" (t :: rest) = false := by
      cases t with
      | mark c joint => exact absurd rfl (not_mark c joint)
      | _ => rfl
    rw [unsigned, if_neg Bool.false_ne_true]
    refine (leads_next fun t' rest' first => ?_).bind
    cases first
    exact leads_pure (h.plain depth t rest (isPlain_of_not_mark not_mark)).symm
  · rw [show startsMark "-" (.mark '-' joint :: .literal text :: rest) = true from rfl, if_pos rfl]
    refine (leads_next fun t' rest' first => ?_).bind
    cases first
    refine (leads_next fun t' rest' second => ?_).bind
    cases second
    exact leads_pure (h.sign depth joint text rest).symm

end CountsBrackets

/-! ## Readers that keep the count -/

/-- The readers of nested types, bounds and blocks take nothing that the views see. -/
structure Rules.KeepCount (g : Rules) (V : (depth : Nat) → Trees → γ) : Prop where
  type : ∀ depth plus, Keeps (g.type plus) (V depth)
  bound : ∀ depth captures constant, Keeps (g.bound captures constant) (V depth)
  block : ∀ depth attributes, Keeps (g.block attributes) (V depth)

section Nested

variable {V : (depth : Nat) → Trees → γ} (h : CountsBrackets V) {g : Rules}
  (nested : g.KeepCount V) (depth : Nat)

omit h in
include nested in
lemma keeps_typeTrees : Keeps g.typeTrees (V depth) :=
  (nested.type depth true).returning _

omit h in
include nested in
lemma keeps_plainBound : Keeps g.plainBound (V depth) :=
  (nested.bound depth false true).returning _

include h nested

/-! ### Paths -/

lemma keeps_constantArgument : Keeps (constantArgument g) (V depth) :=
  (keeps_peek _).bind fun _ => carries_ite h.literal <|
    (keeps_peek _).bind fun _ => carries_ite (nested.block depth true) h.name

omit nested in
/-- What is found, and a plus sign behind it that asks for more. -/
lemma keeps_plusBehind (found : Trees) :
    Keeps (do
      if ← peek (startsMark "+") then return (found ++ (← mark "+"), true)
      return (found, false)) (V depth) :=
  (keeps_peek _).bind fun _ => carries_ite ((h.mark rfl rfl).returning _) (keeps_pure _)

lemma keeps_constraintBounds : Keeps (constraintBounds g) (V depth) :=
  keeps_gather <| (keeps_peek _).bind fun _ => (keeps_peek _).bind fun _ =>
    carries_ite (keeps_pure _) <| (keeps_plainBound nested depth).bind fun found =>
      keeps_plusBehind h depth found

lemma keeps_genericArgument : Keeps (genericArgument g) (V depth) := by
  have constant := keeps_constantArgument h nested depth
  refine keeps_get.bind fun ts => carries_ite (h.lifetime.returning _) ?_
  refine carries_ite (constant.returning _) ?_
  refine (nested.type depth true).bind fun type => carries_ite ?_ (keeps_pure _)
  refine (keeps_peek _).bind fun _ => carries_ite ?_ ?_
  · refine (h.mark rfl rfl).bind fun _ => (keeps_peek _).bind fun _ => ?_
    exact carries_ite_then constant (keeps_typeTrees nested depth) fun _ => keeps_pure _
  · refine (keeps_peek _).bind fun _ => carries_ite ?_ (keeps_pure _)
    exact (h.mark rfl rfl).bind fun _ => (keeps_constraintBounds h nested depth).returning _

/-- The arguments are one level deeper than the brackets around them. -/
lemma keeps_angledArguments : Keeps (angledArguments g) (V depth) := by
  refine h.openingMark.bind fun _ => Carries.bind (keeps_looping (fun entries => ?_) []) fun _ =>
    h.closingMark.returning _
  refine (keeps_peek _).bind fun _ => carries_ite (keeps_pure _) ?_
  refine (keeps_genericArgument h nested (depth + 1)).bind fun _ => (keeps_peek _).bind fun _ => ?_
  exact carries_ite (keeps_pure _) (h.commaMark.returning _)

lemma keeps_segment (inExpression : Bool) : Keeps (segment g inExpression) (V depth) := by
  have arguments := keeps_angledArguments h nested depth
  refine carries_next_or (h.passed fun _ _ _ => rfl) (fun _ => keeps_pure _) ?_
  refine (h.one fun _ _ _ => rfl).bind fun _ => keeps_get.bind fun ts => ?_
  refine carries_ite (arguments.returning _) (carries_ite ?_ (keeps_pure _))
  exact h.colons.bind fun _ => arguments.returning _

lemma keeps_path (inExpression : Bool) : Keeps (path g inExpression) (V depth) := by
  have segment := keeps_segment h nested depth inExpression
  refine (keeps_optionalMark h.colons).bind fun _ => segment.bind fun _ => keeps_looping ?_ _
  refine fun p => keeps_get.bind fun ts => carries_ite ?_ (keeps_pure _)
  exact h.colons.bind fun _ => segment.returning _

lemma keeps_qualifiedPath (inExpression : Bool) :
    Keeps (qualifiedPath g inExpression) (V depth) := by
  have segment := keeps_segment h nested depth inExpression
  refine (keeps_peek _).bind fun _ => carries_ite (keeps_path h nested depth inExpression) ?_
  refine h.openingMark.bind fun _ => (keeps_typeTrees nested _).bind fun _ => ?_
  refine (keeps_peek _).bind fun _ => carries_ite ((h.word "as").bind fun _ =>
    (keeps_path h nested _ false).bind fun _ => (keeps_pure _).bind fun _ => ?_)
    ((keeps_pure _).bind fun _ => ?_)
  -- with a trait or without one, the path goes on in the same way
  all_goals
    refine h.closingMark.bind fun _ => h.colons.bind fun _ => segment.bind fun _ => ?_
    refine keeps_looping (fun p => (keeps_peek _).bind fun _ => ?_) _
    exact carries_ite (h.colons.bind fun _ => segment.returning _) (keeps_pure _)

/-! ### Parameters -/

omit nested in
lemma keeps_boundsUntil {ends : Trees → Bool} {bound : Reader Trees}
    (taken : Keeps bound (V depth)) : Keeps (boundsUntil ends bound) (V depth) :=
  keeps_gather <| (keeps_peek _).bind fun _ => carries_ite (keeps_pure _) <|
    taken.bind fun found => keeps_plusBehind h depth found

omit nested in
lemma keeps_bounds? {bounds : Reader Trees} (taken : Keeps bounds (V depth)) :
    Keeps (bounds? bounds) (V depth) :=
  (keeps_peek _).bind fun _ =>
    carries_ite ((h.mark rfl rfl).bind fun _ => taken) (keeps_pure _)

omit nested in
lemma keeps_value? {value : Reader Trees} (taken : Keeps value (V depth)) :
    Keeps (value? value) (V depth) :=
  (keeps_peek _).bind fun _ =>
    carries_ite ((h.mark rfl rfl).bind fun _ => taken.returning _) (keeps_pure _)

lemma keeps_parameter (nameless : Bool) : Keeps (parameter g nameless) (V depth) := by
  have type := keeps_typeTrees nested depth
  have bound := keeps_plainBound nested depth
  refine (h.outerAttributes g).bind fun _ ts => (leads_get ?_).bind
  refine leads_ite (fun starts => ?_) fun _ => leads_ite (fun starts => ?_) fun _ =>
    leads_ite (fun starts => ?_) fun _ => leads_ite (fun starts => ?_) fun _ => leads_failure
  · refine leads_next_of starts (h.passed fun _ _ _ => rfl) fun _ => ?_
    exact (keeps_bounds? h depth (keeps_boundsUntil h depth h.lifetime)).returning _
  · refine leads_next_of starts (h.passed fun _ _ _ => rfl) fun _ => ?_
    refine (keeps_bounds? h depth (keeps_boundsUntil h depth bound)).bind fun _ => ?_
    exact (keeps_value? h depth type).returning _
  · refine leads_next_of starts (h.passed fun _ _ _ => rfl) fun _ => ?_
    refine carries_require_next (h.passed fun _ _ _ => rfl) fun _ => ?_
    refine (h.mark rfl rfl).bind fun _ => type.bind fun _ => ?_
    exact (keeps_value? h depth (keeps_constantArgument h nested depth)).returning _
  · exact leads_next_of (Bool.and_eq_true_iff.mp starts).2 (h.passed fun _ _ _ => rfl) fun _ =>
      keeps_pure _

/-- Parameters between brackets, the commas between them and the brackets apart. -/
lemma carries_angledParameters {v w : Trees → γ} (nameless : Bool)
    (opening : ∀ joint rest, V depth rest = v (.mark '<' joint :: rest))
    (comma : ∀ joint rest, V depth rest = V depth (.mark ',' joint :: rest))
    (closing : ∀ joint rest, w rest = V depth (.mark '>' joint :: rest)) :
    Carries (angledParameters g nameless) v w := by
  refine (carries_mark_one rfl opening).bind fun _ => Carries.bind (keeps_looping (fun _ => ?_) [])
    fun _ => (carries_mark_one rfl closing).returning _
  refine (keeps_peek _).bind fun _ => carries_ite (keeps_pure _) ?_
  refine (keeps_parameter h nested depth nameless).bind fun _ => (keeps_peek _).bind fun _ => ?_
  exact carries_ite (keeps_pure _) ((carries_mark_one rfl comma).returning _)

lemma keeps_optionalBinder : Keeps (optionalBinder g) (V depth) := by
  refine (keeps_peek _).bind fun _ => carries_ite ((h.word _).bind fun _ => ?_) (keeps_pure _)
  refine (carries_angledParameters h nested (depth + 1) false ?_ ?_ ?_).returning _
  · exact fun joint rest => (h.opening depth joint rest).symm
  · exact fun joint rest => (h.comma depth joint rest).symm
  · exact fun joint rest => (h.closing depth joint rest).symm

/-! ### Bounds -/

omit h in
lemma keeps_output (arrow : Keeps (mark "->") (V depth)) (plus : Bool) :
    Keeps (output g plus) (V depth) :=
  (keeps_peek _).bind fun _ => carries_ite
    (arrow.bind fun _ => (nested.type depth plus).returning _) (keeps_pure _)

lemma keeps_traitPath : Keeps (traitPath g) (V depth) := by
  refine (keeps_path h nested depth false).bind fun p => keeps_get.bind fun _ => ?_
  refine carries_ite ((keeps_optionalMark h.colons).bind fun _ => ?_) (keeps_pure _)
  refine Carries.bind ?_ fun _ => keeps_pure _
  exact (h.within _).bind fun _ => (keeps_output nested depth h.arrowMark false).returning _

omit nested in
lemma keeps_capture : Keeps capture (V depth) := by
  refine (h.word _).bind fun _ => h.openingMark.bind fun _ =>
    Carries.bind (keeps_looping (fun _ => ?_) []) fun _ => h.closingMark.returning _
  refine (keeps_peek _).bind fun _ => carries_ite (keeps_pure _) ?_
  refine (keeps_peek _).bind fun _ => (h.one fun _ _ _ => rfl).bind fun _ => ?_
  exact (keeps_peek _).bind fun _ => carries_ite (keeps_pure _) (h.commaMark.returning _)

lemma keeps_pathBound (constant : Bool) : Keeps (pathBound g constant) (V depth) := by
  refine (keeps_optionalBinder h nested depth).bind fun bind => ?_
  refine carries_ite_then (h.optional fun _ _ _ => rfl) (keeps_pure _) fun _ => ?_
  refine (keeps_optionalMark (h.mark rfl rfl)).bind fun _ => carries_unless ?_
  exact (keeps_traitPath h nested depth).returning _

lemma keeps_boundRule (captures constant : Bool) :
    Keeps (boundRule g captures constant) (V depth) := by
  refine keeps_get.bind fun start => carries_ite (h.lifetime.returning _) ?_
  refine carries_ite (carries_ite ((keeps_capture h depth).returning _) carries_failure) ?_
  refine carries_ite_then (h.inside _) (keeps_pathBound h nested depth constant) fun _ => ?_
  exact carries_ite ((keeps_since _).returning _) (keeps_pure _)

lemma keeps_traitBounds (plus captures constant : Bool) :
    Keeps (traitBounds g plus captures constant) (V depth) := by
  refine Carries.bind (keeps_looping (fun _ => ?_) _) fun _ =>
    carries_ite (keeps_pure _) carries_failure
  refine (nested.bound depth captures constant).bind fun _ => (keeps_peek _).bind fun _ => ?_
  exact carries_ite ((h.mark rfl rfl).bind fun _ => (keeps_peek _).returning _) (keeps_pure _)

lemma keeps_furtherBounds (alone : Bool) (first : BoundPiece) :
    Keeps (furtherBounds g alone first) (V depth) := by
  refine keeps_looping (fun _ => (keeps_peek _).bind fun _ => carries_ite ?_ (keeps_pure _)) first
  refine (h.mark rfl rfl).bind fun _ => (keeps_peek _).bind fun _ => ?_
  exact carries_ite (keeps_pure _) ((nested.bound depth false false).returning _)

/-! ### Types -/

omit nested in
lemma keeps_convention : Keeps convention (V depth) :=
  (h.optional fun _ _ _ => rfl).bind fun _ =>
    carries_ite (keeps_pure _) ((h.optional fun _ _ _ => rfl).returning _)

lemma keeps_functionType : Keeps (functionType g) (V depth) := by
  refine (h.optional fun _ _ _ => rfl).bind fun _ => (keeps_convention h depth).bind fun _ => ?_
  refine (h.word _).bind fun _ => (h.within _).bind fun _ => ?_
  exact (keeps_output nested depth h.arrowMark false).returning _

lemma keeps_parenthesizedType (plus : Bool) : Keeps (parenthesizedType g plus) (V depth) := by
  refine (h.inside _).bind fun (inner, form) => (keeps_peek _).bind fun _ => ?_
  have further := fun first => keeps_furtherBounds h nested depth false first
  split
  · exact (further _).returning _
  · exact carries_ite ((further _).returning _) (keeps_pure _)
  · exact carries_ite ((further _).returning _) (keeps_pure _)
  · exact carries_ite ((further _).returning _) (keeps_pure _)
  · exact keeps_pure _

lemma keeps_pathType (plus : Bool) (bind : Trees) : Keeps (pathType g plus bind) (V depth) := by
  refine (keeps_qualifiedPath h nested depth false).bind fun p => carries_ite (keeps_pure _) ?_
  refine keeps_get.bind fun ts => carries_ite ?_ (carries_ite ?_ (keeps_pure _))
  · exact (h.mark rfl rfl).bind fun _ => h.anyGroup.returning _
  · exact carries_ite_then (keeps_furtherBounds h nested depth true _) (keeps_pure _) fun _ =>
      keeps_pure _

lemma keeps_pointerType : Keeps (pointerType g) (V depth) :=
  (h.mark rfl rfl).bind fun _ => (h.one fun _ _ _ => rfl).bind fun _ =>
    (nested.type depth false).returning _

lemma keeps_referenceType : Keeps (referenceType g) (V depth) :=
  (h.mark rfl rfl).bind fun _ => (h.optional fun _ _ _ => rfl).bind fun _ =>
    (h.optional fun _ _ _ => rfl).bind fun _ => (nested.type depth false).returning _

lemma keeps_dynamicType (plus : Bool) : Keeps (dynamicType g plus) (V depth) := by
  refine keeps_get.bind fun start => (h.word _).bind fun _ => ?_
  refine (keeps_optionalMark (h.mark rfl rfl)).bind fun _ => ?_
  refine (keeps_traitBounds h nested depth plus false false).bind fun _ => ?_
  exact carries_ite (keeps_pure _) ((keeps_since start).returning _)

omit nested in
lemma keeps_builtin : Keeps builtin (V depth) :=
  (h.word _).bind fun _ => (h.mark rfl rfl).bind fun _ => h.name.bind fun _ =>
    (h.one fun _ _ _ => rfl).returning _

/-- A type takes as many closing brackets as opening ones, and no comma outside them. -/
lemma keeps_typeRule (plus : Bool) : Keeps (typeRule g plus) (V depth) := by
  have bounds := keeps_traitBounds h nested depth
  refine keeps_get.bind fun start => (keeps_optionalBinder h nested depth).bind fun bind => ?_
  refine keeps_get.bind fun ts => carries_unless ?_
  refine carries_ite (keeps_parenthesizedType h nested depth plus) ?_
  refine carries_ite ((keeps_functionType h nested depth).returning _) ?_
  refine carries_ite ((keeps_builtin h depth).bind fun _ => (keeps_since start).returning _) ?_
  refine carries_ite (keeps_pathType h nested depth plus bind) ?_
  refine carries_ite (keeps_dynamicType h nested depth plus) ?_
  refine carries_ite ((h.within _).returning _) ?_
  refine carries_ite (keeps_pointerType h nested depth) ?_
  refine carries_ite (keeps_referenceType h nested depth) ?_
  refine carries_ite ((h.mark rfl rfl).returning _) ?_
  refine carries_ite ((h.word _).bind fun _ => (bounds plus true true).returning _) ?_
  refine carries_ite ((h.word _).returning _) ?_
  exact carries_ite (bounds true false false) carries_failure

end Nested

/-! ## The grammar -/

section Depth

variable {V : (depth : Nat) → Trees → γ} (h : CountsBrackets V)

lemma Rules.keepCount_silent : silent.KeepCount V :=
  ⟨fun _ _ => carries_failure, fun _ _ _ => carries_failure, fun _ _ => carries_failure⟩

include h

lemma Rules.KeepCount.around {g : Rules} (nested : g.KeepCount V) : (around g).KeepCount V where
  type depth plus := keeps_typeRule h nested depth plus
  bound depth captures constant := keeps_boundRule h nested depth captures constant
  block _ _ := h.within _

/-- The grammar of any depth of nesting takes nothing that the views see. -/
lemma Rules.keepCount_ofDepth (n : Nat) : (ofDepth n).KeepCount V := by
  induction n with
  | zero => exact keepCount_silent
  | succ n ih => exact ih.around h

end Depth

end SequenceKit.Grammar
