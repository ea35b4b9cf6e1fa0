import SequenceKit.Proofs.TypeName.Remnant

/-!
# The pass computes the structural short name

Reading a printed name from left to right gives what `TypeName.stripped` says of its tree.

* `TypeName.wellFormed` — trees of plain identifiers, without lifetimes on references and bounds.
* `piece_full` — every type in such a tree is a piece of the printed name.
* **`shorten_full`** — the short name of a printed tree is the printed stripped tree.
-/

namespace SequenceKit.TypeName

open ShortName

/-! ## Trees -/

mutual

/-- Trees whose identifiers and constants are words, and in which neither references nor bounds
carry a lifetime.  The arguments of a path may be lifetimes. -/
def wellFormed : TypeName → Bool
  | path segments arguments =>
      !segments.isEmpty && segments.all (isWord ·.toList) && wellFormedArguments arguments
  | tuple parts => wellFormedAll parts
  | slice element => wellFormed element
  | array element length => wellFormed element && isWord length.toList
  | reference lifetime _ target => lifetime.isNone && wellFormed target
  | pointer _ target => wellFormed target
  | function inputs output => wellFormedAll inputs && wellFormedOption output
  | dynamic bounds lifetime => !bounds.isEmpty && wellFormedAll bounds && lifetime.isNone

/-- A lifetime's name is a word, and so is a constant. -/
def wellFormedArgument : Argument → Bool
  | .lifetime name => isWord name.toList
  | .type t => wellFormed t
  | .constant text => isWord text.toList

/-- Each of a path's arguments is well formed. -/
def wellFormedArguments : List Argument → Bool
  | [] => true
  | a :: rest => wellFormedArgument a && wellFormedArguments rest

/-- Each of several types is well formed. -/
def wellFormedAll : List TypeName → Bool
  | [] => true
  | t :: rest => wellFormed t && wellFormedAll rest

/-- A type that may be absent is well formed. -/
def wellFormedOption : Option TypeName → Bool
  | none => true
  | some t => wellFormed t

end

/-! ## Settled remnants -/

/-- A text that does not end in a lifetime. -/
def settled (text : String) : Remnant :=
  ⟨text.toList, false⟩

lemma map_text_settled (texts : List String) :
    (texts.map settled).map Remnant.text = texts.map String.toList := by
  rw [List.map_map]
  rfl

lemma separated_settled (texts : List String) :
    Remnant.separated (texts.map settled) = (", ".intercalate texts).toList := by
  induction texts with
  | nil => rfl
  | cons first rest ih =>
      cases rest with
      | nil => simp [Remnant.separated, settled]
      | cons second rest =>
          rw [List.map_cons, List.map_cons, Remnant.separated_cons_cons, ← List.map_cons, ih]
          simp [settled, Remnant.separator, comma, String.toList_intercalate]

lemma angled_settled (texts : List String) :
    Remnant.angled (texts.map settled) = (angled texts).toList := by
  cases texts with
  | nil => rfl
  | cons first rest =>
      rw [Remnant.angled, if_neg (by simp), separated_settled]
      simp [angled]

lemma tupled_settled (texts : List String) :
    Remnant.tupled (texts.map settled) = (tupled texts).toList := by
  match texts with
  | [] => rfl
  | [text] => simp [Remnant.tupled, tupled, settled]
  | first :: second :: rest =>
      have inside := separated_settled (first :: second :: rest)
      rw [List.map_cons, List.map_cons] at inside ⊢
      rw [Remnant.tupled, inside, tupled]
      · simp
      · simp
      · simp

lemma function_settled (inputs : List String) (output : Option String) :
    Remnant.function (inputs.map settled) (output.map settled) =
      settled ("fn(" ++ ", ".intercalate inputs ++ ")" ++ arrow output) := by
  cases output with
  | none => simp [Remnant.function, Remnant.called, separated_settled, settled, arrow]
  | some text =>
      simp [Remnant.function, Remnant.called, Remnant.after, separated_settled, settled, arrow]

lemma joined_settled (texts : List String) :
    Remnant.joined (texts.map settled) = settled (" + ".intercalate texts) := by
  have untrailed : (texts.map settled).getLast?.any Remnant.trails = false := by
    rw [List.getLast?_map, Option.any_map]
    cases texts.getLast? <;> rfl
  rw [Remnant.joined, untrailed, map_text_settled]
  simp [settled, plus, String.toList_intercalate]

mutual

/-- A tree without lifetimes on references and bounds leaves its stripped tree. -/
theorem remnant_of_wellFormed : ∀ {t : TypeName}, t.wellFormed = true →
    t.remnant = settled t.stripped.full
  | .path segments arguments, h => by
      rw [wellFormed, Bool.and_eq_true, Bool.and_eq_true] at h
      rw [remnant, stripped, full, remnantArguments_of_wellFormed h.2, angled_settled, settled,
        String.toList_append]
  | .tuple parts, h => by
      rw [wellFormed] at h
      rw [remnant, stripped, full, remnantAll_of_wellFormed h, tupled_settled, settled]
  | .slice element, h => by
      rw [wellFormed] at h
      rw [remnant, remnant_of_wellFormed h]
      simp [settled, stripped, full]
  | .array element length, h => by
      rw [wellFormed, Bool.and_eq_true] at h
      rw [remnant, remnant_of_wellFormed h.1]
      simp [settled, stripped, full]
  | .reference lifetime writable target, h => by
      rw [wellFormed, Bool.and_eq_true] at h
      obtain rfl := Option.isNone_iff_eq_none.mp h.1
      rw [remnant, remnant_of_wellFormed h.2]
      cases writable <;>
        simp [settled, stripped, full, Remnant.after, orphanedBlank, writableChars,
          leadingLifetime]
  | .pointer writable target, h => by
      rw [wellFormed] at h
      rw [remnant, remnant_of_wellFormed h]
      simp [settled, stripped, full, Remnant.after]
  | .function inputs output, h => by
      rw [wellFormed, Bool.and_eq_true] at h
      rw [remnant, remnantAll_of_wellFormed h.1, remnantOption_of_wellFormed h.2,
        function_settled, stripped, full]
  | .dynamic bounds lifetime, h => by
      rw [wellFormed, Bool.and_eq_true, Bool.and_eq_true] at h
      obtain rfl := Option.isNone_iff_eq_none.mp h.2
      rw [remnant, remnantAll_of_wellFormed h.1.2, joined_settled]
      simp [settled, stripped, full, Remnant.after, trailingLifetime]

theorem remnantArguments_of_wellFormed : ∀ {arguments : List Argument},
    wellFormedArguments arguments = true →
    remnantArguments arguments = (fullArguments (strippedArguments arguments)).map settled
  | [], _ => rfl
  | .lifetime name :: rest, h => by
      rw [wellFormedArguments, Bool.and_eq_true] at h
      rw [remnantArguments, remnantArguments_of_wellFormed h.2]
      rfl
  | .type t :: rest, h => by
      rw [wellFormedArguments, Bool.and_eq_true, wellFormedArgument] at h
      rw [remnantArguments, remnantArguments_of_wellFormed h.2, remnantArgument,
        remnant_of_wellFormed h.1]
      rfl
  | .constant text :: rest, h => by
      rw [wellFormedArguments, Bool.and_eq_true, wellFormedArgument] at h
      rw [remnantArguments, remnantArguments_of_wellFormed h.2, remnantArgument,
        remnantConstant_of_isWord h.1]
      rfl

theorem remnantAll_of_wellFormed : ∀ {ts : List TypeName}, wellFormedAll ts = true →
    remnantAll ts = (fullAll (strippedAll ts)).map settled
  | [], _ => rfl
  | t :: rest, h => by
      rw [wellFormedAll, Bool.and_eq_true] at h
      rw [remnantAll, remnant_of_wellFormed h.1, remnantAll_of_wellFormed h.2]
      rfl

theorem remnantOption_of_wellFormed : ∀ {output : Option TypeName},
    wellFormedOption output = true →
    remnantOption output = (fullOption (strippedOption output)).map settled
  | none, _ => rfl
  | some t, h => by
      rw [wellFormedOption] at h
      rw [remnantOption, remnant_of_wellFormed h]
      rfl

end

mutual

theorem named_of_wellFormed : ∀ {t : TypeName}, t.wellFormed = true → t.named = true
  | .path segments arguments, h => by
      rw [wellFormed, Bool.and_eq_true] at h
      rw [named, Bool.and_eq_true]
      exact ⟨h.1, namedArguments_of_wellFormed h.2⟩
  | .tuple parts, h => by
      rw [wellFormed] at h
      rw [named, namedAll_of_wellFormed h]
  | .slice element, h => by
      rw [wellFormed] at h
      rw [named, named_of_wellFormed h]
  | .array element length, h => by
      rw [wellFormed, Bool.and_eq_true] at h
      rw [named, named_of_wellFormed h.1, h.2, Bool.and_true]
  | .reference lifetime writable target, h => by
      rw [wellFormed, Bool.and_eq_true] at h
      obtain rfl := Option.isNone_iff_eq_none.mp h.1
      rw [named, named_of_wellFormed h.2]
      rfl
  | .pointer writable target, h => by
      rw [wellFormed] at h
      rw [named, named_of_wellFormed h]
  | .function inputs output, h => by
      rw [wellFormed, Bool.and_eq_true] at h
      rw [named, namedAll_of_wellFormed h.1, namedOption_of_wellFormed h.2, Bool.and_true]
  | .dynamic bounds lifetime, h => by
      rw [wellFormed, Bool.and_eq_true, Bool.and_eq_true] at h
      obtain rfl := Option.isNone_iff_eq_none.mp h.2
      rw [named, namedAll_of_wellFormed h.1.2, h.1.1]
      rfl

theorem namedArguments_of_wellFormed : ∀ {arguments : List Argument},
    wellFormedArguments arguments = true → namedArguments arguments = true
  | [], _ => rfl
  | .lifetime name :: rest, h => by
      rw [wellFormedArguments, Bool.and_eq_true] at h
      rw [namedArguments, Bool.and_eq_true]
      exact ⟨h.1, namedArguments_of_wellFormed h.2⟩
  | .type t :: rest, h => by
      rw [wellFormedArguments, Bool.and_eq_true] at h
      rw [namedArguments, Bool.and_eq_true]
      exact ⟨named_of_wellFormed h.1, namedArguments_of_wellFormed h.2⟩
  | .constant text :: rest, h => by
      rw [wellFormedArguments, Bool.and_eq_true] at h
      rw [namedArguments, Bool.and_eq_true]
      exact ⟨isConstant_of_isWord h.1, namedArguments_of_wellFormed h.2⟩

theorem namedAll_of_wellFormed : ∀ {ts : List TypeName}, wellFormedAll ts = true →
    namedAll ts = true
  | [], _ => rfl
  | t :: rest, h => by
      rw [wellFormedAll, Bool.and_eq_true] at h
      rw [namedAll, named_of_wellFormed h.1, namedAll_of_wellFormed h.2, Bool.and_true]

theorem namedOption_of_wellFormed : ∀ {output : Option TypeName},
    wellFormedOption output = true → namedOption output = true
  | none, _ => rfl
  | some t, h => by
      rw [wellFormedOption] at h
      rw [namedOption, named_of_wellFormed h]

end

/-- **Every type of a well-formed tree is shortened by itself**, wherever it stands. -/
theorem piece_full {t : TypeName} (h : t.wellFormed = true) :
    Piece t.full.toList (settled t.stripped.full) := by
  rw [← remnant_of_wellFormed h]
  exact piece_remnant (named_of_wellFormed h)

/-- **One pass computes the structural short name.**  For every well-formed tree the pass over the
printed tree gives the printed stripped tree. -/
theorem shorten_full {t : TypeName} (h : t.wellFormed = true) :
    shorten t.full = t.stripped.full := by
  rw [shorten, (piece_full h).shortens.shortenChars_eq, String.ofList_toList]

/-- Lifetimes first, last, between other arguments and alone, below a function type. -/
theorem shorten_full_nested :
    let inner := path ["a", "B"] [.lifetime "x", .type (path ["c", "D"] [.lifetime "_"]),
      .lifetime "y", .constant "3", .lifetime "z"]
    let t := function [inner] (some (tuple [reference none true (array inner "2")]))
    t.wellFormed = true ∧
      t.full = "fn(a::B<'x, c::D<'_>, 'y, 3, 'z>) -> (&mut [a::B<'x, c::D<'_>, 'y, 3, 'z>; 2],)" ∧
      shorten t.full = "fn(B<D, 3>) -> (&mut [B<D, 3>; 2],)" := by
  intro inner t
  have ok : t.wellFormed = true := by decide
  exact ⟨ok, by decide +kernel, (shorten_full ok).trans (by decide +kernel)⟩

end SequenceKit.TypeName
