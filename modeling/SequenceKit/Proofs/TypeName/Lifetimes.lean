import SequenceKit.Proofs.TypeName.Remnant

/-!
# Lifetimes outside of argument lists

Among the arguments of a path a lifetime goes together with its separator.  A lifetime of a
reference or behind a list of bounds is *loose*: the separator is a blank behind it or a plus sign
before it, and the pass, which looks for a comma, leaves it.

**Residue.**  `erased` takes the loose lifetimes out of a tree with their separators, and `loose`
counts them.  What the pass leaves of the two trees is compared by length.  Each loose lifetime
makes the short name longer: the blank of a reference is one character, the plus sign of bounds is
three, and the comma and the blank that may go in its place are two.

**The comparison.**  A remnant that trails still has a comma to lose, and so must be longer by two
characters more.  `Remnant.Outweighs` says so, and every form of types passes it on.

* `Remnant.Outweighs`, `OutweighAll` — longer by a count, alone and in a list.
* `outweighs_erased` — a tree against the tree without its loose lifetimes.
* **`shorten_loose`** — the short name is that of the erased tree only if there is nothing to
  erase.
-/

namespace SequenceKit.ShortName

/-! ## Remnants by length -/

/-- `r` is longer than `bare` by at least `n`, even after a comma and a blank behind it that it may
take along. -/
structure Remnant.Outweighs (r bare : Remnant) (n : Nat) : Prop where
  settled : bare.trails = false
  longer : bare.text.length + 2 * r.trails.toNat + n ≤ r.text.length

/-- Remnants that are longer one by one, and by `n` together. -/
inductive OutweighAll : List Remnant → List Remnant → Nat → Prop
  | nil : OutweighAll [] [] 0
  | cons {r bare : Remnant} {rs bares : List Remnant} {n m : Nat} (first : r.Outweighs bare n)
      (others : OutweighAll rs bares m) : OutweighAll (r :: rs) (bare :: bares) (n + m)

namespace Remnant.Outweighs

lemma of_text {text bare : List Char} {n : Nat} (longer : bare.length + n ≤ text.length) :
    Outweighs ⟨text, false⟩ ⟨bare, false⟩ n :=
  ⟨rfl, by simpa using longer⟩

variable {r bare : Remnant} {n : Nat} (h : r.Outweighs bare n)

include h

lemma text_le : bare.text.length + n ≤ r.text.length := by
  have longer := h.longer
  omega

/-- The separator that goes is made up for. -/
lemma separator_le :
    (bare.text ++ bare.separator).length + n ≤ (r.text ++ r.separator).length := by
  have longer := h.longer
  rw [separator, separator, h.settled, List.length_append, List.length_append]
  cases trails : r.trails with
  | false =>
      simp only [Bool.false_eq_true, ↓reduceIte]
      omega
  | true =>
      rw [trails, Bool.toNat_true] at longer
      simp only [Bool.false_eq_true, ↓reduceIte, comma, List.length_cons, List.length_nil]
      omega

/-- Texts in front, the first of which may be longer itself. -/
lemma after {front bareFront : List Char} {m : Nat} (le : bareFront.length + m ≤ front.length) :
    (r.after front).Outweighs (bare.after bareFront) (m + n) := by
  refine ⟨h.settled, ?_⟩
  have longer := h.longer
  simp only [Remnant.after, List.length_append]
  omega

lemma after_same (front : List Char) : (r.after front).Outweighs (bare.after front) n := by
  have whole : (r.after front).Outweighs (bare.after front) (0 + n) := h.after (Nat.le_refl _)
  rwa [Nat.zero_add] at whole

/-- A lifetime behind bounds. -/
lemma bounded : r.bounded.Outweighs bare (n + 1) := by
  refine ⟨h.settled, ?_⟩
  have longer := h.longer
  simp only [Remnant.bounded, plus, List.length_append, List.length_cons, List.length_nil,
    Bool.toNat_true]
  omega

end Remnant.Outweighs

namespace OutweighAll

variable {rs bares : List Remnant} {n : Nat}

lemma separated (h : OutweighAll rs bares n) :
    (Remnant.separated bares).length + n ≤ (Remnant.separated rs).length := by
  induction h with
  | nil => exact Nat.le_refl _
  | @cons r bare rs bares n m first others ih =>
      cases others with
      | nil => exact first.text_le
      | cons second others =>
          have front := first.separator_le
          rw [Remnant.separated_cons_cons, Remnant.separated_cons_cons]
          simp only [List.length_append] at front ⊢
          omega

lemma angled (h : OutweighAll rs bares n) :
    (Remnant.angled bares).length + n ≤ (Remnant.angled rs).length := by
  have inside := h.separated
  cases h with
  | nil => exact Nat.le_refl _
  | cons first others =>
      rw [Remnant.angled, Remnant.angled, if_neg (by simp), if_neg (by simp)]
      simp only [List.length_append, List.length_cons, List.length_nil]
      omega

lemma tupled (h : OutweighAll rs bares n) :
    (Remnant.tupled bares).length + n ≤ (Remnant.tupled rs).length := by
  have inside := h.separated
  cases h with
  | nil => exact Nat.le_refl _
  | @cons r bare _ _ _ _ first others =>
      cases others with
      | nil =>
          have longer := first.longer
          rw [Remnant.tupled, Remnant.tupled, first.settled]
          cases trails : r.trails with
          | false => simp; omega
          | true => simp [trails] at longer ⊢; omega
      | cons second others =>
          simp only [Remnant.tupled, List.length_append, List.length_cons, List.length_nil]
          omega

/-- Bounds. -/
lemma joined (h : OutweighAll rs bares n) :
    (Remnant.joined rs).Outweighs (Remnant.joined bares) n := by
  induction h with
  | nil => exact .of_text (Nat.le_refl _)
  | @cons r bare rs bares n m first others ih =>
      cases others with
      | nil => simpa [Remnant.joined] using first
      | @cons r' bare' rs bares _ _ second others =>
          have front : (bare.text ++ plus).length + n ≤ (r.text ++ plus).length := by
            have text := first.text_le
            rw [List.length_append, List.length_append]
            omega
          simpa [Remnant.joined, Remnant.after] using ih.after front

lemma called (h : OutweighAll rs bares n) :
    (Remnant.called bares).length + n ≤ (Remnant.called rs).length := by
  have inside := h.separated
  simp only [Remnant.called, List.length_append]
  omega

end OutweighAll

end SequenceKit.ShortName

namespace SequenceKit.TypeName

open ShortName

/-! ## Loose lifetimes -/

mutual

/-- The tree without the lifetimes of references and bounds. -/
def erased : TypeName → TypeName
  | path segments arguments => path segments (erasedArguments arguments)
  | tuple parts => tuple (erasedAll parts)
  | slice element => slice (erased element)
  | array element length => array (erased element) length
  | reference _ writable target => reference none writable (erased target)
  | pointer writable target => pointer writable (erased target)
  | function inputs output => function (erasedAll inputs) (erasedOption output)
  | dynamic bounds _ => dynamic (erasedAll bounds) none

/-- A lifetime that is an argument stays. -/
def erasedArgument : Argument → Argument
  | .lifetime name => .lifetime name
  | .type t => .type (erased t)
  | .constant text => .constant text

def erasedArguments : List Argument → List Argument
  | [] => []
  | a :: rest => erasedArgument a :: erasedArguments rest

def erasedAll : List TypeName → List TypeName
  | [] => []
  | t :: rest => erased t :: erasedAll rest

def erasedOption : Option TypeName → Option TypeName
  | none => none
  | some t => some (erased t)

end

mutual

/-- How many lifetimes of references and bounds there are. -/
def loose : TypeName → Nat
  | path _ arguments => looseArguments arguments
  | tuple parts => looseAll parts
  | slice element => loose element
  | array element _ => loose element
  | reference lifetime _ target => lifetime.isSome.toNat + loose target
  | pointer _ target => loose target
  | function inputs output => looseAll inputs + looseOption output
  | dynamic bounds lifetime => looseAll bounds + lifetime.isSome.toNat

def looseArgument : Argument → Nat
  | .lifetime _ => 0
  | .type t => loose t
  | .constant _ => 0

def looseArguments : List Argument → Nat
  | [] => 0
  | a :: rest => looseArgument a + looseArguments rest

def looseAll : List TypeName → Nat
  | [] => 0
  | t :: rest => loose t + looseAll rest

def looseOption : Option TypeName → Nat
  | none => 0
  | some t => loose t

end

lemma eq_none_of_isSome_toNat {lifetime : Option String} (h : lifetime.isSome.toNat = 0) :
    lifetime = none := by
  cases lifetime with
  | none => rfl
  | some name => cases h

mutual

/-- Where no lifetime is loose, there is nothing to erase. -/
theorem erased_of_loose_eq_zero : ∀ {t : TypeName}, t.loose = 0 → t.erased = t
  | .path segments arguments, h => by
      rw [loose] at h
      rw [erased, erasedArguments_of_loose_eq_zero h]
  | .tuple parts, h => by
      rw [loose] at h
      rw [erased, erasedAll_of_loose_eq_zero h]
  | .slice element, h => by
      rw [loose] at h
      rw [erased, erased_of_loose_eq_zero h]
  | .array element length, h => by
      rw [loose] at h
      rw [erased, erased_of_loose_eq_zero h]
  | .reference lifetime writable target, h => by
      rw [loose, Nat.add_eq_zero_iff] at h
      rw [erased, erased_of_loose_eq_zero h.2, eq_none_of_isSome_toNat h.1]
  | .pointer writable target, h => by
      rw [loose] at h
      rw [erased, erased_of_loose_eq_zero h]
  | .function inputs output, h => by
      rw [loose, Nat.add_eq_zero_iff] at h
      rw [erased, erasedAll_of_loose_eq_zero h.1, erasedOption_of_loose_eq_zero h.2]
  | .dynamic bounds lifetime, h => by
      rw [loose, Nat.add_eq_zero_iff] at h
      rw [erased, erasedAll_of_loose_eq_zero h.1, eq_none_of_isSome_toNat h.2]

theorem erasedArguments_of_loose_eq_zero : ∀ {arguments : List Argument},
    looseArguments arguments = 0 → erasedArguments arguments = arguments
  | [], _ => rfl
  | .lifetime name :: rest, h => by
      rw [looseArguments, Nat.add_eq_zero_iff] at h
      rw [erasedArguments, erasedArguments_of_loose_eq_zero h.2, erasedArgument]
  | .type t :: rest, h => by
      rw [looseArguments, looseArgument, Nat.add_eq_zero_iff] at h
      rw [erasedArguments, erasedArguments_of_loose_eq_zero h.2, erasedArgument,
        erased_of_loose_eq_zero h.1]
  | .constant text :: rest, h => by
      rw [looseArguments, Nat.add_eq_zero_iff] at h
      rw [erasedArguments, erasedArguments_of_loose_eq_zero h.2, erasedArgument]

theorem erasedAll_of_loose_eq_zero : ∀ {ts : List TypeName}, looseAll ts = 0 → erasedAll ts = ts
  | [], _ => rfl
  | t :: rest, h => by
      rw [looseAll, Nat.add_eq_zero_iff] at h
      rw [erasedAll, erased_of_loose_eq_zero h.1, erasedAll_of_loose_eq_zero h.2]

theorem erasedOption_of_loose_eq_zero : ∀ {output : Option TypeName},
    looseOption output = 0 → erasedOption output = output
  | none, _ => rfl
  | some t, h => by
      rw [looseOption] at h
      rw [erasedOption, erased_of_loose_eq_zero h]

end

mutual

theorem named_erased : ∀ {t : TypeName}, t.named = true → t.erased.named = true
  | .path segments arguments, h => by
      rw [named, Bool.and_eq_true] at h
      rw [erased, named, Bool.and_eq_true]
      exact ⟨h.1, named_erasedArguments h.2⟩
  | .tuple parts, h => by
      rw [named] at h
      rw [erased, named, named_erasedAll h]
  | .slice element, h => by
      rw [named] at h
      rw [erased, named, named_erased h]
  | .array element length, h => by
      rw [named, Bool.and_eq_true] at h
      rw [erased, named, named_erased h.1, h.2, Bool.and_true]
  | .reference lifetime writable target, h => by
      rw [named, Bool.and_eq_true] at h
      rw [erased, named, named_erased h.2]
      rfl
  | .pointer writable target, h => by
      rw [named] at h
      rw [erased, named, named_erased h]
  | .function inputs output, h => by
      rw [named, Bool.and_eq_true] at h
      rw [erased, named, named_erasedAll h.1, named_erasedOption h.2, Bool.and_true]
  | .dynamic bounds lifetime, h => by
      rw [named, Bool.and_eq_true, Bool.and_eq_true] at h
      have present : (erasedAll bounds).isEmpty = bounds.isEmpty := by
        cases bounds <;> rfl
      rw [erased, named, named_erasedAll h.1.2, present, h.1.1]
      rfl

theorem named_erasedArguments : ∀ {arguments : List Argument},
    namedArguments arguments = true → namedArguments (erasedArguments arguments) = true
  | [], _ => rfl
  | .lifetime name :: rest, h => by
      rw [namedArguments, Bool.and_eq_true] at h
      rw [erasedArguments, namedArguments, Bool.and_eq_true]
      exact ⟨h.1, named_erasedArguments h.2⟩
  | .type t :: rest, h => by
      rw [namedArguments, Bool.and_eq_true] at h
      rw [erasedArguments, namedArguments, Bool.and_eq_true]
      exact ⟨named_erased h.1, named_erasedArguments h.2⟩
  | .constant text :: rest, h => by
      rw [namedArguments, Bool.and_eq_true] at h
      rw [erasedArguments, namedArguments, Bool.and_eq_true]
      exact ⟨h.1, named_erasedArguments h.2⟩

theorem named_erasedAll : ∀ {ts : List TypeName},
    namedAll ts = true → namedAll (erasedAll ts) = true
  | [], _ => rfl
  | t :: rest, h => by
      rw [namedAll, Bool.and_eq_true] at h
      rw [erasedAll, namedAll, named_erased h.1, named_erasedAll h.2, Bool.and_true]

theorem named_erasedOption : ∀ {output : Option TypeName},
    namedOption output = true → namedOption (erasedOption output) = true
  | none, _ => rfl
  | some t, h => by
      rw [namedOption] at h
      rw [erasedOption, namedOption, named_erased h]

end

/-! ## The residue -/

lemma length_orphanedBlank (lifetime : Option String) :
    (orphanedBlank lifetime).length = lifetime.isSome.toNat := by
  cases lifetime <;> rfl

/-- A constant is the same in both trees. -/
lemma outweighAll_constant (text : List Char) {rs bares : List Remnant} {n : Nat}
    (others : OutweighAll rs bares n) :
    OutweighAll ((remnantConstant text).toList ++ rs) ((remnantConstant text).toList ++ bares)
      n := by
  rw [remnantConstant]
  split
  · exact others
  · have same : Remnant.Outweighs ⟨lastSegment text, false⟩ ⟨lastSegment text, false⟩ 0 :=
      .of_text (Nat.le_refl _)
    have whole := OutweighAll.cons same others
    rwa [Nat.zero_add] at whole

mutual

/-- **Every loose lifetime is paid for**, whatever stands around it. -/
theorem outweighs_erased : ∀ t : TypeName, t.remnant.Outweighs t.erased.remnant t.loose
  | .path segments arguments => by
      have inside := (outweighAll_erasedArguments arguments).angled
      rw [loose]
      refine .of_text ?_
      simp only [List.length_append]
      omega
  | .tuple parts => .of_text (outweighAll_erasedAll parts).tupled
  | .slice element => by
      have inside := (outweighs_erased element).text_le
      rw [loose]
      refine .of_text ?_
      simp only [List.length_append]
      omega
  | .array element length => by
      have inside := (outweighs_erased element).text_le
      rw [loose]
      refine .of_text ?_
      simp only [List.length_append]
      omega
  | .reference lifetime writable target => by
      rw [loose]
      refine (outweighs_erased target).after ?_
      simp only [List.length_append, length_orphanedBlank, Option.isSome_none, Bool.toNat_false]
      omega
  | .pointer writable target => (outweighs_erased target).after_same _
  | .function inputs none => .of_text (outweighAll_erasedAll inputs).called
  | .function inputs (some output) =>
      ((outweighs_erased output).after_same _).after (outweighAll_erasedAll inputs).called
  | .dynamic bounds none => (outweighAll_erasedAll bounds).joined.after_same _
  | .dynamic bounds (some name) => ((outweighAll_erasedAll bounds).joined.after_same _).bounded

theorem outweighAll_erasedArguments : ∀ arguments : List Argument,
    OutweighAll (remnantArguments arguments) (remnantArguments (erasedArguments arguments))
      (looseArguments arguments)
  | [] => .nil
  | .lifetime name :: rest => by
      rw [looseArguments, looseArgument, Nat.zero_add]
      exact outweighAll_erasedArguments rest
  | .type t :: rest => .cons (outweighs_erased t) (outweighAll_erasedArguments rest)
  | .constant text :: rest => by
      rw [looseArguments, looseArgument, Nat.zero_add]
      exact outweighAll_constant text.toList (outweighAll_erasedArguments rest)

theorem outweighAll_erasedAll : ∀ ts : List TypeName,
    OutweighAll (remnantAll ts) (remnantAll (erasedAll ts)) (looseAll ts)
  | [] => .nil
  | t :: rest => .cons (outweighs_erased t) (outweighAll_erasedAll rest)

end

/-- **Loose lifetimes leave a residue.**  The short name of a printed tree is the remnant of the
tree, with a blank for the lifetime of each reference and a plus sign for the lifetime behind a
list of bounds, where the next comma may be missing instead.  It is longer than the short name of
the tree without these lifetimes, by one character at least for each of them, so that the two names
are the same exactly if there is no such lifetime. -/
theorem shorten_loose {t : TypeName} (h : t.named = true) :
    (shorten t.full).toList = t.remnant.text ∧
      (shorten t.erased.full).length + t.loose ≤ (shorten t.full).length ∧
      (shorten t.full = shorten t.erased.full ↔ t.loose = 0) := by
  have whole := toList_shorten_full h
  have bare := toList_shorten_full (named_erased h)
  have longer : (shorten t.erased.full).length + t.loose ≤ (shorten t.full).length := by
    rw [← String.length_toList, ← String.length_toList, whole, bare]
    exact (outweighs_erased t).text_le
  refine ⟨whole, longer, ?_, ?_⟩
  · intro same
    rw [same] at longer
    omega
  · intro none_loose
    rw [erased_of_loose_eq_zero none_loose]

/-- A lifetime behind bounds takes the comma of a tuple along: one part is left where there were
two. -/
theorem shorten_loose_bound :
    let t := tuple [dynamic [simple "A"] (some "_"), simple "u8"]
    t.named = true ∧ t.full = "(dyn A + '_, u8)" ∧
      shorten t.full = "(dyn A + u8)" ∧ shorten t.erased.full = "(dyn A, u8)" ∧
      shorten t.full ≠ shorten t.erased.full := by
  intro t
  have ok : t.named = true := by decide
  obtain ⟨whole, -, same_iff⟩ := shorten_loose ok
  refine ⟨ok, by decide +kernel, ?_, by decide +kernel, ?_⟩
  · rw [← String.toList_inj, whole]
    decide +kernel
  · rw [Ne, same_iff]
    decide

/-- Two references: the blank behind the lifetime stays. -/
theorem shorten_keeps_blank :
    let t := function [reference (some "_") false (simple "u8")]
      (some (reference (some "_") false (simple "u8")))
    t.named = true ∧ t.full = "fn(&'_ u8) -> &'_ u8" ∧ t.erased.full = "fn(&u8) -> &u8" ∧
      shorten t.full = "fn(& u8) -> & u8" ∧ shorten t.erased.full = "fn(&u8) -> &u8" := by
  decide +kernel

end SequenceKit.TypeName
