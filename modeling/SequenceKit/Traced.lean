/-!
# Traced computations

Reading a sequence can leave two kinds of marks: log lines, and, on a sequence that records how
it is used, the primitive calls made on it.  It can also stop with a fault.  A `Traced α` is
what is left after such a computation has run: the marks in order, and the value or the fault.
The marks made before a fault stay.

* `Fault` — why a computation stopped, and its `message`.
* `Call`, `LogLine`, `Event` — the marks.
* `Traced` — a monad: `bind` runs on from a value and stops at a fault.
* `Traced.calls`, `Traced.logs` — the two kinds of marks, apart.
-/

namespace SequenceKit

/-- Why a computation stopped without a value. -/
inductive Fault where
  /-- A read past the end of stored elements. -/
  | indexOutOfBounds (index len : Nat)
  /-- A read past the end of a deque. -/
  | dequeOutOfBounds
  /-- A rotation by more places than there are elements. -/
  | rotationTooLong
  /-- A position too large for the signed answer of an index lookup. -/
  | positionOverflow
  /-- A read of a repeated sequence that has nothing to repeat. -/
  | nothingToRepeat
  /-- A sum that is no machine word. -/
  | addOverflow
  /-- A difference that is no machine word. -/
  | subOverflow
  deriving DecidableEq, Repr

/-- The sentence a fault is reported with. -/
def Fault.message : Fault → String
  | indexOutOfBounds index len =>
      s!"index out of bounds: the len is {len} but the index is {index}"
  | dequeOutOfBounds => "out of bounds access"
  | rotationTooLong => "assertion failed: n <= self.len()"
  | positionOverflow => "sequence position does not fit in isize"
  | nothingToRepeat => "attempt to calculate the remainder with a divisor of zero"
  | addOverflow => "attempt to add with overflow"
  | subOverflow => "attempt to subtract with overflow"

/-! ## Marks -/

/-- One call on a sequence that records how it is used. -/
inductive Call where
  | size
  | isEmpty
  /-- A cursor is made. -/
  | iter
  /-- The cursor is advanced, the advance that ends it included. -/
  | next
  /-- A read by position. -/
  | get (place : Nat)
  | contains
  | position
  | index
  | count
  | indexBetween
  | checkedAt
  | first
  | last
  deriving DecidableEq, Repr

/-- How a call is listed. -/
def Call.text : Call → String
  | size => "size"
  | isEmpty => "is_empty"
  | iter => "iter"
  | next => "next"
  | get place => s!"at {place}"
  | contains => "contains"
  | position => "position"
  | index => "index"
  | count => "count"
  | indexBetween => "index_between"
  | checkedAt => "checked_at"
  | first => "first"
  | last => "last"

/-- One line written to the log. -/
inductive LogLine where
  /-- A view of a sequence of the named type and of the given size is made. -/
  | viewMade (typeName : String) (size : Nat)
  /-- A range search refuses its range. -/
  | rangeRejected (start stop len : Nat)
  deriving DecidableEq, Repr

/-- The level and the text of a log line. -/
def LogLine.text : LogLine → String
  | viewMade typeName size => s!"TRACE SequenceView over {typeName} ({size} elements)"
  | rangeRejected start stop len =>
      s!"DEBUG Rejected range {start}..{stop} over a sequence of len {len}"

/-- A mark left by a computation. -/
inductive Event where
  | call (c : Call)
  | log (line : LogLine)
  deriving DecidableEq, Repr

/-- The call of an event, if it is one. -/
def Event.call? : Event → Option Call
  | call c => some c
  | log _ => none

/-- The log line of an event, if it is one. -/
def Event.log? : Event → Option LogLine
  | call _ => none
  | log line => some line

/-! ## The computation -/

/-- What a computation leaves behind: its marks in order, and its value or fault. -/
structure Traced (α : Type) where
  trace : List Event
  outcome : Except Fault α

namespace Traced

variable {α β : Type}

/-- A value, with no mark. -/
protected def pure (a : α) : Traced α :=
  ⟨[], .ok a⟩

/-- A fault, with no mark. -/
def stop (f : Fault) : Traced α :=
  ⟨[], .error f⟩

/-- One mark. -/
def mark (e : Event) : Traced Unit :=
  ⟨[e], .ok ()⟩

/-- One recorded call. -/
def record (c : Call) : Traced Unit :=
  mark (.call c)

/-- One log line. -/
def log (line : LogLine) : Traced Unit :=
  mark (.log line)

/-- Runs `x` and, on a value, goes on with `f`; the marks of both are kept in order. -/
protected def bind (x : Traced α) (f : α → Traced β) : Traced β :=
  match x.outcome with
  | .ok a => ⟨x.trace ++ (f a).trace, (f a).outcome⟩
  | .error e => ⟨x.trace, .error e⟩

instance : Monad Traced where
  pure := Traced.pure
  bind := Traced.bind

/-- The recorded calls, in order. -/
def calls (x : Traced α) : List Call :=
  x.trace.filterMap Event.call?

/-- The log lines, in order. -/
def logs (x : Traced α) : List LogLine :=
  x.trace.filterMap Event.log?

/-- The computation with further marks in front of its own. -/
def after (marks : List Event) (x : Traced α) : Traced α :=
  ⟨marks ++ x.trace, x.outcome⟩

/-! ## Laws -/

@[simp] theorem pure_bind (a : α) (f : α → Traced β) : Traced.bind (Traced.pure a) f = f a := by
  simp [Traced.bind, Traced.pure]

@[simp] theorem bind_pure (x : Traced α) : Traced.bind x Traced.pure = x := by
  cases x with
  | mk t o => cases o <;> simp [Traced.bind, Traced.pure]

theorem bind_assoc {γ : Type} (x : Traced α) (f : α → Traced β) (g : β → Traced γ) :
    Traced.bind (Traced.bind x f) g = Traced.bind x fun a => Traced.bind (f a) g := by
  cases x with
  | mk t o =>
    cases o with
    | error e => rfl
    | ok a =>
      simp only [Traced.bind]
      cases (f a).outcome <;> simp

instance : LawfulMonad Traced := LawfulMonad.mk'
  _
  (fun x => bind_pure x)
  (fun a f => pure_bind a f)
  (fun x f g => bind_assoc x f g)

/-! ## Outcomes -/

@[simp] theorem outcome_pure (a : α) : (pure a : Traced α).outcome = .ok a := rfl

@[simp] theorem outcome_after (marks : List Event) (x : Traced α) :
    (x.after marks).outcome = x.outcome := rfl

/-- After a value the outcome is that of what follows. -/
theorem outcome_bind_of_ok {x : Traced α} {a : α} (h : x.outcome = .ok a) (f : α → Traced β) :
    (x >>= f).outcome = (f a).outcome := by
  show (Traced.bind x f).outcome = _
  simp only [Traced.bind, h]

/-- A computation ends with a value only if each of its parts does. -/
theorem exists_of_outcome_bind {x : Traced α} {f : α → Traced β} {b : β}
    (h : (x >>= f).outcome = .ok b) : ∃ a, x.outcome = .ok a ∧ (f a).outcome = .ok b := by
  change (Traced.bind x f).outcome = _ at h
  cases value : x.outcome with
  | ok a =>
      simp only [Traced.bind, value] at h
      exact ⟨a, rfl, h⟩
  | error e => simp [Traced.bind, value] at h

theorem outcome_map_of_ok {x : Traced α} {a : α} (h : x.outcome = .ok a) (f : α → β) :
    (f <$> x).outcome = .ok (f a) := by
  rw [map_eq_pure_bind, outcome_bind_of_ok h, outcome_pure]

/-! ## Marks in front -/

/-- After a value its marks come in front of what follows. -/
theorem bind_eq_after {x : Traced α} {a : α} (h : x.outcome = .ok a) (f : α → Traced β) :
    x >>= f = (f a).after x.trace := by
  show Traced.bind x f = _
  simp only [Traced.bind, h]
  rfl

/-- After a fault nothing follows. -/
theorem bind_eq_of_error {x : Traced α} {e : Fault} (h : x.outcome = .error e) (f : α → Traced β) :
    x >>= f = ⟨x.trace, .error e⟩ := by
  show Traced.bind x f = _
  simp only [Traced.bind, h]

theorem map_mk (marks : List Event) (outcome : Except Fault α) (f : α → β) :
    f <$> (⟨marks, outcome⟩ : Traced α) = ⟨marks, outcome.map f⟩ := by
  rw [map_eq_pure_bind]
  cases outcome with
  | error e => rfl
  | ok a => exact congrArg (Traced.mk · (.ok (f a))) (List.append_nil marks)

theorem outcome_map (x : Traced α) (f : α → β) : (f <$> x).outcome = x.outcome.map f :=
  congrArg outcome (map_mk x.trace x.outcome f)

theorem map_after (marks : List Event) (x : Traced α) (f : α → β) :
    f <$> x.after marks = (f <$> x).after marks := by
  rw [after, map_mk, show f <$> x = ⟨x.trace, x.outcome.map f⟩ from map_mk x.trace x.outcome f]
  rfl

theorem after_after (marks marks' : List Event) (x : Traced α) :
    (x.after marks').after marks = x.after (marks ++ marks') :=
  congrArg (Traced.mk · x.outcome) (List.append_assoc marks marks' x.trace).symm

theorem trace_after_pure (marks : List Event) (a : α) :
    ((pure a : Traced α).after marks).trace = marks :=
  List.append_nil marks

end Traced

end SequenceKit
