import SequenceKit.Element.Basic
import SequenceKit.Sequence.Reversed

/-!
# Steps and replies

What can be asked of a container, and what it answers.

* `Query` — reading steps, which any sequence answers.
* `Glance` — steps for the methods of a view of its own.
* `Change` — writing steps.
* `ListStep` — steps that only an immutable list knows.
* `Step`, `Answer`, `Reply`, `Report` — a step, a value, how a step ended, and its marks.
-/

namespace SequenceKit

/-- A reading step. -/
inductive Query (α : Type) where
  | size
  | isEmpty
  | contains (value : α)
  /-- Membership, as any container offers it. -/
  | hasMember (value : α)
  | position (value : α)
  | index (value : α)
  | count (value : α)
  | indexBetween (value : α) (start stop : Nat)
  | checkedAt (place : Nat)
  | get (place : Nat)
  | first
  | last
  | iter
  /-- The first elements of the cursor. -/
  | take (n : Nat)
  | backward
  | walk (moves : List Move)

/-- A step for the methods that a view has of its own. -/
inductive Glance (α : Type) where
  | size
  | isEmpty
  | contains (value : α)
  | index (value : α)
  | count (value : α)
  | text
  /-- The texts of a copy and a clone. -/
  | copy
  /-- The elements of the target. -/
  | inner
  /-- The elements of the view, given away. -/
  | into

/-- A writing step. -/
inductive Change (α : Type) where
  | fill (value : α)
  | set (place : Nat) (value : α)
  | bump
  | replace (value replacement : α)
  /-- Overwrites all elements above the first with it. -/
  | clampToFirst
  /-- The elements, by the cursor with write access. -/
  | iterMut
  | pushBack (value : α)
  | popBack
  | clear
  | pushFront (value : α)
  | popFront
  | rotateLeft (n : Nat)
  /-- The elements of a clone. -/
  | clone
  /-- The elements, and those of a clone with one more. -/
  | clonePush (value : α)

/-- A step that only an immutable list knows. -/
inductive ListStep (α : Type) where
  /-- The element at a position, in brackets. -/
  | item (place : Nat)
  /-- Its elements, however they are taken out. -/
  | elements
  /-- The elements of a new list. -/
  | build (items : List α)
  /-- Whether it equals a new list. -/
  | equals (items : List α)
  | text

/-- A step. -/
inductive Step (α : Type) where
  /-- Reads through a number of views. -/
  | read (views : Nat) (query : Query α)
  /-- Asks the outermost of a number of views. -/
  | glance (views : Nat) (glance : Glance α)
  | change (change : Change α)
  | list (step : ListStep α)
  /-- A step that no container knows. -/
  | unknown

/-- The value of a step. -/
inductive Answer (α : Type) where
  | nothing
  | truth (b : Bool)
  | number (n : Nat)
  | position (n : Option Nat)
  | integer (n : Int)
  | element (a : Option α)
  | elements (as : List α)
  | lists (as : List (List α))
  | moves (answers : List (Except Fault (MoveAnswer α)))
  | text (t : String)

/-- How a step ended. -/
inductive Reply (α : Type) where
  | answer (a : Answer α)
  | error (e : LookupError)
  | fault (f : Fault)
  /-- The container does not know the step. -/
  | unsupported

/-- How a step ended, and the marks it left. -/
structure Report (α : Type) where
  reply : Reply α
  trace : List Event

namespace Report

variable {α β : Type}

/-- The report of a computation whose value may be an error. -/
def ofFallible (answer : β → Answer α) (x : Traced (Except LookupError β)) : Report α where
  reply :=
    match x.outcome with
    | .ok (.ok b) => .answer (answer b)
    | .ok (.error e) => .error e
    | .error f => .fault f
  trace := x.trace

/-- The report of a computation. -/
def ofTraced (answer : β → Answer α) (x : Traced β) : Report α :=
  ofFallible answer (.ok <$> x)

/-- The report of a value that leaves no marks. -/
def ofAnswer (a : Answer α) : Report α :=
  ⟨.answer a, []⟩

/-- The report of a fault that leaves no marks. -/
def ofFault (f : Fault) : Report α :=
  ⟨.fault f, []⟩

/-- The report of a step that the container does not know. -/
def unsupported : Report α :=
  ⟨.unsupported, []⟩

/-- A report with further marks in front of its own. -/
def after (marks : List Event) (r : Report α) : Report α :=
  ⟨r.reply, marks ++ r.trace⟩

/-- The recorded calls, in order. -/
def calls (r : Report α) : List Call :=
  r.trace.filterMap Event.call?

/-- The log lines, in order. -/
def logs (r : Report α) : List LogLine :=
  r.trace.filterMap Event.log?

end Report

end SequenceKit
