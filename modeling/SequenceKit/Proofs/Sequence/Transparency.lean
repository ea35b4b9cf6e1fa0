import Mathlib.Tactic.Lemma
import SequenceKit.Sequence.Layer

/-!
# Layers are transparent

A layer forwards ten methods: size, cursor, read by position, the six lookups, and membership,
which is the lookup `contains` under the name that containers share.  Asking the outermost of any
number of layers for one of them is asking the sequence behind all of them.

**Requests.**  `Request` is one such call with its arguments, and `Sequence.ask` is what the call
leaves behind: value, refusal or fault, log lines, and calls on whatever records its calls.  An
equation between two `Sequence.ask` therefore says that nobody can tell the two apart.

**Watching.**  `Sequence.watched` notes every entry into a method of a sequence, so that a layer
which asks twice, or takes a way around the method, is caught even where the sequence itself
records nothing.

* `ask_forwarding` — what a layer does with a method that it forwards.
* `Layer.viewMethods_subset` — no layer leaves a request to a default body.
* **`stack_transparent`** — any number of layers, of any kinds, in any order.
-/

namespace SequenceKit

variable {α : Type}

/-- A call of a method that every layer forwards, with its arguments. -/
inductive Request (α : Type) where
  | size
  | iter
  | get (place : Nat)
  | contains (value : α)
  /-- Membership, as any container offers it. -/
  | hasMember (value : α)
  | position (value : α)
  | index (value : α)
  | count (value : α)
  | indexBetween (value : α) (start stop : Nat)
  | checkedAt (place : Nat)

namespace Request

/-- What a request is answered with, if there is no fault. -/
def Reply : Request α → Type
  | size | count _ => Nat
  | iter => Cursor α
  | get _ => α
  | contains _ | hasMember _ => Bool
  | position _ => Option Nat
  | index _ => Int
  | indexBetween .. => Except LookupError Nat
  | checkedAt _ => Except LookupError α

/-- The method that a request goes to.  Membership has none of its own. -/
def method : Request α → Method
  | size => .size
  | iter => .iter
  | get _ => .get
  | contains _ | hasMember _ => .contains
  | position _ => .position
  | index _ => .index
  | count _ => .count
  | indexBetween .. => .indexBetween
  | checkedAt _ => .checkedAt

/-- The call that a request is recorded as. -/
def call : Request α → Call
  | size => .size
  | iter => .iter
  | get place => .get place
  | contains _ | hasMember _ => .contains
  | position _ => .position
  | index _ => .index
  | count _ => .count
  | indexBetween .. => .indexBetween
  | checkedAt _ => .checkedAt

end Request

namespace Sequence

/-- What a request to a sequence leaves behind. -/
def ask (s : Sequence α) : (r : Request α) → Traced r.Reply
  | .size => s.size
  | .iter => s.iter
  | .get place => s.get place
  | .contains value => s.contains value
  | .hasMember value => s.hasMember value
  | .position value => s.position value
  | .index value => s.index value
  | .count value => s.count value
  | .indexBetween value start stop => s.indexBetween value start stop
  | .checkedAt place => s.checkedAt place

/-- The same sequence under watch: every entry into one of its methods is recorded in front of
what the method does. -/
def watched (s : Sequence α) : Sequence α where
  size := s.size.after [.call .size]
  isEmpty := s.isEmpty.after [.call .isEmpty]
  iter := s.iter.after [.call .iter]
  get place := (s.get place).after [.call (.get place)]
  contains value := (s.contains value).after [.call .contains]
  position value := (s.position value).after [.call .position]
  index value := (s.index value).after [.call .index]
  count value := (s.count value).after [.call .count]
  indexBetween value start stop := (s.indexBetween value start stop).after [.call .indexBetween]
  checkedAt place := (s.checkedAt place).after [.call .checkedAt]
  first := s.first.after [.call .first]
  last := s.last.after [.call .last]

/-- A request to a watched sequence is recorded once, in front of its own marks. -/
lemma ask_watched (s : Sequence α) (r : Request α) :
    s.watched.ask r = (s.ask r).after [.call r.call] := by
  cases r <;> rfl

/-! ## One layer -/

variable [BEq α]

/-- A layer answers a request for a method that it forwards as the sequence behind it does. -/
lemma ask_forwarding (s : Sequence α) {methods : List Method} {r : Request α}
    (h : r.method ∈ methods) : (s.forwarding methods).ask r = s.ask r := by
  -- size, cursor and read by position are forwarded by every layer, listed or not
  have primitive : (s.toAccess.forwarding methods).size = s.size ∧
      (s.toAccess.forwarding methods).iter = s.iter ∧
      (s.toAccess.forwarding methods).get = s.get := by
    rw [Access.forwarding]
    split <;> exact ⟨rfl, rfl, rfl⟩
  cases r with
  | size => exact primitive.1
  | iter => exact primitive.2.1
  | get place => exact congrFun primitive.2.2 place
  | contains value => exact congrFun (if_pos h) value
  | hasMember value => exact congrFun (if_pos h) value
  | position value => exact congrFun (if_pos h) value
  | index value => exact congrFun (if_pos h) value
  | count value => exact congrFun (if_pos h) value
  | indexBetween value start stop =>
      exact congrFun (congrFun (congrFun (if_pos h) value) start) stop
  | checkedAt place => exact congrFun (if_pos h) place

end Sequence

/-! ## Any number of layers -/

/-- A view forwards every request. -/
lemma Request.method_mem_viewMethods (r : Request α) : r.method ∈ viewMethods := by
  cases r <;> simp [Request.method, viewMethods]

/-- A newtype forwards what a view forwards, and maybe more. -/
lemma Layer.viewMethods_subset (layer : Layer) : ∀ m ∈ viewMethods, m ∈ layer.methods := by
  cases layer <;> decide

namespace Sequence

variable [BEq α]

/-- One layer changes no answer. -/
lemma ask_wrap (layer : Layer) (s : Sequence α) (r : Request α) :
    (s.wrap layer).ask r = s.ask r :=
  ask_forwarding s (layer.viewMethods_subset _ r.method_mem_viewMethods)

/-- Neither do several. -/
lemma ask_stack (layers : List Layer) (s : Sequence α) (r : Request α) :
    (s.stack layers).ask r = s.ask r := by
  induction layers with
  | nil => rfl
  | cons layer inner ih =>
      have outer : (s.stack (layer :: inner)).ask r = (s.stack inner).ask r :=
        ask_wrap layer (s.stack inner) r
      rw [outer, ih]

/-- **Layers are transparent at any depth.**  Whatever methods `s` has of its own, a request to
the outermost layer ends with the value, refusal or fault that `s` itself ends with, after the
same log lines and the same calls, in the same order; and on its way it enters `s` exactly once,
by the method that was asked for. -/
theorem stack_transparent (s : Sequence α) (layers : List Layer) (r : Request α) :
    (s.stack layers).ask r = s.ask r ∧
      (s.watched.stack layers).ask r = (s.ask r).after [.call r.call] := by
  refine ⟨ask_stack layers s r, ?_⟩
  rw [ask_stack, ask_watched]

end Sequence

end SequenceKit
