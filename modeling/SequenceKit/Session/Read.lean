import SequenceKit.Sequence.View
import SequenceKit.Session.Step

/-!
# Reading steps

How a sequence, seen through any number of views, answers a reading step.

* `Query.run` — a reading step on a sequence.
* `Glance.run` — a step for a view.
* **`Sequence.read`**, **`Sequence.glance`** — the same through new views.
-/

namespace SequenceKit

variable {α : Type}

/-- A reading step on a sequence. -/
def Query.run (s : Sequence α) : Query α → Report α
  | size => .ofTraced .number s.size
  | isEmpty => .ofTraced .truth s.isEmpty
  | contains value => .ofTraced .truth (s.contains value)
  | hasMember value => .ofTraced .truth (s.hasMember value)
  | position value => .ofTraced .position (s.position value)
  | index value => .ofTraced .integer (s.index value)
  | count value => .ofTraced .number (s.count value)
  | indexBetween value start stop => .ofFallible .number (s.indexBetween value start stop)
  | checkedAt place => .ofFallible (.element ∘ some) (s.checkedAt place)
  | get place => .ofTraced (.element ∘ some) (s.get place)
  | first => .ofTraced .element s.first
  | last => .ofTraced .element s.last
  | iter => .ofTraced .elements do (← s.iter).collect
  | take n => .ofTraced .elements do (← s.iter).take n
  | backward => .ofTraced .elements s.backward
  | walk moves => .ofTraced .moves (s.walk moves)

/-- A step for a view. -/
def Glance.run (v : View α) (names : NameCache) : Glance α → Report α × NameCache
  | size => (.ofTraced .number v.ownSize, names)
  | isEmpty => (.ofTraced .truth v.ownIsEmpty, names)
  | contains value => (.ofTraced .truth (v.ownContains value), names)
  | index value => (.ofTraced .integer (v.ownIndex value), names)
  | count value => (.ofTraced .number (v.ownCount value), names)
  | text => named (v.debugText names)
  | copy => named (v.copyText names)
  | inner => (.ofTraced .elements v.innerElements, names)
  | into => (.ofTraced .elements v.intoElements, names)
where
  /-- The report of a text, beside the names remembered after it. -/
  named (x : Traced String × NameCache) : Report α × NameCache :=
    (.ofTraced .text x.1, x.2)

/-- Makes views and hands the outermost to a step.  The marks of the making come first, and a
fault in it ends the step. -/
def throughViews [BEq α] {β : Type} (name : TypeName) (s : Sequence α) (further : Nat)
    (failed : Report α → β) (step : View α → List Event → β) : β :=
  let made := View.nested name s further
  match made.outcome with
  | .ok v => step v made.trace
  | .error f => failed ⟨.fault f, made.trace⟩

/-- A reading step through a number of new views. -/
def Sequence.read [BEq α] (name : TypeName) (s : Sequence α) (views : Nat) (q : Query α) :
    Report α :=
  match views with
  | 0 => q.run s
  | further + 1 =>
      throughViews name s further id fun v marks => (q.run v.sequence).after marks

/-- A step for the outermost of a number of new views; without a view nobody knows it. -/
def Sequence.glance [BEq α] (name : TypeName) (s : Sequence α) (names : NameCache) (views : Nat)
    (g : Glance α) : Report α × NameCache :=
  match views with
  | 0 => (.unsupported, names)
  | further + 1 =>
      throughViews name s further (·, names) fun v marks =>
        let (report, names') := g.run v names
        (report.after marks, names')

end SequenceKit
