import SequenceKit.Instrumented.Tally
import SequenceKit.Instrumented.Virtual
import SequenceKit.Session.Read
import SequenceKit.Session.Write

/-!
# Sessions

A session runs steps on one container, one after the other; what a step has changed the later
ones see.

* `Subject` — what the steps run on: stored elements of some kind, or any other sequence, which
  can only be read.
* `Session` — the subject, the name of its type, and the short names remembered so far.
* **`Session.step`**, **`Session.run`** — one step, and all of them.
-/

namespace SequenceKit

/-- What the steps of a session run on. -/
inductive Subject (α : Type) where
  | stored (kind : Kind) (elements : Storage α)
  /-- A sequence that is only read, behind layers. -/
  | foreign (sequence : Sequence α)

/-- The subject as a sequence. -/
def Subject.sequence {α : Type} [BEq α] : Subject α → Sequence α
  | stored kind elements => kind.sequence elements
  | foreign sequence => sequence

/-- A container in the course of its steps. -/
structure Session (α : Type) where
  subject : Subject α
  /-- The name of the container's type. -/
  name : TypeName
  /-- The short names remembered so far. -/
  names : NameCache

namespace Session

variable {α : Type} [BEq α] [Element α]

/-- A writing step; only stored elements can be written to. -/
def change (s : Session α) (c : Change α) : Report α × Session α :=
  match s.subject with
  | .stored kind elements =>
      let (report, elements') := kind.change elements c
      (report, { s with subject := .stored kind elements' })
  | .foreign _ => (.unsupported, s)

/-- A step that only an immutable list knows. -/
def listStep (s : Session α) (l : ListStep α) : Report α :=
  match s.subject with
  | .stored kind elements => if kind.isList then l.run elements else .unsupported
  | .foreign _ => .unsupported

/-- One step: its report, and the session afterwards. -/
def step (s : Session α) : Step α → Report α × Session α
  | .read views q => (s.subject.sequence.read s.name views q, s)
  | .glance views g =>
      let (report, names) := s.subject.sequence.glance s.name s.names views g
      (report, { s with names })
  | .change c => s.change c
  | .list l => (s.listStep l, s)
  | .unknown => (.unsupported, s)

/-- All steps in order, each on what the ones before have left. -/
def run (s : Session α) : List (Step α) → List (Report α)
  | [] => []
  | st :: later =>
      let (report, s') := s.step st
      report :: run s' later

end Session

end SequenceKit
