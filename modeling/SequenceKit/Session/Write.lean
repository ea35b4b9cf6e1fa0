import SequenceKit.Session.Kind
import SequenceKit.Session.Step

/-!
# Writing steps

How a container changes.  A step that the container does not know, or that stops with a fault,
leaves it as it was.

* `Change.admitted` — which kinds know a step.
* `Change.run` — the step on stored elements.
* **`Kind.change`** — both together.
-/

namespace SequenceKit

variable {α : Type}

/-- Whether a kind of container knows a writing step. -/
def Change.admitted (k : Kind) : Change α → Bool
  | fill _ | set _ _ | bump | replace _ _ | clampToFirst | iterMut => k.writable
  | pushBack _ | popBack | clear => k.growable
  | pushFront _ | popFront | rotateLeft _ => k.hasFront
  | clone => k.owns
  | clonePush _ => k.extensible

/-- Runs a pass and answers from its last state. -/
def Storage.answerPass {σ : Type} (s : Storage α) (p : Pass σ α) (start : σ)
    (answer : σ → Answer α) : Report α × Storage α :=
  let (t, s') := s.pass p start
  (.ofAnswer (answer t), s')

/-- The front end of a container; only a deque has one. -/
def Storage.atFront (s : Storage α) (step : Deque α → Report α × Deque α) :
    Report α × Storage α :=
  match s with
  | .deque d =>
      let (report, d') := step d
      (report, .deque d')
  | .row _ => (.unsupported, s)

/-- A writing step on stored elements. -/
def Change.run [BEq α] [Element α] (s : Storage α) : Change α → Report α × Storage α
  | fill value => s.answerPass (.fill value) () fun _ => .nothing
  | set place value => s.answerPass (.put place value) (0, none) fun t => .element t.2
  | bump => s.answerPass (.each Element.bump) () fun _ => .nothing
  | replace value replacement => s.answerPass (.replace value replacement) 0 .number
  | clampToFirst =>
      match s.toList with
      | [] => (.ofAnswer .nothing, s)
      | bound :: _ => s.answerPass (.limit Element.greater bound) () fun _ => .nothing
  | iterMut => (.ofAnswer (.elements s.toList), s)
  | pushBack value => (.ofAnswer .nothing, s.pushBack value)
  | popBack =>
      match s.popBack? with
      | some (a, s') => (.ofAnswer (.element (some a)), s')
      | none => (.ofAnswer .nothing, s)
  | clear => (.ofAnswer .nothing, s.cleared)
  | pushFront value => s.atFront fun d => (.ofAnswer .nothing, d.pushFront value)
  | popFront => s.atFront fun d =>
      match d.popFront? with
      | some (a, d') => (.ofAnswer (.element (some a)), d')
      | none => (.ofAnswer .nothing, d)
  | rotateLeft n => s.atFront fun d =>
      match d.rotateLeft? n with
      | some d' => (.ofAnswer .nothing, d')
      | none => (.ofFault .rotationTooLong, d)
  | clone => (.ofAnswer (.elements s.toList), s)
  | clonePush value => (.ofAnswer (.lists [s.toList, (s.pushBack value).toList]), s)

/-- A writing step on a container. -/
def Kind.change [BEq α] [Element α] (k : Kind) (s : Storage α) (c : Change α) :
    Report α × Storage α :=
  if c.admitted k then c.run s else (.unsupported, s)

/-- A step that only an immutable list knows. -/
def ListStep.run [BEq α] [Element α] (s : Storage α) : ListStep α → Report α
  | item place => .ofTraced (.element ∘ some) (s.get place)
  | elements => .ofAnswer (.elements s.toList)
  | build items => .ofAnswer (.elements items)
  | equals items => .ofAnswer (.truth (Frozen.mk s.toList == Frozen.mk items))
  | text => .ofAnswer (.text (Frozen.mk s.toList).text)

end SequenceKit
