import SequenceKit.Proofs.Session.Meaning
import SequenceKit.Session.Write

/-!
# What a history leaves

A container is written to step by step.  Some steps it does not know, some stop with a fault, and
how its elements are spread over a deque depends on everything that went before.  Of all this a
reader sees only the elements and their order.

**Steps on lists.**  `Change.onList` says what a writing step does to the elements.  A write of
any other sort is a pass over all slots, and `Mutation` has both.

**Runs.**  `Mutation.run_onList` is one step, `Mutation.runAll_onList` any number of them: stored
elements go through a run as their list does, with the same replies.  That a kind of container
stores its elements in the way it is meant to is the invariant, `Kind.Fits`.

* **`answers_depend_on_contents`** — after any run, every reading step replies as on an immutable
  list that was just made of the elements that are left.
-/

namespace SequenceKit

variable {α : Type}

/-! ## Steps on lists -/

/-- What a writing step replies and leaves, on the elements alone. -/
def Change.onList [BEq α] [Element α] : Change α → List α → Reply α × List α
  | fill value, as => (.answer .nothing, as.map fun _ => value)
  | set place value, as => (.answer (.element as[place]?), as.set place value)
  | bump, as => (.answer .nothing, as.map Element.bump)
  | replace value replacement, as =>
      (.answer (.number (as.countP (· == value))),
        as.map fun a => if a == value then replacement else a)
  | clampToFirst, [] => (.answer .nothing, [])
  | clampToFirst, bound :: rest =>
      (.answer .nothing,
        (bound :: rest).map fun a => if Element.greater a bound then bound else a)
  | iterMut, as => (.answer (.elements as), as)
  | pushBack value, as => (.answer .nothing, as ++ [value])
  | popBack, as =>
      match as.getLast? with
      | some a => (.answer (.element (some a)), as.dropLast)
      | none => (.answer .nothing, as)
  | clear, _ => (.answer .nothing, [])
  | pushFront value, as => (.answer .nothing, value :: as)
  | popFront, [] => (.answer .nothing, [])
  | popFront, a :: rest => (.answer (.element (some a)), rest)
  | rotateLeft n, as =>
      if n ≤ as.length then (.answer .nothing, as.drop n ++ as.take n)
      else (.fault .rotationTooLong, as)
  | clone, as => (.answer (.elements as), as)
  | clonePush value, as => (.answer (.lists [as, as ++ [value]]), as)

/-- Something that may change stored elements: a writing step, or any other pass over the slots.
What the pass does may depend on all the elements, as those who hold all the slots at once can
read them before they write. -/
inductive Mutation (α : Type) : Type 1 where
  | step (c : Change α)
  | write {σ : Type} (start : List α → σ) (p : Pass σ α)

namespace Mutation

/-- A mutation of stored elements: its reply, and what it leaves. -/
def run [BEq α] [Element α] (k : Kind) (s : Storage α) : Mutation α → Reply α × Storage α
  | step c => ((k.change s c).1.reply, (k.change s c).2)
  | write start p =>
      if k.writable then (.answer .nothing, (s.pass p (start s.toList)).2) else (.unsupported, s)

/-- A mutation on the elements alone.  A step that the kind of container does not know does
nothing. -/
def onList [BEq α] [Element α] (k : Kind) (as : List α) : Mutation α → Reply α × List α
  | step c => if c.admitted k then c.onList as else (.unsupported, as)
  | write start p =>
      if k.writable then (.answer .nothing, (p.onList (start as) as).2) else (.unsupported, as)

/-- Mutations one after the other, each on what the ones before have left. -/
def runAll {σ : Type} (run : σ → Mutation α → Reply α × σ) :
    σ → List (Mutation α) → List (Reply α) × σ
  | s, [] => ([], s)
  | s, m :: later =>
      ((run s m).1 :: (runAll run (run s m).2 later).1, (runAll run (run s m).2 later).2)

end Mutation

/-- A mutation that the container does not know, or that stops with a fault. -/
def Reply.Failed : Reply α → Prop
  | unsupported | fault _ => True
  | answer _ | error _ => False

/-! ## Fit storage -/

/-- Whether elements are stored in a deque. -/
def Storage.isDeque : Storage α → Bool
  | row _ => false
  | deque _ => true

/-- Elements are stored in a deque exactly if the kind of container is one. -/
def Kind.Fits (k : Kind) (s : Storage α) : Prop :=
  s.isDeque = (k.shape == .deque)

lemma Kind.fits_store (k : Kind) (items : List α) : k.Fits (k.store items) := by
  cases k with
  | mk shape layers => cases shape <;> rfl

/-- New elements are stored in their order. -/
lemma Kind.toList_store (k : Kind) (items : List α) : (k.store items).toList = items := by
  cases k with
  | mk shape layers => cases shape <;> simp [Kind.store, Storage.toList]

namespace Storage

lemma isDeque_pass {σ : Type} (s : Storage α) (p : Pass σ α) (t : σ) :
    (s.pass p t).2.isDeque = s.isDeque := by
  cases s <;> rfl

lemma isDeque_answerPass {σ : Type} (s : Storage α) (p : Pass σ α) (start : σ)
    (answer : σ → Answer α) : (s.answerPass p start answer).2.isDeque = s.isDeque :=
  s.isDeque_pass p start

lemma isDeque_pushBack (a : α) (s : Storage α) : (s.pushBack a).isDeque = s.isDeque := by
  cases s <;> rfl

lemma isDeque_cleared (s : Storage α) : s.cleared.isDeque = s.isDeque := by
  cases s <;> rfl

lemma isDeque_of_popBack? {s s' : Storage α} {a : α} (h : s.popBack? = some (a, s')) :
    s'.isDeque = s.isDeque := by
  cases s with
  | row items =>
      obtain ⟨b, -, eq⟩ := Option.map_eq_some_iff.mp h
      cases eq
      rfl
  | deque d =>
      obtain ⟨b, -, eq⟩ := Option.map_eq_some_iff.mp h
      cases eq
      rfl

lemma isDeque_atFront (s : Storage α) (step : Deque α → Report α × Deque α) :
    (s.atFront step).2.isDeque = s.isDeque := by
  cases s <;> rfl

/-- A pass with an answer does to the elements what it does to their list. -/
lemma answerPass_onList {σ : Type} (s : Storage α) (p : Pass σ α) (start : σ)
    (answer : σ → Answer α) :
    ((s.answerPass p start answer).1.reply, (s.answerPass p start answer).2.toList) =
      (.answer (answer (p.onList start s.toList).1), (p.onList start s.toList).2) := by
  rw [← s.pass_toList p start]
  rfl

end Storage

section Steps

variable [BEq α] [Element α]

/-- No writing step changes the way in which elements are stored. -/
lemma Change.isDeque_run (c : Change α) (s : Storage α) :
    (c.run s).2.isDeque = s.isDeque := by
  cases c with
  | fill value => exact s.isDeque_answerPass _ _ _
  | set place value => exact s.isDeque_answerPass _ _ _
  | bump => exact s.isDeque_answerPass _ _ _
  | replace value replacement => exact s.isDeque_answerPass _ _ _
  | clampToFirst =>
      rw [run]
      split
      · rfl
      · exact s.isDeque_answerPass _ _ _
  | iterMut => rfl
  | pushBack value => exact s.isDeque_pushBack value
  | popBack =>
      rw [run]
      split
      case h_1 popped => exact Storage.isDeque_of_popBack? popped
      case h_2 => rfl
  | clear => exact s.isDeque_cleared
  | pushFront value => exact s.isDeque_atFront _
  | popFront => exact s.isDeque_atFront _
  | rotateLeft n => exact s.isDeque_atFront _
  | clone => rfl
  | clonePush value => rfl

/-! ## One step -/

/-- A pop at the front takes the head of the list. -/
lemma Change.run_popFront (d : Deque α) :
    ((popFront.run (.deque d)).1.reply, (popFront.run (.deque d)).2.toList) =
      popFront.onList d.toList := by
  rw [run, Storage.atFront]
  cases popped : d.popFront? with
  | none =>
      rw [Deque.toList_of_popFront?_eq_none popped]
      exact congrArg (_, ·) (Deque.toList_of_popFront?_eq_none popped)
  | some found =>
      rw [Deque.toList_of_popFront? popped]
      rfl

/-- A rotation moves the front of the list behind its back, or is refused. -/
lemma Change.run_rotateLeft (n : Nat) (d : Deque α) :
    (((rotateLeft n).run (.deque d)).1.reply, ((rotateLeft n).run (.deque d)).2.toList) =
      (rotateLeft n).onList d.toList := by
  rw [run, Storage.atFront, onList]
  cases turned : d.rotateLeft? n with
  | none =>
      have past := Deque.rotateLeft?_eq_none_iff.mp turned
      rw [if_neg (by omega)]
      rfl
  | some d' =>
      have inside : n ≤ d.toList.length := by
        by_contra past
        rw [Deque.rotateLeft?_eq_none_iff.mpr (by omega)] at turned
        cases turned
      rw [if_pos inside, ← Deque.toList_rotateLeft turned]
      rfl

/-- A writing step does to stored elements what it does to their list. -/
lemma Change.run_onList {k : Kind} {s : Storage α} (fits : k.Fits s) {c : Change α}
    (admitted : c.admitted k = true) :
    ((c.run s).1.reply, (c.run s).2.toList) = c.onList s.toList := by
  -- only a deque is admitted to the steps at the front
  have front (step : k.hasFront = true) : ∃ d, s = .deque d := by
    rw [Kind.hasFront, Bool.and_eq_true] at step
    rw [Kind.Fits, step.1] at fits
    cases s with
    | row items => cases fits
    | deque d => exact ⟨d, rfl⟩
  cases c with
  | fill value =>
      rw [run, s.answerPass_onList, Pass.fill, Pass.onList_each]
      rfl
  | set place value =>
      have put := Pass.onList_put 0 place value none s.toList
      rw [Nat.zero_add] at put
      rw [run, s.answerPass_onList, put, Option.or_none]
      rfl
  | bump =>
      rw [run, s.answerPass_onList, Pass.onList_each]
      rfl
  | replace value replacement =>
      rw [run, s.answerPass_onList, Pass.onList_replace, Nat.zero_add]
      rfl
  | clampToFirst =>
      rw [run]
      cases elements : s.toList with
      | nil => simp only [elements]; rfl
      | cons bound rest =>
          simp only
          rw [s.answerPass_onList, Pass.limit, Pass.onList_each, elements]
          rfl
  | iterMut => rfl
  | pushBack value =>
      rw [run, s.toList_pushBack]
      rfl
  | popBack =>
      rw [run]
      split
      case h_1 a s' popped =>
        rw [Storage.toList_of_popBack? popped, onList, List.getLast?_concat, List.dropLast_concat]
        rfl
      case h_2 none_left =>
        rw [Storage.toList_of_popBack?_eq_none none_left]
        rfl
  | clear =>
      rw [run, s.toList_cleared]
      rfl
  | pushFront value =>
      obtain ⟨d, rfl⟩ := front admitted
      rfl
  | popFront =>
      obtain ⟨d, rfl⟩ := front admitted
      exact run_popFront d
  | rotateLeft n =>
      obtain ⟨d, rfl⟩ := front admitted
      exact run_rotateLeft n d
  | clone => rfl
  | clonePush value =>
      rw [run, s.toList_pushBack]
      rfl

namespace Mutation

/-- A mutation keeps the way in which elements are stored. -/
lemma fits_run {k : Kind} {s : Storage α} (fits : k.Fits s) (m : Mutation α) :
    k.Fits (m.run k s).2 := by
  have kept : (m.run k s).2.isDeque = s.isDeque := by
    cases m with
    | step c =>
        rw [run, Kind.change]
        split
        · exact c.isDeque_run s
        · rfl
    | write start p =>
        rw [run]
        split
        · exact s.isDeque_pass p _
        · rfl
  exact kept.trans fits

/-- A mutation does to stored elements what it does to their list. -/
lemma run_onList {k : Kind} {s : Storage α} (fits : k.Fits s) (m : Mutation α) :
    ((m.run k s).1, (m.run k s).2.toList) = m.onList k s.toList := by
  cases m with
  | step c =>
      rw [run, onList, Kind.change]
      split
      case isTrue admitted => exact Change.run_onList fits admitted
      case isFalse => rfl
  | write start p =>
      rw [run, onList]
      split
      · rw [← s.pass_toList p]
      · rfl

/-- A mutation that fails leaves the elements as they were. -/
lemma onList_of_failed {k : Kind} {as : List α} {m : Mutation α}
    (failed : (m.onList k as).1.Failed) : (m.onList k as).2 = as := by
  cases m with
  | step c =>
      rw [onList] at failed ⊢
      split
      case isFalse => rfl
      case isTrue admitted =>
        rw [if_pos admitted] at failed
        -- of the steps that are known, only a rotation can fail
        cases c with
        | rotateLeft n =>
            rw [Change.onList] at failed ⊢
            split
            case isFalse => rfl
            case isTrue inside =>
              rw [if_pos inside] at failed
              exact failed.elim
        | clampToFirst => cases as <;> exact failed.elim
        | popFront => cases as <;> exact failed.elim
        | popBack =>
            rw [Change.onList] at failed
            split at failed <;> exact failed.elim
        | _ => exact failed.elim
  | write start p =>
      rw [onList] at failed ⊢
      split
      case isFalse => rfl
      case isTrue writable =>
        rw [if_pos writable] at failed
        exact failed.elim

/-! ## Runs -/

/-- A run on stored elements is a run on their list: it gives the same replies, and leaves what
is left of the list, stored in the same way. -/
lemma runAll_onList {k : Kind} (ms : List (Mutation α)) : ∀ {s : Storage α}, k.Fits s →
    ((runAll (fun s m => m.run k s) s ms).1, (runAll (fun s m => m.run k s) s ms).2.toList) =
        runAll (fun as m => m.onList k as) s.toList ms ∧
      k.Fits (runAll (fun s m => m.run k s) s ms).2 := by
  induction ms with
  | nil => exact fun fits => ⟨rfl, fits⟩
  | cons m later ih =>
      intro s fits
      have step := run_onList fits m
      obtain ⟨rest, fits'⟩ := ih (fits_run fits m)
      refine ⟨?_, fits'⟩
      rw [runAll, runAll, ← step]
      exact congrArg (fun left => ((m.run k s).1 :: left.1, left.2)) rest

end Mutation

/-! ## Reading what is left -/

/-- The kind of an immutable list, with nothing in front of it. -/
def Kind.list : Kind :=
  ⟨.frozen, []⟩

omit [Element α] in
/-- Stored elements behind layers are a sequence of default bodies. -/
lemma Kind.sequence_eq (k : Kind) (s : Storage α) : k.sequence s = s.access.sequence :=
  Access.stack_sequence rfl k.layers

omit [Element α] in
/-- Stored elements of any kind, through any number of views, reply what a step means. -/
lemma Kind.reply_read (k : Kind) (s : Storage α) (name : TypeName) (views : Nat) {q : Query α}
    (inRange : q.InRange s.toList.length) :
    ((k.sequence s).read name views q).reply = q.onList s.toList := by
  rw [k.sequence_eq, Sequence.reply_read rfl rfl, Query.reply_run s.holds rfl inRange]

/-- **Answers depend on the contents alone.**  Let a container of any kind, behind any layers, go
through any run of mutations, failing ones among them.  Its elements are then those that are left
of the list it was made of, and the replies on the way were those of that list.  Whatever is read
afterwards, through any number of views, has the reply that an immutable list gives which was
just made of these elements.  A mutation that the container does not know or that stops with a
fault leaves the elements as they were, and so does a write behind the last of them. -/
theorem answers_depend_on_contents (k : Kind) (items : List α) (ms : List (Mutation α)) :
    let run := Mutation.runAll (fun s m => m.run k s) (k.store items) ms
    let meant := Mutation.runAll (fun as m => m.onList k as) items ms
    let fresh := Kind.list.sequence (Kind.list.store meant.2)
    (run.1 = meant.1 ∧ run.2.toList = meant.2) ∧
      (∀ (name : TypeName) (views : Nat) (q : Query α), q.InRange meant.2.length →
        ((k.sequence run.2).read name views q).reply = (q.run fresh).reply) ∧
      (∀ m : Mutation α, (m.run k run.2).1.Failed → (m.run k run.2).2.toList = meant.2) ∧
      (∀ (place : Nat) (value : α), meant.2.length ≤ place →
        ((Mutation.step (.set place value)).run k run.2).2.toList = meant.2) := by
  intro run meant fresh
  obtain ⟨same, fits⟩ := Mutation.runAll_onList ms (k.fits_store items)
  rw [k.toList_store] at same
  have left : run.2.toList = meant.2 := congrArg Prod.snd same
  have next (m : Mutation α) :
      ((m.run k run.2).1, (m.run k run.2).2.toList) = m.onList k meant.2 := by
    rw [← left]
    exact Mutation.run_onList fits m
  refine ⟨⟨congrArg Prod.fst same, left⟩, ?_, ?_, ?_⟩
  · intro name views q inRange
    have stored : (Kind.list.store meant.2).toList = meant.2 := Kind.list.toList_store meant.2
    have here := k.reply_read run.2 name views (left.symm ▸ inRange)
    have there := Kind.list.reply_read (Kind.list.store meant.2) name 0 (stored.symm ▸ inRange)
    rw [here, left, ← stored, ← there]
    rfl
  · intro m failed
    have reply : (m.run k run.2).1 = (m.onList k meant.2).1 := congrArg Prod.fst (next m)
    exact (congrArg Prod.snd (next m)).trans (Mutation.onList_of_failed (reply ▸ failed))
  · intro place value past
    refine (congrArg Prod.snd (next (.step (.set place value)))).trans ?_
    rw [Mutation.onList]
    split
    · exact List.set_eq_of_length_le past
    · rfl

end Steps

/-- A deque inside two newtypes, turned with success and turned too far, then written to past its
end and in every slot. -/
theorem answers_depend_on_contents_turned :
    let k : Kind := ⟨.deque, [.newtype, .newtype]⟩
    let ms : List (Mutation Int64) :=
      [.step (.pushFront 0), .step (.rotateLeft 2), .step (.rotateLeft 9), .step (.set 7 5),
        .write List.length fun n a => (n + 1, a + 1)]
    let left := (Mutation.runAll (fun s m => m.run k s) (k.store [1, 2, 3]) ms).2
    left.toList = [3, 4, 1, 2] ∧
      ((k.sequence left).read (.path ["Wrap"] []) 2 (.get 3)).reply =
        .answer (.element (some 2)) := by
  intro k ms left
  have all := answers_depend_on_contents k [1, 2, 3] ms
  exact ⟨all.1.2, all.2.1 _ 2 (.get 3) (show 3 < 4 by decide)⟩

end SequenceKit
