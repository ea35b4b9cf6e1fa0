import SequenceKit.Proofs.Session.History

/-!
# Written slots are the slots that are read

A container shows its elements in three ways: by its cursor, by position, and to a pass with write
access.  All three meet the same slots in the same order, however the elements are stored and
however many newtypes lie around them.

**Write access behind layers.**  `Kind.pass?` hands a pass from layer to layer.  A newtype hands it
on because traversal with write access is among the methods that it can take over; a view takes
over none that writes, and an immutable list has none to begin with.  `Kind.pass?_eq` says that
this leaves exactly the kinds that are writable, and that the pass arrives at the stored elements.

**Passes in use.**  Replacing a value counts what the counting lookup counts (`countP_replaced`).
Limiting the elements to the first of them leaves the first as it is, so a second time there is
nothing left to do (`limitTo_limitTo`); neither needs any law of the comparisons.

* **`pass_reaches_slots_read`** — what is read after one pass.
-/

namespace SequenceKit

variable {α σ : Type}

/-! ## Write access behind layers -/

/-- The methods with write access that a layer can hand on. -/
def Layer.writingMethods : Layer → List Method
  | view => []
  | newtype => Capability.mutIterable.methods

/-- A pass over a container behind layers, if all of them hand it on. -/
def passThrough? (p : Pass σ α) (t : σ) : List Layer → Storage α → Option (σ × Storage α)
  | [], s => some (s.pass p t)
  | layer :: inner, s =>
      if .iterMut ∈ layer.writingMethods then passThrough? p t inner s else none

/-- A pass over a container of a kind, if it gives write access. -/
def Kind.pass? (k : Kind) (p : Pass σ α) (t : σ) (s : Storage α) : Option (σ × Storage α) :=
  if k.shape = .frozen then none else passThrough? p t k.layers s

lemma passThrough?_eq (p : Pass σ α) (t : σ) (layers : List Layer) (s : Storage α) :
    passThrough? p t layers s = if layers.contains .view then none else some (s.pass p t) := by
  induction layers with
  | nil => rfl
  | cons layer inner ih =>
      cases layer with
      | view =>
          have none_left : Method.iterMut ∉ Layer.view.writingMethods := by
            simp [Layer.writingMethods]
          rw [passThrough?, if_neg none_left]
          simp
      | newtype =>
          have handed_on : Method.iterMut ∈ Layer.newtype.writingMethods := by
            simp [Layer.writingMethods, Capability.methods]
          rw [passThrough?, if_pos handed_on, ih]
          simp

/-- Just the writable kinds give write access, and they give it to what they store. -/
lemma Kind.pass?_eq (k : Kind) (p : Pass σ α) (t : σ) (s : Storage α) :
    k.pass? p t s = if k.writable then some (s.pass p t) else none := by
  obtain ⟨shape, layers⟩ := k
  rw [pass?, passThrough?_eq, writable]
  by_cases frozen : shape = .frozen
  · simp [frozen]
  · cases seen : layers.contains .view <;> simp [frozen]

/-! ## Passes in use -/

/-- Where the elements that pass a test have been replaced, as many pass it as before if the
replacement does, and none otherwise. -/
lemma countP_replaced (p : α → Bool) (replacement : α) (as : List α) :
    (as.map fun a => if p a then replacement else a).countP p =
      if p replacement then as.countP p else 0 := by
  induction as with
  | nil => simp
  | cons a rest ih =>
      rw [List.map_cons, List.countP_cons, List.countP_cons, ih]
      by_cases hit : p a = true
      · by_cases again : p replacement = true
        · simp [hit, again]
        · simp [hit, again]
      · simp [hit]

/-- An element, or the bound if the element is above it. -/
def limitTo (greater : α → α → Bool) (bound a : α) : α :=
  if greater a bound then bound else a

lemma limitTo_self (greater : α → α → Bool) (bound : α) : limitTo greater bound bound = bound := by
  simp [limitTo]

lemma limitTo_limitTo (greater : α → α → Bool) (bound a : α) :
    limitTo greater bound (limitTo greater bound a) = limitTo greater bound a := by
  by_cases above : greater a bound = true
  · have limited : limitTo greater bound a = bound := by simp [limitTo, above]
    rw [limited, limitTo_self]
  · have kept : limitTo greater bound a = a := by simp [limitTo, above]
    rw [kept, kept]

namespace Storage

/-- The same storage with every element changed. -/
def map (f : α → α) : Storage α → Storage α
  | row items => row (items.map f)
  | deque d => deque ⟨d.front.map f, d.back.map f⟩

lemma toList_map (f : α → α) (s : Storage α) : (s.map f).toList = s.toList.map f := by
  cases s with
  | row items => simp [map, toList]
  | deque d => simp [map, toList, Deque.toList]

lemma map_map_of_idem {f : α → α} (idem : ∀ a, f (f a) = f a) (s : Storage α) :
    (s.map f).map f = s.map f := by
  have twice : f ∘ f = f := funext idem
  cases s with
  | row items => simp [map, twice]
  | deque d => simp [map, twice]

/-- Changing every slot keeps the elements where they are stored. -/
lemma pass_each (f : α → α) (s : Storage α) : s.pass (.each f) () = ((), s.map f) := by
  cases s with
  | row items =>
      rw [pass, Pass.onList_each, ← Array.toList_map]
      rfl
  | deque d => simp [pass, Deque.pass, Pass.onList_each, map]

end Storage

/-! ## Reading what was written -/

/-- Whatever lies around stored elements, size, cursor and reads show them. -/
lemma Kind.holds [BEq α] (k : Kind) (s : Storage α) : (k.sequence s).Holds s.toList := by
  rw [k.sequence_eq]
  exact s.holds

section Steps

variable [BEq α] [Element α] {k : Kind} (writable : k.writable = true) (s : Storage α)

include writable

/-- A step that overwrites by a pass is that pass, and answers from its last state. -/
lemma Kind.change_replace (value replacement : α) :
    ∃ s', k.pass? (.replace value replacement) 0 s =
        some (s.toList.countP (· == value), s') ∧
      k.change s (.replace value replacement) =
        (.ofAnswer (.number (s.toList.countP (· == value))), s') ∧
      s'.toList = s.toList.map fun a => if a == value then replacement else a := by
  have whole := s.pass_toList (.replace value replacement) 0
  rw [Pass.onList_replace, Nat.zero_add] at whole
  have number := congrArg Prod.fst whole
  have elements := congrArg Prod.snd whole
  dsimp only at number
  refine ⟨(s.pass (.replace value replacement) 0).2, ?_, ?_, elements⟩
  · rw [k.pass?_eq, if_pos writable, ← number]
  · have admitted : (Change.replace value replacement).admitted k = true := writable
    rw [Kind.change, if_pos admitted, Change.run, Storage.answerPass]
    dsimp only
    rw [number]

lemma Kind.change_clampToFirst {bound : α} {rest : List α} (elements : s.toList = bound :: rest) :
    k.pass? (.limit Element.greater bound) () s =
        some ((), s.map (limitTo Element.greater bound)) ∧
      k.change s .clampToFirst =
        (.ofAnswer .nothing, s.map (limitTo Element.greater bound)) := by
  have passed : s.pass (.limit Element.greater bound) () =
      ((), s.map (limitTo Element.greater bound)) := s.pass_each (limitTo Element.greater bound)
  constructor
  · rw [k.pass?_eq, if_pos writable, passed]
  · have admitted : (Change.clampToFirst : Change α).admitted k = true := writable
    rw [Kind.change, if_pos admitted, Change.run]
    simp only [elements]
    rw [Storage.answerPass, passed]

lemma Kind.change_clampToFirst_nil (elements : s.toList = []) :
    k.change s .clampToFirst = (.ofAnswer .nothing, s) := by
  have admitted : (Change.clampToFirst : Change α).admitted k = true := writable
  rw [Kind.change, if_pos admitted, Change.run]
  simp only [elements]

end Steps

/-- **A pass with write access reaches the slots that are read.**  Let a writable container of any
kind, behind any number of newtypes, hold the elements `as`, stored in whatever way its history
has left.

* A pass that changes every element by `g` arrives; afterwards the size is as before, the cursor
  runs over the changed elements in order, and each position shows its element changed.
* A pass that carries a state along meets the elements in the order of the cursor.
* Replacing the elements that equal a value is one such pass and reports their earlier number.  The
  later one is the same if the replacement equals the value, and 0 otherwise.  Both are what the
  counting lookup tells, and they are words wherever the size is one.
* The bound of a clamping pass is what the cursor yields first.  With nothing to yield there is
  nothing to do; otherwise just the elements above the bound become the bound, and a second
  clamping leaves everything as it is. -/
theorem pass_reaches_slots_read [BEq α] [Element α] {k : Kind} (writable : k.writable = true)
    (s : Storage α) :
    let as := s.toList
    (k.sequence s).Holds as ∧
    (∀ g : α → α, ∃ s', k.pass? (.each g) () s = some ((), s') ∧
      (k.sequence s').size.outcome = .ok as.length ∧
      ((k.sequence s').iter >>= Cursor.collect).outcome = .ok (as.map g) ∧
      ∀ (i : Nat) (a : α), as[i]? = some a → ((k.sequence s').get i).outcome = .ok (g a)) ∧
    (∀ {τ : Type} (p : Pass τ α) (t : τ), ∃ s',
      k.pass? p t s = some ((p.onList t as).1, s') ∧ (k.sequence s').Holds (p.onList t as).2) ∧
    (∀ value replacement : α, ∃ n s',
      ((k.sequence s).count value).outcome = (Word.total n).outcome ∧
      k.pass? (.replace value replacement) 0 s = some (n, s') ∧
      k.change s (.replace value replacement) = (.ofAnswer (.number n), s') ∧
      ((k.sequence s').count value).outcome =
        (Word.total (if replacement == value then n else 0)).outcome) ∧
    ((k.sequence s).iter >>= Cursor.take 1).outcome = .ok (as.take 1) ∧
    (as = [] → k.change s .clampToFirst = (.ofAnswer .nothing, s)) ∧
    ∀ (bound : α) (rest : List α), as = bound :: rest → ∃ s',
      k.pass? (.limit Element.greater bound) () s = some ((), s') ∧
      k.change s .clampToFirst = (.ofAnswer .nothing, s') ∧
      (k.sequence s').Holds (as.map fun a => if Element.greater a bound then bound else a) ∧
      k.change s' .clampToFirst = (.ofAnswer .nothing, s') := by
  intro as
  have arrives {τ : Type} (p : Pass τ α) (t : τ) : k.pass? p t s = some (s.pass p t) := by
    rw [k.pass?_eq, if_pos writable]
  refine ⟨k.holds s, ?_, ?_, ?_, ?_, k.change_clampToFirst_nil writable s, ?_⟩
  · intro g
    have shown : (k.sequence (s.map g)).Holds (as.map g) := by
      rw [← s.toList_map]
      exact k.holds _
    refine ⟨s.map g, by rw [arrives, s.pass_each], ?_, ?_, ?_⟩
    · simpa using shown.size
    · obtain ⟨c, made, yields⟩ := shown.iter
      rw [Traced.outcome_bind_of_ok made, yields.outcome_collect]
    · intro i a stored
      refine shown.get ?_
      rw [List.getElem?_map, stored]
      rfl
  · intro τ p t
    have whole := s.pass_toList p t
    refine ⟨(s.pass p t).2, ?_, ?_⟩
    · rw [arrives, ← congrArg Prod.fst whole]
    · rw [← congrArg Prod.snd whole]
      exact k.holds _
  · intro value replacement
    obtain ⟨s', passed, changed, elements⟩ := k.change_replace writable s value replacement
    refine ⟨_, s', ?_, passed, changed, ?_⟩
    · rw [k.sequence_eq]
      exact s.holds.outcome_count value
    · have later := s'.holds.outcome_count value
      rw [elements, countP_replaced (· == value)] at later
      rw [k.sequence_eq]
      exact later
  · obtain ⟨c, made, yields⟩ := (k.holds s).iter
    rw [Traced.outcome_bind_of_ok made, yields.outcome_take]
  · intro bound rest elements
    have limited : (s.map (limitTo Element.greater bound)).toList =
        bound :: rest.map (limitTo Element.greater bound) := by
      rw [s.toList_map, show s.toList = bound :: rest from elements, List.map_cons, limitTo_self]
    obtain ⟨passed, changed⟩ := k.change_clampToFirst writable s elements
    refine ⟨_, passed, changed, ?_, ?_⟩
    · have shown := k.holds (s.map (limitTo Element.greater bound))
      rw [s.toList_map] at shown
      exact shown
    · rw [(k.change_clampToFirst writable _ limited).2,
        Storage.map_map_of_idem (limitTo_limitTo Element.greater bound)]

/-- Numbers whose comparison is reflexive and not symmetric, in a deque inside two newtypes, with
the elements on both of its sides. -/
theorem pass_reaches_slots_read_one_sided :
    let k : Kind := ⟨.deque, [.newtype, .newtype]⟩
    let s : Storage AtMost := .deque ⟨[⟨5⟩, ⟨9⟩], [⟨7⟩, ⟨1⟩]⟩
    k.writable = true ∧
      (∃ s', k.pass? (.each Element.bump) () s = some ((), s') ∧
        ((k.sequence s').iter >>= Cursor.collect).outcome = .ok [⟨6⟩, ⟨10⟩, ⟨2⟩, ⟨8⟩]) ∧
      ∃ s', k.change s .clampToFirst = (.ofAnswer .nothing, s') ∧
        (k.sequence s').Holds [⟨5⟩, ⟨5⟩, ⟨1⟩, ⟨5⟩] := by
  intro k s
  have writable : k.writable = true := rfl
  have all := pass_reaches_slots_read writable s
  obtain ⟨s₁, passed, -, yields, -⟩ := all.2.1 Element.bump
  obtain ⟨s₂, -, clamped, shown, -⟩ := all.2.2.2.2.2.2 ⟨5⟩ [⟨9⟩, ⟨1⟩, ⟨7⟩] rfl
  exact ⟨writable, ⟨s₁, passed, yields⟩, s₂, clamped, shown⟩

end SequenceKit
