import Mathlib.Logic.Relation
import SequenceKit.Session.Run

/-!
# Remembered names cannot be told from computed ones

A short name is looked up before it is computed, so what a call answers depends on the calls that
came before it, whether they were made for a name or for the text of a view.  It does so in form
only: what is remembered is what would be computed.

**The invariant.**  `NameCache.Sound` says that nothing but short names is remembered.  Every
change to a cache comes from `NameCache.shorten`, so `Sound.shorten` is the whole argument:
on a hit the answer is right because the cache is sound, on a miss it is computed.

**Nothing is forgotten.**  `NameCache.Extends` compares caches by what they find.  A name is added
only where none is found, so every later cache extends every earlier one.

**Runs.**  `NameCache.Uses` is one call, for a name or for a view, and a cache is reached from the
empty one by any number of them.

* `View.debugText_eq` — the text of a view, with what was remembered before out of the picture.
* `Session.run_names` — no session can tell one sound cache from another.
* **`remembered_names_unobservable`** — the cache after any run of calls, and the calls on it.
-/

namespace SequenceKit

namespace NameCache

/-! ## The invariant -/

/-- What is remembered is right, and no full name is entered twice. -/
structure Sound (names : NameCache) : Prop where
  right : ∀ entry ∈ names.entries, entry.2 = ShortName.shorten entry.1
  once : (names.entries.map Prod.fst).Nodup

/-- What `earlier` remembers, `later` remembers, too, and unchanged. -/
def Extends (later earlier : NameCache) : Prop :=
  ∀ ⦃full short : String⦄, earlier.find? full = some short → later.find? full = some short

lemma sound_empty : empty.Sound :=
  ⟨fun _ mem => absurd mem List.not_mem_nil, List.nodup_nil⟩

lemma Extends.refl (names : NameCache) : names.Extends names :=
  fun _ _ found => found

lemma Extends.trans {last later earlier : NameCache} (h : last.Extends later)
    (h' : later.Extends earlier) : last.Extends earlier :=
  fun _ _ found => h (h' found)

lemma Sound.of_find? {names : NameCache} (h : names.Sound) {full short : String}
    (found : names.find? full = some short) : short = ShortName.shorten full := by
  obtain ⟨before, behind, split, -⟩ := List.lookup_eq_some_iff.mp found
  exact h.right (full, short) (by rw [split]; simp)

/-! ## One call -/

section Call

variable {names : NameCache} {full : String}

lemma shorten_of_hit {short : String} (found : names.find? full = some short) :
    names.shorten full = (short, names) := by
  rw [shorten, found]

lemma shorten_of_miss (missing : names.find? full = none) :
    names.shorten full =
      (ShortName.shorten full, ⟨(full, ShortName.shorten full) :: names.entries⟩) := by
  rw [shorten, missing]

/-- **Hit or miss**, the answer is the short name, and the cache stays sound. -/
lemma Sound.shorten (h : names.Sound) (full : String) :
    (names.shorten full).1 = ShortName.shorten full ∧ (names.shorten full).2.Sound := by
  cases looked_up : names.find? full with
  | some short =>
      rw [shorten_of_hit looked_up]
      exact ⟨h.of_find? looked_up, h⟩
  | none =>
      rw [shorten_of_miss looked_up]
      refine ⟨rfl, ?_, ?_⟩
      · intro entry mem
        rcases List.mem_cons.mp mem with rfl | mem
        · rfl
        · exact h.right entry mem
      · refine List.nodup_cons.mpr ⟨fun mem => ?_, h.once⟩
        obtain ⟨entry, entered, same⟩ := List.mem_map.mp mem
        have differs := List.lookup_eq_none_iff.mp looked_up entry entered
        simp [same] at differs

/-- A call only adds, and only what was not there. -/
lemma extends_shorten (names : NameCache) (full : String) :
    (names.shorten full).2.Extends names := by
  cases looked_up : names.find? full with
  | some short =>
      rw [shorten_of_hit looked_up]
      exact .refl names
  | none =>
      rw [shorten_of_miss looked_up]
      intro other short found
      have differs : other ≠ full := by
        rintro rfl
        rw [looked_up] at found
        cases found
      rw [find?, List.lookup_cons, beq_false_of_ne differs]
      exact found

/-- A name that was asked for is remembered. -/
lemma find?_shorten (names : NameCache) (full : String) :
    (names.shorten full).2.find? full = some (names.shorten full).1 := by
  cases looked_up : names.find? full with
  | some short => rw [shorten_of_hit looked_up, looked_up]
  | none => rw [shorten_of_miss looked_up, find?, List.lookup_cons_self]

end Call

/-- A cache that may come after `names`. -/
structure Follows (later names : NameCache) : Prop where
  sound : later.Sound
  keeps : later.Extends names

lemma Sound.follows_shorten {names : NameCache} (h : names.Sound) (full : String) :
    (names.shorten full).2.Follows names :=
  ⟨(h.shorten full).2, extends_shorten names full⟩

lemma Follows.trans {last later names : NameCache} (h : last.Follows later)
    (h' : later.Follows names) : last.Follows names :=
  ⟨h.sound, h.keeps.trans h'.keeps⟩

end NameCache

/-! ## Views -/

namespace View

variable {α : Type}

/-- The text of a view of a target of the given size, with the name computed. -/
def shownText (v : View α) (size : Nat) : String :=
  Text.record ("SequenceView<" ++ ShortName.shorten v.targetName.full ++ ">")
    [("size", toString size)]

/-- The text of a view, with the name computed. -/
def shown (v : View α) : Traced String :=
  v.shownText <$> v.target.size

/-- The texts of a copy and of a clone, with the name computed. -/
def shownTwice (v : View α) : Traced String := do
  let copy ← v.shown
  let clone ← v.shown
  return copy ++ " " ++ clone

section Sound

variable {names : NameCache} (h : names.Sound) (v : View α)

include h

/-- The text does not depend on what is remembered. -/
lemma debugText_eq :
    v.debugText names = (v.shown, (names.shorten v.targetName.full).2) := by
  have short := (h.shorten v.targetName.full).1
  rw [shown, map_eq_pure_bind, debugText]
  simp only [short]
  rfl

/-- The texts of a copy and a clone do not, either. -/
lemma copyText_fst : (v.copyText names).1 = v.shownTwice := by
  have copied : v.copy.debugText names = _ := debugText_eq h v
  have cloned : v.clone.debugText _ = _ := debugText_eq (h.shorten v.targetName.full).2 v
  rw [copyText, copied]
  simp only [cloned]
  rfl

/-- What is remembered after a copy, whether or not the clone is asked for its text, too. -/
lemma follows_copyText : (v.copyText names).2.Follows names := by
  have first := h.follows_shorten v.targetName.full
  have second := (first.sound.follows_shorten v.targetName.full).trans first
  rw [copyText]
  cases shown : (v.copy.debugText names).1.outcome with
  | ok text =>
      simp only [shown]
      exact second
  | error f =>
      simp only [shown]
      exact first

end Sound

end View

/-! ## Steps of sessions -/

section Steps

variable {α : Type}

namespace Glance

variable {names : NameCache} {v : View α}

section Sound

variable (h : names.Sound)

include h

lemma run_text : (run v names .text).1 = .ofTraced .text v.shown := by
  rw [run, View.debugText_eq h]
  rfl

lemma run_copy : (run v names .copy).1 = .ofTraced .text v.shownTwice := by
  rw [run, run.named, View.copyText_fst h]

/-- The cache behind a step for a view. -/
lemma follows_run (g : Glance α) : (g.run v names).2.Follows names := by
  cases g with
  | text =>
      rw [run, View.debugText_eq h]
      exact h.follows_shorten v.targetName.full
  | copy => exact View.follows_copyText h v
  | _ => exact ⟨h, .refl names⟩

/-- **A step for a view reports the same** with all sound caches. -/
lemma run_names (g : Glance α) {other : NameCache} (h' : other.Sound) :
    (g.run v names).1 = (g.run v other).1 := by
  cases g with
  | text => rw [run_text h, run_text h']
  | copy => rw [run_copy h, run_copy h']
  | _ => rfl

end Sound

end Glance

namespace Session

/-- Two sessions that differ in what they remember, if at all. -/
structure Alike (s t : Session α) : Prop where
  subject : s.subject = t.subject
  name : s.name = t.name
  sound : s.names.Sound
  sound' : t.names.Sound

lemma glance_names [BEq α] (s : Sequence α) (name : TypeName) (views : Nat) (g : Glance α)
    {names other : NameCache} (h : names.Sound) (h' : other.Sound) :
    (s.glance name names views g).1 = (s.glance name other views g).1 ∧
      (s.glance name names views g).2.Follows names := by
  cases views with
  | zero => exact ⟨rfl, h, .refl names⟩
  | succ further =>
      rw [Sequence.glance, Sequence.glance, throughViews, throughViews]
      cases made : (View.nested name s further).outcome with
      | error f => exact ⟨rfl, h, .refl names⟩
      | ok v => exact ⟨congrArg (Report.after _) (Glance.run_names h g h'), Glance.follows_run h g⟩

variable [BEq α] [Element α]

/-- One step. -/
lemma Alike.step {s t : Session α} (h : s.Alike t) (st : Step α) :
    (s.step st).1 = (t.step st).1 ∧ (s.step st).2.Alike (t.step st).2 := by
  obtain ⟨subject, name, names⟩ := s
  obtain ⟨subject', name', other⟩ := t
  obtain ⟨rfl, rfl, sound, sound'⟩ := h
  cases st with
  | read views q => exact ⟨rfl, rfl, rfl, sound, sound'⟩
  | glance views g =>
      have one := glance_names subject.sequence name views g sound sound'
      have two := glance_names subject.sequence name views g sound' sound
      exact ⟨one.1, rfl, rfl, one.2.sound, two.2.sound⟩
  | change c =>
      cases subject with
      | stored kind elements => exact ⟨rfl, rfl, rfl, sound, sound'⟩
      | foreign sequence => exact ⟨rfl, rfl, rfl, sound, sound'⟩
  | list l => exact ⟨rfl, rfl, rfl, sound, sound'⟩
  | unknown => exact ⟨rfl, rfl, rfl, sound, sound'⟩

/-- Any number of steps. -/
lemma Alike.run {s t : Session α} (h : s.Alike t) (steps : List (Step α)) :
    s.run steps = t.run steps := by
  induction steps generalizing s t with
  | nil => rfl
  | cons st later ih =>
      obtain ⟨same, alike⟩ := h.step st
      show (s.step st).1 :: (s.step st).2.run later = (t.step st).1 :: (t.step st).2.run later
      rw [same, ih alike]

end Session

end Steps

/-! ## Runs -/

namespace NameCache

/-- One use of the cache: for a full name, or by a step for a view of elements of any type. -/
inductive Uses (names : NameCache) : NameCache → Prop
  | name (full : String) : Uses names (names.shorten full).2
  | glance {α : Type} (v : View α) (g : Glance α) : Uses names (g.run v names).2

/-- `later` is the cache after some run of uses on `names`. -/
def Reaches : NameCache → NameCache → Prop :=
  Relation.ReflTransGen Uses

/-- **One use** keeps the invariant and what is remembered. -/
lemma Sound.follows_uses {names later : NameCache} (h : names.Sound) (use : names.Uses later) :
    later.Follows names := by
  cases use with
  | name full => exact h.follows_shorten full
  | glance v g => exact Glance.follows_run h g

/-- **Any number of uses** do. -/
lemma Sound.follows_reaches {names later : NameCache} (h : names.Sound)
    (run : names.Reaches later) : later.Follows names := by
  induction run with
  | refl => exact ⟨h, .refl names⟩
  | tail _ use ih => exact (ih.sound.follows_uses use).trans ih

end NameCache

open NameCache in
/-- **Remembered names cannot be told from computed ones.**  Let `names` be the cache after any run
of uses, of any full names in any order, the first of which found the cache empty.

* All that is remembered are short names, each under its full name, and it stays so with the next
  use and with all later ones, which neither change nor remove anything.
* Whatever came before, a call answers with the short name, and remembers it.
* Whatever came before, a view is shown with the short name, and so are a copy and a clone of it.
* Steps on any container report the same as if nothing had been remembered before. -/
theorem remembered_names_unobservable {names : NameCache} (reached : empty.Reaches names) :
    names.Sound ∧
    (∀ next last, names.Uses next → next.Reaches last →
      next.Sound ∧ next.Extends names ∧ last.Sound ∧ last.Extends next) ∧
    (∀ full, (names.shorten full).1 = ShortName.shorten full ∧
      (names.shorten full).2.find? full = some (ShortName.shorten full)) ∧
    (∀ {α : Type} (v : View α),
      (Glance.run v names .text).1 = .ofTraced .text v.shown ∧
      (Glance.run v names .copy).1 = .ofTraced .text v.shownTwice) ∧
    (∀ {α : Type} [BEq α] [Element α] (s : Session α) (steps : List (Step α)),
      { s with names }.run steps = { s with names := empty }.run steps) := by
  have sound : names.Sound := (sound_empty.follows_reaches reached).sound
  refine ⟨sound, ?_, ?_, ?_, ?_⟩
  · intro next last use run
    have one := sound.follows_uses use
    have all := one.sound.follows_reaches run
    exact ⟨one.sound, one.keeps, all.sound, all.keeps⟩
  · intro full
    have answer := (sound.shorten full).1
    exact ⟨answer, answer ▸ find?_shorten names full⟩
  · intro α v
    exact ⟨Glance.run_text sound, Glance.run_copy sound⟩
  · intro α _ _ s steps
    have alike : Session.Alike { s with names } { s with names := empty } :=
      ⟨rfl, rfl, sound, sound_empty⟩
    exact alike.run steps

/-- The cache after two calls for names of which one starts like the other and both are shortened
to the same. -/
def namesakes : NameCache :=
  ((NameCache.empty.shorten "a::B").2.shorten "a::B<'x>").2

/-- A hit and a miss on it: the second name is found, and a third namesake is computed. -/
theorem remembered_names_unobservable_namesakes :
    NameCache.empty.Reaches namesakes ∧
      namesakes.find? "a::B<'x>" = some "B" ∧ namesakes.find? "a::b::B" = none ∧
      (namesakes.shorten "a::B<'x>").1 = "B" ∧ (namesakes.shorten "a::b::B").1 = "B" := by
  have reached : NameCache.empty.Reaches namesakes :=
    (Relation.ReflTransGen.refl.tail (.name "a::B")).tail (.name "a::B<'x>")
  obtain ⟨-, -, answers, -, -⟩ := remembered_names_unobservable reached
  have hit : ShortName.shorten "a::B<'x>" = "B" := by decide +kernel
  have miss : ShortName.shorten "a::b::B" = "B" := by decide +kernel
  exact ⟨reached, by decide +kernel, by decide +kernel, hit ▸ (answers "a::B<'x>").1,
    miss ▸ (answers "a::b::B").1⟩

end SequenceKit
