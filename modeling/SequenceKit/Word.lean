import SequenceKit.Traced

/-!
# Machine words

Sizes, positions and numbers of elements are machine words.  Here they are natural numbers, and an
operation whose result is no word says so: it stops with a fault, as it does wherever overflow is
checked.  Where two words are known to be apart, a step from one towards the other cannot leave
the words; such a step asks for the proof instead of a check.

* `Word.largest` — the largest word.
* `Word.add`, `Word.sub` — sums and differences, with a check.
* `Word.succ`, `Word.pred` — a step up towards another word, and a step down towards one.
* `Word.total` — a number, if it is a word; what `Word.add` makes of several summands.
-/

namespace SequenceKit.Word

/-- The largest machine word, `2 ^ 64 - 1`. -/
def largest : Nat :=
  18446744073709551615

/-- A sum of words. -/
def add (a b : Nat) : Traced Nat :=
  if a + b ≤ largest then pure (a + b) else Traced.stop .addOverflow

/-- A difference of words. -/
def sub (a b : Nat) : Traced Nat :=
  if b ≤ a then pure (a - b) else Traced.stop .subOverflow

/-- The word behind one that has a word above it. -/
def succ (a : Nat) {above : Nat} (_lt : a < above) : Nat :=
  a + 1

/-- The word in front of one that has a word below it. -/
def pred (a : Nat) {below : Nat} (_lt : below < a) : Nat :=
  a - 1

/-- A number as a word. -/
def total (n : Nat) : Traced Nat :=
  if n ≤ largest then pure n else Traced.stop .addOverflow

/-! ## Steps -/

theorem succ_le {a above : Nat} (lt : a < above) : succ a lt ≤ above :=
  lt

theorem le_pred {a below : Nat} (lt : below < a) : below ≤ pred a lt :=
  Nat.le_sub_one_of_lt lt

/-! ## Results of checked operations -/

theorem add_of_le {a b : Nat} (fits : a + b ≤ largest) : add a b = pure (a + b) :=
  if_pos fits

theorem add_of_gt {a b : Nat} (large : largest < a + b) :
    add a b = Traced.stop .addOverflow :=
  if_neg (Nat.not_le_of_gt large)

theorem sub_of_le {a b : Nat} (le : b ≤ a) : sub a b = pure (a - b) :=
  if_pos le

theorem total_of_le {n : Nat} (fits : n ≤ largest) : total n = pure n :=
  if_pos fits

theorem total_of_gt {n : Nat} (large : largest < n) : total n = Traced.stop .addOverflow :=
  if_neg (Nat.not_le_of_gt large)

end SequenceKit.Word
