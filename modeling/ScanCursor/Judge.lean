/-!
# ScanCursor.Judge

A judge is a predicate on items with a memory: it is shown one item after
another, says yes or no to each, and may remember.

`Shown` is the fullest of memories, all the items shown so far.  It carries
their number, so that a judge that only counts need not walk them.
-/

namespace ScanCursor

/-- A predicate on items with a memory of type `σ`. -/
abbrev Judge (σ α : Type) := σ → α → Bool × σ

/-- The items shown to a judge, the latest first, and how many they are. -/
structure Shown (α : Type) where
  items : List α := []
  count : Nat := 0
  count_eq : count = items.length := by rfl

namespace Shown

variable {α : Type}

/-- One more item shown. -/
def add (s : Shown α) (x : α) : Shown α where
  items := x :: s.items
  count := s.count + 1
  count_eq := by rw [List.length_cons, s.count_eq]

@[simp] theorem items_add (s : Shown α) (x : α) : (s.add x).items = x :: s.items := rfl

end Shown

namespace Judge

variable {α : Type}

/-- The judge without a memory. -/
def ofPredicate (p : α → Bool) : Judge Unit α := fun _ x => (p x, ())

/-- The judge that remembers every item shown to it. -/
def recalling (p : Shown α → α → Bool) : Judge (Shown α) α := fun shown x =>
  (p shown x, shown.add x)

end Judge

end ScanCursor
