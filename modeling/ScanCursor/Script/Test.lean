import ScanCursor.Judge

/-!
# ScanCursor.Script.Test

Ready-made tests of items.  A test knows the items that were shown to it
before; only `first` looks at them, and only at their number.

Items are compared by the order of their type: numbers by size, characters by
code point, strings by their characters from the left.
-/

namespace ScanCursor

/-- A question about one item. -/
inductive Test (α : Type) where
  | always
  | never
  | equal (v : α)
  | differs (v : α)
  | below (v : α)
  | atLeast (v : α)
  | among (vs : List α)
  | outside (vs : List α)
  /-- The first so many items pass, whatever they are. -/
  | first (n : Nat)
  | holds (p : α → Bool)

namespace Test

variable {α : Type} [DecidableEq α] [LT α] [DecidableLT α]

/-- Whether an item passes, after those shown before. -/
def passes : Test α → Shown α → α → Bool
  | always, _, _ => true
  | never, _, _ => false
  | equal v, _, x => x = v
  | differs v, _, x => x ≠ v
  | below v, _, x => x < v
  | atLeast v, _, x => !decide (x < v)
  | among vs, _, x => x ∈ vs
  | outside vs, _, x => x ∉ vs
  | first n, shown, _ => shown.count < n
  | holds p, _, x => p x

end Test

/-! ## classes of items -/

/-- Blank, tab, line feed, carriage return and form feed. -/
def isSpace (c : Char) : Bool :=
  c = ' ' || c = '\t' || c = '\n' || c = '\r' || c = '\x0c'

/-- All characters below 128. -/
def isAscii (s : String) : Bool := s.toList.all fun c => c.toNat < 128

/-- Divisible by two. -/
def isEven (n : Int) : Bool := n % 2 = 0

/-- Below zero. -/
def isNegative (n : Int) : Bool := n < 0

end ScanCursor
