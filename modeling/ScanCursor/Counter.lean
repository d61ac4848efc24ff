import ScanCursor.Location

/-!
# ScanCursor.Counter

A counter keeps row and column in step with the items that are read: `next` is
where the next item will be, `last` where the latest one was.

An item that ends a line leads to the start of the next row, any other item
one column further.  Nothing else moves a counter.

Besides the exact `last` there are two signed views, `readRow` and
`readColumn`, computed from `next` alone: one less than the row, and one less
than the column except on the first row.
-/

namespace ScanCursor

/-- Where the next item is, and where the latest one was. -/
structure Counter where
  next : Location := .origin
  last : Option Location := none
  deriving DecidableEq

namespace Counter

/-- The move that an item makes. -/
def move (endsLine : Bool) : Location.Move :=
  if endsLine then .row else .column

/-- The counter after one more item. -/
def advance (k : Counter) (endsLine : Bool) : Except Overflow Counter :=
  (k.next.after (move endsLine)).map fun next => { next, last := some k.next }

/-- A counter that advances has moved its next location, and keeps the one it moved from as
its latest. -/
theorem advance_eq_ok_iff {k k' : Counter} {b : Bool} :
    k.advance b = .ok k' ↔ k.next.after (move b) = .ok k'.next ∧ k'.last = some k.next := by
  obtain ⟨next', last'⟩ := k'
  unfold advance
  cases k.next.after (move b) <;> simp [Except.map, eq_comm]

/-! ## the signed views -/

/-- One less, as a signed number of 64 bits. -/
def pred (w : Word) : Except Overflow Int64 :=
  if w.toInt64 = Int64.minValue then .error .subtract else .ok (w.toInt64 - 1)

/-- The row before the next item's row: `-1` until a line has ended. -/
def readRow (k : Counter) : Except Overflow Int64 :=
  pred k.next.row

/-- On the first row the next item's column, on later rows the one before it:
`-1` right after the end of a line. -/
def readColumn (k : Counter) : Except Overflow Int64 :=
  if k.next.row = 0 then .ok k.next.column.toInt64 else pred k.next.column

end Counter

end ScanCursor
