import ScanCursor.Word

/-!
# ScanCursor.Location

A location is a zero-based row and column, written `row:column` and ordered
by row first.

Two moves lead from a location to a later one: one column to the right, or to
the start of the following row.  Both count with checked arithmetic.  `walk`
follows a list of moves; a move that overflows is reported and not made.

`rank` numbers the locations in their order, so that `lt_iff_rank_lt` and
`le_iff_rank_le` turn questions about the order into arithmetic.
-/

namespace ScanCursor

/-- A zero-based row and column. -/
structure Location where
  row : Word := 0
  column : Word := 0
  deriving DecidableEq

namespace Location

/-- The first row's first column. -/
def origin : Location := {}

/-- Row and column in decimal, with a colon between them. -/
def display (l : Location) : String :=
  toString l.row.toNat ++ ":" ++ toString l.column.toNat

/-! ## order -/

instance : LT Location where
  lt a b := a.row < b.row ∨ a.row = b.row ∧ a.column < b.column

instance : LE Location where
  le a b := a.row < b.row ∨ a.row = b.row ∧ a.column ≤ b.column

instance : DecidableLT Location := fun a b =>
  inferInstanceAs (Decidable (a.row < b.row ∨ a.row = b.row ∧ a.column < b.column))

instance : DecidableLE Location := fun a b =>
  inferInstanceAs (Decidable (a.row < b.row ∨ a.row = b.row ∧ a.column ≤ b.column))

instance : Ord Location where
  compare a b := compareOfLessAndEq a b

instance : Min Location := minOfLe

instance : Max Location := maxOfLe

/-- How many locations come before this one. -/
def rank (l : Location) : Nat := l.row.toNat * 18446744073709551616 + l.column.toNat

/-- No two locations have the same rank. -/
theorem rank_inj {a b : Location} : a.rank = b.rank ↔ a = b := by
  constructor
  · intro h
    have ha := a.column.toNat_lt
    have hb := b.column.toNat_lt
    obtain ⟨r, c⟩ := a
    obtain ⟨r', c'⟩ := b
    simp only [rank] at h ha hb
    have hr : r = r' := UInt64.toNat.inj (by omega)
    have hc : c = c' := UInt64.toNat.inj (by omega)
    rw [hr, hc]
  · intro h
    rw [h]

/-- Locations are ordered as their ranks are. -/
theorem lt_iff_rank_lt {a b : Location} : a < b ↔ a.rank < b.rank := by
  have ha := a.column.toNat_lt
  have hb := b.column.toNat_lt
  change a.row < b.row ∨ a.row = b.row ∧ a.column < b.column ↔ _
  rw [UInt64.lt_iff_toNat_lt, UInt64.lt_iff_toNat_lt, ← UInt64.toNat_inj]
  unfold rank
  omega

/-- The weak order of locations is the one of their ranks. -/
theorem le_iff_rank_le {a b : Location} : a ≤ b ↔ a.rank ≤ b.rank := by
  have ha := a.column.toNat_lt
  have hb := b.column.toNat_lt
  change a.row < b.row ∨ a.row = b.row ∧ a.column ≤ b.column ↔ _
  rw [UInt64.lt_iff_toNat_lt, UInt64.le_iff_toNat_le, ← UInt64.toNat_inj]
  unfold rank
  omega

/-! ## moves -/

/-- The location one column to the right. -/
def nextColumn (l : Location) : Except Overflow Location :=
  (Word.succ l.column).map fun column => { l with column }

/-- The first column of the following row. -/
def nextRow (l : Location) : Except Overflow Location :=
  (Word.succ l.row).map fun row => { row, column := 0 }

/-- A step to a later location. -/
inductive Move where
  | column
  | row
  deriving DecidableEq

/-- The location that a move leads to. -/
def after (l : Location) : Move → Except Overflow Location
  | .column => l.nextColumn
  | .row => l.nextRow

/-- What each of a list of moves answers, made one after the other.  A move
that overflows leaves the location as it was. -/
def walk : Location → List Move → List (Except Overflow Location)
  | _, [] => []
  | l, m :: ms =>
    match l.after m with
    | .ok next => .ok next :: walk next ms
    | .error o => .error o :: walk l ms

/-- Every move is answered, and once. -/
@[simp] theorem length_walk (l : Location) (ms : List Move) : (l.walk ms).length = ms.length := by
  induction ms generalizing l with
  | nil => rfl
  | cons m ms ih =>
    unfold walk
    split <;> simp [ih]

/-- The next column is one more, in the same row. -/
theorem nextColumn_eq_ok_iff {l k : Location} :
    l.nextColumn = .ok k ↔ k.row = l.row ∧ k.column.toNat = l.column.toNat + 1 := by
  obtain ⟨r, c⟩ := l
  obtain ⟨r', c'⟩ := k
  rw [← Word.succ_eq_ok_iff]
  unfold nextColumn
  cases Word.succ c <;> simp [Except.map, and_comm, eq_comm]

/-- The next row is one more, and begins at column `0`. -/
theorem nextRow_eq_ok_iff {l k : Location} :
    l.nextRow = .ok k ↔ k.row.toNat = l.row.toNat + 1 ∧ k.column = 0 := by
  obtain ⟨r, c⟩ := l
  obtain ⟨r', c'⟩ := k
  rw [← Word.succ_eq_ok_iff]
  unfold nextRow
  cases Word.succ r <;> simp [Except.map, eq_comm]

/-- A column below the largest word has a next one. -/
theorem exists_nextColumn {l : Location} (h : l.column.toNat < Word.top.toNat) :
    ∃ k, l.nextColumn = .ok k := by
  obtain ⟨c, hc⟩ := Word.exists_succ h
  exact ⟨{ l with column := c }, nextColumn_eq_ok_iff.2 ⟨rfl, Word.succ_eq_ok_iff.1 hc⟩⟩

/-- A row below the largest word has a next one. -/
theorem exists_nextRow {l : Location} (h : l.row.toNat < Word.top.toNat) :
    ∃ k, l.nextRow = .ok k := by
  obtain ⟨r, hr⟩ := Word.exists_succ h
  exact ⟨⟨r, 0⟩, nextRow_eq_ok_iff.2 ⟨Word.succ_eq_ok_iff.1 hr, rfl⟩⟩

/-- Every move that can be made leads to a later location. -/
theorem lt_of_after_eq_ok {l k : Location} {m : Move} (h : l.after m = .ok k) : l < k := by
  rw [lt_iff_rank_lt]
  have hl := l.column.toNat_lt
  cases m with
  | column =>
    obtain ⟨hr, hc⟩ := nextColumn_eq_ok_iff.1 h
    unfold rank
    rw [hr]
    omega
  | row =>
    obtain ⟨hr, hc⟩ := nextRow_eq_ok_iff.1 h
    unfold rank
    omega

end Location

end ScanCursor
