import Mathlib.Data.List.DropRight
import Mathlib.Order.Bounds.Defs
import Mathlib.Order.Defs.PartialOrder
import ScanCursor.Location

/-!
# ScanCursor.Proofs.Moves

Moves from location to location, told by the order.

One column to the right is the very next location (`Location.covBy_of_nextColumn`), and the
start of the following row is the first location behind all those up to the end of this row
(`Location.isLeast_of_nextRow`).  Neither move puts two locations out of order
(`Location.after_le_after`).

Moves are refused only where the count that they raise is the largest word
(`Location.after_eq_error_iff`).  A list of moves goes on from where the last one that was
made has led (`Location.walk_append`), so what is said of one move holds all along a walk,
and where a walk without refusals ends is a matter of counting its moves
(`Location.along_of_forall_ok`).

`Location.moves_in_order` puts these together.
-/

namespace ScanCursor

namespace Location

variable {i j k k' l l' : Location} {m : Move} {ms ns : List Move} {o : Overflow}

/-! ## the order -/

protected theorem le_of_not_lt (h : ¬ j < k) : k ≤ j := by
  rw [lt_iff_rank_lt] at h
  exact le_iff_rank_le.2 (Nat.le_of_not_lt h)

protected theorem lt_irrefl (l : Location) : ¬ l < l := by
  rw [lt_iff_rank_lt]
  exact Nat.lt_irrefl _

/-- Of two locations the later one is in no earlier row. -/
theorem toNat_row_le_of_le (h : l ≤ l') : l.row.toNat ≤ l'.row.toNat := by
  have hl := l.column.toNat_lt
  have hl' := l'.column.toNat_lt
  rw [le_iff_rank_le, rank, rank] at h
  omega

/-! ## one move -/

/-- The count that a move raises. -/
def raised (l : Location) : Move → Word
  | .column => l.column
  | .row => l.row

/-- A move is refused only where its count is the largest word. -/
theorem after_eq_error_iff : l.after m = .error o ↔ l.raised m = Word.top ∧ o = .add := by
  cases m with
  | column => exact map_eq_error_iff.trans Word.succ_eq_error_iff
  | row => exact map_eq_error_iff.trans Word.succ_eq_error_iff

/-- Any other move leads somewhere. -/
theorem exists_after (h : l.raised m ≠ Word.top) : ∃ k, l.after m = .ok k := by
  cases hk : l.after m with
  | error o => exact absurd (after_eq_error_iff.1 hk).1 h
  | ok k => exact ⟨k, rfl⟩

/-- One column to the right is one rank higher. -/
theorem rank_of_nextColumn (h : l.nextColumn = .ok k) : k.rank = l.rank + 1 := by
  obtain ⟨hrow, hcolumn⟩ := nextColumn_eq_ok_iff.1 h
  rw [rank, rank, hrow, hcolumn]
  omega

/-- One column to the right is the next location. -/
theorem covBy_of_nextColumn (h : l.nextColumn = .ok k) : l ⋖ k := by
  have hrank := rank_of_nextColumn h
  refine ⟨lt_iff_rank_lt.2 (by omega), fun j hlj hjk => ?_⟩
  rw [lt_iff_rank_lt] at hlj hjk
  omega

/-- Before the start of the following row are the rows up to this one. -/
theorem lt_nextRow_iff (h : l.nextRow = .ok k) : i < k ↔ i.row ≤ l.row := by
  obtain ⟨hrow, hcolumn⟩ := nextRow_eq_ok_iff.1 h
  have hi := i.column.toNat_lt
  rw [lt_iff_rank_lt, rank, rank, hrow, hcolumn, UInt64.toNat_zero, UInt64.le_iff_toNat_le]
  omega

/-- The start of the following row is the first location behind the rows up to this one. -/
theorem isLeast_of_nextRow (h : l.nextRow = .ok k) :
    IsLeast {j | ∀ i : Location, i.row ≤ l.row → i < j} k := by
  constructor
  · intro i hi
    exact (lt_nextRow_iff h).2 hi
  · intro j hj
    -- A location before `k` is in one of the rows up to this one, so it is not behind itself.
    exact Location.le_of_not_lt fun hjk => Location.lt_irrefl j (hj j ((lt_nextRow_iff h).1 hjk))

/-- A move puts no two locations out of order. -/
theorem after_le_after (h : l ≤ l') (hk : l.after m = .ok k) (hk' : l'.after m = .ok k') :
    k ≤ k' := by
  cases m with
  | column =>
      rw [le_iff_rank_le] at h ⊢
      rw [rank_of_nextColumn hk, rank_of_nextColumn hk']
      omega
  | row =>
      have hle := toNat_row_le_of_le h
      obtain ⟨hrow, hcolumn⟩ := nextRow_eq_ok_iff.1 hk
      obtain ⟨hrow', hcolumn'⟩ := nextRow_eq_ok_iff.1 hk'
      rw [le_iff_rank_le, rank, rank, hrow, hcolumn, hrow', hcolumn']
      omega

/-! ## a list of moves -/

/-- The location after a move; it stays as it was if the move is refused. -/
def moved (l : Location) (m : Move) : Location := (l.after m).toOption.getD l

/-- The location after a list of moves. -/
def along (l : Location) (ms : List Move) : Location := ms.foldl moved l

theorem moved_of_ok (h : l.after m = .ok k) : l.moved m = k := by
  rw [moved, h]
  rfl

theorem moved_of_error (h : l.after m = .error o) : l.moved m = l := by
  rw [moved, h]
  rfl

@[simp] theorem along_nil (l : Location) : l.along [] = l := rfl

/-- The last move is made from where those before it have led. -/
theorem along_concat (l : Location) (ms : List Move) (m : Move) :
    l.along (ms ++ [m]) = (l.along ms).moved m := by
  rw [along, List.foldl_append]
  rfl

/-- The first move is answered at the start, the others from where it leads. -/
theorem walk_cons (l : Location) (m : Move) (ms : List Move) :
    l.walk (m :: ms) = l.after m :: (l.moved m).walk ms := by
  cases h : l.after m with
  | error o => rw [walk, h, moved_of_error h]
  | ok k => rw [walk, h, moved_of_ok h]

/-- Moves go on from where those before them have led. -/
theorem walk_append (l : Location) (ms ns : List Move) :
    l.walk (ms ++ ns) = l.walk ms ++ (l.along ms).walk ns := by
  induction ms generalizing l with
  | nil => rfl
  | cons m ms ih =>
      rw [List.cons_append, walk_cons, walk_cons, ih, List.cons_append]
      rfl

/-- The last move is answered where those before it have led. -/
theorem walk_concat (l : Location) (ms : List Move) (m : Move) :
    l.walk (ms ++ [m]) = l.walk ms ++ [(l.along ms).after m] := by
  rw [walk_append, walk_cons]
  rfl

/-- What a move is answered in the middle of a walk. -/
theorem getElem?_walk (l : Location) (pre : List Move) (m : Move) (post : List Move) :
    (l.walk (pre ++ m :: post))[pre.length]? = some ((l.along pre).after m) := by
  rw [walk_append, walk_cons, List.getElem?_append_right (by rw [length_walk]), length_walk,
    Nat.sub_self, List.getElem?_cons_zero]

/-- A move is refused only where its count cannot be raised, and then the location stays;
any other move leads to a later location. -/
theorem along_concat_of_after (l : Location) (ms : List Move) (m : Move) :
    ((l.along ms).after m = .error .add ↔ (l.along ms).raised m = Word.top) ∧
    ((l.along ms).after m = .error .add → l.along (ms ++ [m]) = l.along ms) ∧
    ((l.along ms).after m ≠ .error .add →
      (l.along ms).after m = .ok (l.along (ms ++ [m])) ∧ l.along ms < l.along (ms ++ [m])) := by
  rw [along_concat]
  refine ⟨by simp [after_eq_error_iff], fun h => moved_of_error h, fun h => ?_⟩
  have htop : (l.along ms).raised m ≠ Word.top := fun htop => h (after_eq_error_iff.2 ⟨htop, rfl⟩)
  obtain ⟨k, hk⟩ := exists_after htop
  rw [moved_of_ok hk]
  exact ⟨hk, lt_of_after_eq_ok hk⟩

/-! ## where a walk ends -/

/-- The moves behind the last one to a new row. -/
def sinceRow (ms : List Move) : List Move := ms.rtakeWhile fun m => m ≠ .row

/-- One more move to the right is one more in the current row. -/
theorem sinceRow_concat_column (ms : List Move) :
    sinceRow (ms ++ [.column]) = sinceRow ms ++ [.column] :=
  List.rtakeWhile_concat_pos _ _ _ (by decide)

/-- In a new row no move has been made yet. -/
theorem sinceRow_concat_row (ms : List Move) : sinceRow (ms ++ [.row]) = [] :=
  List.rtakeWhile_concat_neg _ _ _ (by decide)

/-- No move of a walk is refused if none before the last is, nor the last. -/
theorem forall_ok_concat_iff :
    (∀ o, .error o ∉ l.walk (ms ++ [m])) ↔
      (∀ o, .error o ∉ l.walk ms) ∧ ∃ k, (l.along ms).after m = .ok k := by
  simp only [walk_concat, List.mem_append, List.mem_singleton, not_or, forall_and]
  cases (l.along ms).after m <;> simp

/-- Where a walk ends on which no move is refused. -/
theorem along_of_forall_ok (h : ∀ o, .error o ∉ l.walk ms) :
    (l.along ms).row.toNat = l.row.toNat + ms.count .row ∧
      (l.along ms).column.toNat =
        (sinceRow ms).count .column + if Move.row ∈ ms then 0 else l.column.toNat := by
  induction ms using List.reverseRecOn with
  | nil => simp [sinceRow]
  | append_singleton ms m ih =>
      obtain ⟨hms, k, hk⟩ := forall_ok_concat_iff.1 h
      obtain ⟨hrow, hcolumn⟩ := ih hms
      rw [along_concat, moved_of_ok hk]
      cases m with
      | column =>
          obtain ⟨hrow', hcolumn'⟩ := nextColumn_eq_ok_iff.1 hk
          rw [hrow', hrow, hcolumn', hcolumn, sinceRow_concat_column]
          simp [List.count_append, Nat.add_right_comm]
      | row =>
          obtain ⟨hrow', hcolumn'⟩ := nextRow_eq_ok_iff.1 hk
          rw [hrow', hrow, hcolumn', sinceRow_concat_row]
          simp [List.count_append, Nat.add_assoc]

/-! ## all laws -/

/-- Where there is a next column it is the very next location, and where there is a next row
its start is the first location behind the rows up to this one; both moves are monotone.  On
a walk a move is refused just where the count it raises is the largest word, and then the
location stays as it was, while every other move leads to a later location.  If no move is
refused, the rows at the end are those at the start and the moves to a new row, and the
columns are the moves to a new column since then, or, without a new row, those at the start
and all the moves. -/
theorem moves_in_order :
    (∀ l : Location, l.column ≠ Word.top → ∃ k, l.nextColumn = .ok k ∧ l ⋖ k) ∧
    (∀ l : Location, l.row ≠ Word.top → ∃ k, l.nextRow = .ok k ∧
      IsLeast {j | ∀ i : Location, i.row ≤ l.row → i < j} k) ∧
    (∀ (m : Move) (l l' k k' : Location), l ≤ l' →
      l.after m = .ok k → l'.after m = .ok k' → k ≤ k') ∧
    (∀ (l : Location) (pre : List Move) (m : Move) (post : List Move),
      ∃ answer, (l.walk (pre ++ m :: post))[pre.length]? = some answer ∧
        (answer = .error .add ↔ (l.along pre).raised m = Word.top) ∧
        (answer = .error .add → l.along (pre ++ [m]) = l.along pre) ∧
        (answer ≠ .error .add →
          answer = .ok (l.along (pre ++ [m])) ∧ l.along pre < l.along (pre ++ [m]))) ∧
    ∀ (l : Location) (ms : List Move), (∀ o, .error o ∉ l.walk ms) →
      (l.along ms).row.toNat = l.row.toNat + ms.count .row ∧
      (l.along ms).column.toNat =
        (sinceRow ms).count .column + if Move.row ∈ ms then 0 else l.column.toNat := by
  refine ⟨fun l htop => ?_, fun l htop => ?_, fun m l l' k k' => after_le_after,
    fun l pre m post => ?_, fun l ms => along_of_forall_ok⟩
  · obtain ⟨k, hk⟩ := exists_after (m := .column) htop
    exact ⟨k, hk, covBy_of_nextColumn hk⟩
  · obtain ⟨k, hk⟩ := exists_after (m := .row) htop
    exact ⟨k, hk, isLeast_of_nextRow hk⟩
  · exact ⟨_, l.getElem?_walk pre m post, l.along_concat_of_after pre m⟩

/-- The last column but one of a row. -/
def brim : Location := ⟨3, 18446744073709551614⟩

/-- From there the last column is reached and the one behind it refused, and the walk goes on
in the following row. -/
theorem moves_in_order_brim :
    (brim.column ≠ Word.top ∧ ∃ k, brim.nextColumn = .ok k ∧ brim ⋖ k) ∧
    (brim.row ≠ Word.top ∧ ∃ k, brim.nextRow = .ok k ∧
      IsLeast {j | ∀ i : Location, i.row ≤ brim.row → i < j} k) ∧
    (origin ≤ brim ∧ origin.after .row = .ok ⟨1, 0⟩ ∧ brim.after .row = .ok ⟨4, 0⟩ ∧
      (⟨1, 0⟩ : Location) ≤ ⟨4, 0⟩) ∧
    ((brim.walk [.column, .column, .row])[0]? = some (.ok (brim.along [.column])) ∧
      brim < brim.along [.column]) ∧
    ((brim.walk [.column, .column, .row])[1]? = some (.error .add) ∧
      brim.along [.column, .column] = brim.along [.column]) ∧
    (∀ o, .error o ∉ brim.walk [.column, .row, .column]) ∧
    (brim.along [.column, .row, .column]).row.toNat = 4 ∧
    (brim.along [.column, .row, .column]).column.toNat = 1 := by
  have hcolumn : brim.column ≠ Word.top := by decide
  have hrow : brim.row ≠ Word.top := by decide
  have hle : origin ≤ brim := by decide
  have hfirst : origin.after .row = .ok ⟨1, 0⟩ := rfl
  have hlater : brim.after .row = .ok ⟨4, 0⟩ := rfl
  have hwalk : brim.walk [.column, .row, .column] = [.ok ⟨3, Word.top⟩, .ok ⟨4, 0⟩, .ok ⟨4, 1⟩] :=
    rfl
  have hmade : ∀ o, .error o ∉ brim.walk [.column, .row, .column] := by simp [hwalk]
  obtain ⟨hnextColumn, hnextRow, hkeeps, hmove, hends⟩ := moves_in_order
  obtain ⟨made, hanswer, hrefused, -, hgrows⟩ := hmove brim [] .column [.column, .row]
  have hne : made ≠ .error .add := fun h => absurd (hrefused.1 h) (by decide)
  obtain ⟨rfl, hlt⟩ := hgrows hne
  obtain ⟨refused, hanswer', hrefused', hstays, -⟩ := hmove brim [.column] .column [.row]
  obtain rfl : refused = .error .add := hrefused'.2 (by decide)
  exact ⟨⟨hcolumn, hnextColumn brim hcolumn⟩, ⟨hrow, hnextRow brim hrow⟩,
    ⟨hle, hfirst, hlater, hkeeps .row origin brim ⟨1, 0⟩ ⟨4, 0⟩ hle hfirst hlater⟩,
    ⟨hanswer, hlt⟩, ⟨hanswer', hstays rfl⟩, hmade, hends brim [.column, .row, .column] hmade⟩

end Location

end ScanCursor
