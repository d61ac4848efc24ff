import Mathlib.Algebra.Group.Nat.Defs
import ScanCursor.Proofs.Extent
import ScanCursor.Proofs.Invariant
import ScanCursor.Proofs.Lineage

/-!
# ScanCursor.Proofs.Views

A counter gives three views of where its cursor is: the next location, the latest
one, and a signed row and column.  The latest location is stored beside the next
one, and the signed views are computed from the next one alone.  In every state
that a cursor can come to, by whatever reads, jumps, returns and recounts, the
three agree (`Session.coherent_of_moments`).

A counter that has advanced is coherent whatever it was before
(`Counter.coherent_of_advance`), and so is a fresh one; nothing else ever makes a
counter.
-/

namespace ScanCursor

namespace Counter

variable {k k' : Counter}

/-- The latest location is the one right before the next one: in the column before
it, or, at the start of a row, somewhere in the row before it. -/
structure Coherent (k : Counter) : Prop where
  last_none_iff : k.last = none ↔ k.next = .origin
  last_some : ∀ l, k.last = some l → l < k.next ∧
    (0 < k.next.column ∧ l = ⟨k.next.row, k.next.column - 1⟩ ∨
      k.next.column = 0 ∧ 0 < k.next.row ∧ l.row = k.next.row - 1)

/-- The signed row and column, told by the latest location. -/
structure Shows (k : Counter) (row column : Int) : Prop where
  origin : k.next = .origin → row = -1 ∧ column = 0
  first_row : ∀ l, k.last = some l → k.next.row = 0 → 0 < k.next.column →
    row = -1 ∧ column = l.column.toNat + 1
  row_start : ∀ l, k.last = some l → 0 < k.next.row → k.next.column = 0 →
    row = l.row.toNat ∧ column = -1
  later_row : ∀ l, k.last = some l → 0 < k.next.row → 0 < k.next.column →
    row = l.row.toNat - 1 ∧ column = l.column.toNat

/-! ## signed words -/

/-- A word below 2^63 is the same number with a sign. -/
theorem toInt_toInt64 {w : Word} (h : w.toNat < 2 ^ 63) : w.toInt64.toInt = w.toNat := by
  simp only [Int64.toInt, BitVec.toInt, UInt64.toBitVec_toInt64, UInt64.toNat_toBitVec]
  omega

/-- A word below 2^63 has a signed predecessor, which is -1 for nothing. -/
theorem exists_pred {w : Word} (h : w.toNat < 2 ^ 63) :
    ∃ i, pred w = .ok i ∧ i.toInt = w.toNat - 1 := by
  have hint := toInt_toInt64 h
  have hne : w.toInt64 ≠ Int64.minValue := by
    intro hmin
    rw [hmin, Int64.toInt_minValue] at hint
    omega
  refine ⟨w.toInt64 - 1, by rw [pred, if_neg hne], ?_⟩
  rw [Int64.toInt_sub, hint, Int64.toInt_one, Int.bmod_eq_of_le] <;> omega

/-- Below half of the words neither signed view is refused. -/
theorem exists_signed (hrow : k.next.row.toNat < 2 ^ 63) (hcolumn : k.next.column.toNat < 2 ^ 63) :
    ∃ i j, k.readRow = .ok i ∧ k.readColumn = .ok j ∧ i.toInt = k.next.row.toNat - 1 ∧
      j.toInt = if k.next.row = 0 then (k.next.column.toNat : Int)
        else k.next.column.toNat - 1 := by
  obtain ⟨i, hi, hirow⟩ := exists_pred hrow
  by_cases hfirst : k.next.row = 0
  · have hcol := toInt_toInt64 hcolumn
    exact ⟨i, k.next.column.toInt64, hi, by rw [readColumn, if_pos hfirst], hirow,
      by rw [if_pos hfirst, hcol]⟩
  · obtain ⟨j, hj, hjcolumn⟩ := exists_pred hcolumn
    exact ⟨i, j, hi, by rw [readColumn, if_neg hfirst, hj], hirow, by rw [if_neg hfirst, hjcolumn]⟩

/-! ## coherence -/

/-- A fresh counter has seen nothing, and shows that. -/
theorem coherent_fresh : Coherent {} where
  last_none_iff := by decide
  last_some l hl := by cases hl

theorem toNat_sub_one {w : Word} (h : 0 < w) : (w - 1).toNat = w.toNat - 1 := by
  rw [UInt64.lt_iff_toNat_lt, UInt64.toNat_zero] at h
  rw [UInt64.toNat_sub_of_le]
  · rfl
  · rw [UInt64.le_iff_toNat_le]
    exact h

/-- An item leaves the counter behind it, whatever it was before. -/
theorem coherent_of_advance {b : Bool} (h : k.advance b = .ok k') : k'.Coherent := by
  have hlt : k.next < k'.next := Location.lt_of_after_eq_ok (advance_eq_ok_iff.1 h).1
  obtain ⟨hnext, hlast⟩ := advance_ok_iff.1 h
  have hrow := congrArg Extent.rows hnext
  have hcolumn := congrArg Extent.columns hnext
  rw [Location.rows_extent] at hrow
  rw [Location.columns_extent] at hcolumn
  refine ⟨⟨fun hnone => ?_, fun horigin => ?_⟩, fun l hl => ?_⟩
  · rw [hlast] at hnone
    cases hnone
  · rw [horigin, Location.lt_iff_rank_lt] at hlt
    exact absurd hlt (Nat.not_lt_zero _)
  · have hkl : k.next = l := Option.some.inj (hlast.symm.trans hl)
    rw [hkl] at hlt hrow hcolumn
    refine ⟨hlt, ?_⟩
    cases b with
    | true =>
        -- a new row: the row before it is the latest one
        have hpos : 0 < k'.next.row := by
          rw [UInt64.lt_iff_toNat_lt, hrow]
          simp
        right
        refine ⟨UInt64.toNat.inj (by simpa using hcolumn), hpos, UInt64.toNat.inj ?_⟩
        rw [toNat_sub_one hpos, hrow]
        simp
    | false =>
        -- the same row: the column before is the latest one
        have hpos : 0 < k'.next.column := by
          rw [UInt64.lt_iff_toNat_lt, hcolumn]
          simp
        left
        refine ⟨hpos, Location.extent_inj.1 ?_⟩
        ext
        · simpa using hrow.symm
        · rw [Location.columns_extent, Location.columns_extent, toNat_sub_one hpos, hcolumn]
          simp

/-- The latest location in numbers. -/
theorem Coherent.toNat_last (hk : k.Coherent) {l : Location} (hl : k.last = some l) :
    k.next.row.toNat = l.row.toNat ∧ k.next.column.toNat = l.column.toNat + 1 ∨
      k.next.row.toNat = l.row.toNat + 1 ∧ k.next.column.toNat = 0 := by
  rcases (hk.last_some l hl).2 with ⟨hpos, hlast⟩ | ⟨hzero, hpos, hrow⟩
  · left
    have hcolumn := toNat_sub_one hpos
    rw [UInt64.lt_iff_toNat_lt, UInt64.toNat_zero] at hpos
    rw [hlast, hcolumn]
    exact ⟨rfl, by omega⟩
  · right
    have hrow' := toNat_sub_one hpos
    rw [UInt64.lt_iff_toNat_lt, UInt64.toNat_zero] at hpos
    rw [hrow, hrow', hzero]
    exact ⟨by omega, rfl⟩

/-- The signed views of a coherent counter tell of its latest location. -/
theorem Coherent.shows (hk : k.Coherent) (hrow : k.next.row.toNat < 2 ^ 63)
    (hcolumn : k.next.column.toNat < 2 ^ 63) :
    ∃ i j, k.readRow = .ok i ∧ k.readColumn = .ok j ∧ k.Shows i.toInt j.toInt := by
  obtain ⟨i, j, hi, hj, hirow, hjcolumn⟩ := exists_signed hrow hcolumn
  refine ⟨i, j, hi, hj, ?_⟩
  simp only [← UInt64.toNat_inj, UInt64.toNat_zero] at hjcolumn
  constructor
  case origin =>
    intro horigin
    simp [horigin, Location.origin] at hirow hjcolumn
    exact ⟨hirow, hjcolumn⟩
  all_goals
    intro l hl hrow' hcolumn'
    have hlast := hk.toNat_last hl
    simp only [UInt64.lt_iff_toNat_lt, ← UInt64.toNat_inj, UInt64.toNat_zero] at hrow' hcolumn'
    split at hjcolumn <;> omega

end Counter

/-! ## sessions -/

/-- What every advance brings about, reads keep of all counters. -/
theorem Scan.keeps_counters {α : Type} [Item α] {K : Counter → Prop} (S : Source α)
    (hadvance : ∀ ⦃k k' : Counter⦄ ⦃b : Bool⦄, K k → k.advance b = .ok k' → K k') :
    Keeps S True (fun c => ∀ k ∈ c.counters, K k) (read : Scan α (Option α)) := by
  apply keeps_of_read
  intro c x c' hc hread k' hk'
  rcases Cursor.mem_of_read hread hk' with hk | ⟨y, k, -, hk, hstep⟩
  · exact hc k' hk
  · exact hadvance (hc k hk) hstep

namespace Session

variable {α ε : Type} [DecidableEq α] [Item α]

/-- At every moment every counter of every cursor and checkpoint is coherent, and
as long as the counts are below half of the words its signed views are there and
tell of its latest location. -/
theorem coherent_of_moments (S : Source α) (s : Word) (layers : Nat) (P : Session α ε) :
    ∀ b ∈ P.moments .full S (.single (Cursor.fresh s layers)),
      b.All fun c => ∀ k ∈ c.counters, k.Coherent ∧
        (k.next.row.toNat < 2 ^ 63 → k.next.column.toNat < 2 ^ 63 →
          ∃ i j, k.readRow = .ok i ∧ k.readColumn = .ok j ∧ k.Shows i.toInt j.toInt) := by
  intro b hb
  have hread := Scan.keeps_counters S (K := Counter.Coherent)
    fun _ _ _ _ hstep => Counter.coherent_of_advance hstep
  have hrecount (c : Cursor) (hc : ∀ k ∈ c.counters, k.Coherent) :
      ∀ k ∈ c.recount.counters, k.Coherent := by
    intro k hk
    rcases Cursor.mem_recount hk with rfl | hk
    · exact Counter.coherent_fresh
    · exact hc k hk
  have hfresh : ∀ k ∈ (Cursor.fresh s layers).counters, k.Coherent := by
    intro k hk
    rw [List.eq_of_mem_replicate hk]
    exact Counter.coherent_fresh
  have hstep := Action.ends_step (ε := ε) (A := fun _ => True) hread (.inl trivial)
    (fun p _ c hc => hc) (fun _ c hc => hrecount c hc)
  have hall := all_moments hstep P.only_true (Bench.All.single hfresh) b hb
  exact hall.mono fun c hc k hk => ⟨hc k hk, (hc k hk).shows⟩

/-- A copy jumps back, counts anew and leaves a checkpoint in a body that is taken
back; the first cursor goes to that checkpoint and reads on. -/
def roam : Session Char Char :=
  act 0 (.readTimes 2) fun _ => act 0 .clone fun _ =>
    trying 1 (fun _ => true)
      (act 1 (.jump 0) fun _ => act 1 .recount fun _ => act 1 .read fun _ =>
        act 1 .checkpoint fun _ => done) fun _ =>
      act 0 (.restore 0) fun _ => act 0 (.expect '\n') fun _ => done

/-- The bench at the end of `roam`, inside two counters. -/
def roamed : Bench where
  cursors := #[⟨2, [⟨⟨1, 0⟩, some ⟨0, 1⟩⟩, ⟨⟨2, 0⟩, some ⟨1, 1⟩⟩]⟩,
    ⟨2, [⟨⟨1, 0⟩, some ⟨0, 1⟩⟩, ⟨⟨1, 0⟩, some ⟨0, 1⟩⟩]⟩]
  checkpoints := #[⟨1, [⟨⟨0, 1⟩, some ⟨0, 0⟩⟩, ⟨⟨1, 1⟩, some ⟨1, 0⟩⟩]⟩]

/-- The inner counter of the checkpoint, just behind the first item of a row, shows that
item's column and the row before it. -/
theorem coherent_of_moments_roam :
    roamed ∈ roam.moments .full (Source.ofArray #['a', '\n', 'b'])
      (.single (Cursor.fresh 0 2)) ∧
    Counter.Coherent ⟨⟨1, 1⟩, some ⟨1, 0⟩⟩ ∧
    ∃ i j, Counter.readRow ⟨⟨1, 1⟩, some ⟨1, 0⟩⟩ = .ok i ∧
      Counter.readColumn ⟨⟨1, 1⟩, some ⟨1, 0⟩⟩ = .ok j ∧
      Counter.Shows ⟨⟨1, 1⟩, some ⟨1, 0⟩⟩ i.toInt j.toInt := by
  have hmoment : roamed ∈ roam.moments .full (Source.ofArray #['a', '\n', 'b'])
      (.single (Cursor.fresh 0 2)) := by decide +kernel
  have hall := coherent_of_moments _ 0 2 roam roamed hmoment
  obtain ⟨hcoherent, hshows⟩ := hall.checkpoints
    ⟨1, [⟨⟨0, 1⟩, some ⟨0, 0⟩⟩, ⟨⟨1, 1⟩, some ⟨1, 0⟩⟩]⟩ (by simp [roamed])
    ⟨⟨1, 1⟩, some ⟨1, 0⟩⟩ (by simp)
  exact ⟨hmoment, hcoherent, hshows (by decide) (by decide)⟩

end Session

end ScanCursor
