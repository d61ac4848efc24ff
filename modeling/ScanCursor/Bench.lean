import ScanCursor.Cursor

/-!
# ScanCursor.Bench

Several cursors over one source, in the order in which they were made by
copying, and the checkpoints taken so far, in one list for all of them.  Both
lists only grow, so a number once given keeps its meaning; a checkpoint of one
cursor may be given to another.
-/

namespace ScanCursor

/-- The cursors and the checkpoints, each in the order of their making. -/
structure Bench where
  cursors : Array Cursor := #[]
  checkpoints : Array Cursor := #[]
  deriving DecidableEq

namespace Bench

/-- A single cursor, and no checkpoints. -/
def single (c : Cursor) : Bench := { cursors := #[c] }

/-- One more cursor. -/
def addCursor (b : Bench) (c : Cursor) : Bench := { b with cursors := b.cursors.push c }

/-- One more checkpoint. -/
def addCheckpoint (b : Bench) (c : Cursor) : Bench :=
  { b with checkpoints := b.checkpoints.push c }

/-- The bench with a cursor where it has come to. -/
def update (b : Bench) (slot : Nat) (c : Cursor) : Bench :=
  { b with cursors := b.cursors.setIfInBounds slot c }

@[simp] theorem size_cursors_addCursor (b : Bench) (c : Cursor) :
    (b.addCursor c).cursors.size = b.cursors.size + 1 := by
  simp [addCursor]

@[simp] theorem size_cursors_update (b : Bench) (slot : Nat) (c : Cursor) :
    (b.update slot c).cursors.size = b.cursors.size := by
  simp [update]

@[simp] theorem checkpoints_update (b : Bench) (slot : Nat) (c : Cursor) :
    (b.update slot c).checkpoints = b.checkpoints := rfl

/-- Of two updates in one slot the second one counts. -/
@[simp] theorem update_update (b : Bench) (slot : Nat) (c d : Cursor) :
    (b.update slot c).update slot d = b.update slot d := by
  simp [update]

/-- What an update puts into a slot is found there. -/
theorem getElem?_update_self {b : Bench} {slot : Nat} (h : slot < b.cursors.size) (c : Cursor) :
    (b.update slot c).cursors[slot]? = some c := by
  simp [update, h]

/-- Putting a cursor where it stands changes nothing. -/
theorem update_self {b : Bench} {slot : Nat} {c : Cursor} (h : b.cursors[slot]? = some c) :
    b.update slot c = b := by
  obtain ⟨hslot, hc⟩ := Array.getElem?_eq_some_iff.1 h
  simp [update, Array.setIfInBounds, hslot, ← hc]

/-- A cursor may be added before an update or after it. -/
theorem addCursor_update {b : Bench} {slot : Nat} (h : slot < b.cursors.size) (c d : Cursor) :
    (b.update slot c).addCursor d = (b.addCursor d).update slot c := by
  simp only [update, addCursor, Array.setIfInBounds, h, dif_pos, Array.size_push,
    Nat.lt_succ_of_lt h, Array.set_push]

/-- A checkpoint may be added before an update or after it. -/
theorem addCheckpoint_update (b : Bench) (slot : Nat) (c d : Cursor) :
    (b.update slot c).addCheckpoint d = (b.addCheckpoint d).update slot c := rfl

end Bench

end ScanCursor
