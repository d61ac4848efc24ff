import ScanCursor.Bench
import ScanCursor.Scan.Judged
import ScanCursor.Scan.Speculation
import ScanCursor.Script.Reply

/-!
# ScanCursor.Script.Basic

Scripts are scans written down as data: steps one after the other, among them
bodies that are tried and perhaps taken back, to any depth.

Every step answers a reply, and a script the records of its steps.  A body's
records are what decides whether it is taken back, and are kept either way.

A script acts on one cursor of a bench.  Cursors and checkpoints that it makes
are added to the bench and stay there, also when the body that made them is
taken back.
-/

namespace ScanCursor

/-- A step that holds no other steps. -/
inductive Action (α ε : Type) where
  | peek
  | peekOr (into : α → ε) (eof : ε)
  | peekNth (n : Word)
  | atEnd
  | remaining
  /-- The source's size, and the item at a position. -/
  | lookup (p : Word)
  | spanFrom (start : Word)
  | read
  | readTimes (n : Nat)
  | readOr (into : α → ε) (eof : ε)
  /-- Read an item that passes, given the items shown before in this step. -/
  | readIf (passes : Shown α → α → Bool)
  | readWhile (passes : Shown α → α → Bool)
  | expect (wanted : α)
  | jump (p : Word)
  /-- Put a fresh counter in place of the outermost one. -/
  | recount
  /-- Look at a copy of the cursor from inside its outermost counter. -/
  | inner
  /-- Add a copy of the cursor to the bench. -/
  | clone
  /-- Add a checkpoint to the bench. -/
  | checkpoint
  /-- Go back to a checkpoint of the bench. -/
  | restore (index : Nat)

/-- Steps one after the other. -/
inductive Script (α ε : Type) where
  | done
  | act (a : Action α ε) (rest : Script α ε)
  /-- A body, taken back if its records are rejected. -/
  | trying (reject : List (Record α ε) → Bool) (body rest : Script α ε)

variable {α ε : Type}

/-- The step as a scan, with the bench before and after it. -/
def Action.scan [DecidableEq α] [Item α] (b : Bench) : Action α ε → Scan α (Reply α ε × Bench)
  | .peek => return (.item (← Scan.peek), b)
  | .peekOr into eof => return (.converted (← Scan.peekOr into eof), b)
  | .peekNth n => return (.item (← Scan.look fun S c => c.peekNth S n), b)
  | .atEnd => return (.flag (← Scan.look fun S c => c.atEnd S), b)
  | .remaining => return (.word (← Scan.look fun S c => c.remaining S), b)
  | .lookup p => return (← Scan.look fun S _ => .lookup S.size (S.get? p), b)
  | .spanFrom start => return (.span (← Scan.look fun _ c => c.spanFrom start), b)
  | .read => return (.item (← Scan.read), b)
  | .readTimes n => return (.items (← Scan.readTimes n), b)
  | .readOr into eof => return (.converted (← Scan.readOr into eof), b)
  | .readIf passes => do
    let (x, shown) ← Scan.readIf (Judge.recalling passes) {}
    return (.accepted x shown.count, b)
  | .readWhile passes => do
    let (count, shown) ← Scan.readWhile (Judge.recalling passes) {}
    return (.counted count shown.count, b)
  | .expect wanted => return (.expected (← Scan.expect wanted), b)
  | .jump p => do
    Scan.move (·.jump p)
    return (.done, b)
  | .recount => do
    Scan.move (·.recount)
    return (.done, b)
  | .inner => return (← Scan.look fun S c => .inner c.inner (c.inner.peek S), b)
  | .clone => return (.cursor b.cursors.size, b.addCursor (← Scan.checkpoint))
  | .checkpoint => return (.checkpoint b.checkpoints.size, b.addCheckpoint (← Scan.checkpoint))
  | .restore index => do
    if let some k := b.checkpoints[index]? then Scan.restore k
    return (.done, b)

/-- The script as a scan: the records of its steps, and the bench after it. -/
def Script.scan [DecidableEq α] [Item α] :
    Script α ε → Bench → Scan α (List (Record α ε) × Bench)
  | .done, b => return ([], b)
  | .act a rest, b => do
    let (reply, b) ← a.scan b
    let c ← Scan.checkpoint
    Prod.map ((reply, c) :: ·) id <$> rest.scan b
  | .trying reject body rest, b => do
    let (tried, b) ← Scan.rewindIf (fun r => reject r.1) (body.scan b)
    let c ← Scan.checkpoint
    Prod.map ((.body tried, c) :: ·) id <$> rest.scan b

/-! ## step by step -/

namespace Script

variable [DecidableEq α] [Item α] (S : Source α)

/-- A step and then the rest, from the cursor and the bench that the step leaves. -/
theorem run_act (a : Action α ε) (rest : Script α ε) (b : Bench) (c : Cursor) :
    ((Script.act a rest).scan b).run S c = (do
      let r ← (a.scan b).run S c
      let t ← (rest.scan r.value.2).run S r.cursor
      return ⟨((r.value.1, r.cursor) :: t.value.1, t.value.2), t.cursor, r.trace ++ t.trace⟩) := by
  simp only [Script.scan, Scan.run_bind, Scan.checkpoint, Scan.run_look, Scan.run_map]
  cases (a.scan b).run S c with
  | error => rfl
  | ok r =>
      cases h : (rest.scan r.value.2).run S r.cursor <;>
        simp [h, Except.map, Prod.map, bind, Except.bind, pure, Except.pure]

/-- A body and then the rest, from where the body began if its records are rejected. -/
theorem run_trying (reject : List (Record α ε) → Bool) (body rest : Script α ε) (b : Bench)
    (c : Cursor) :
    ((Script.trying reject body rest).scan b).run S c = (do
      let r ← (body.scan b).run S c
      let d := if reject r.value.1 then c else r.cursor
      let told := if reject r.value.1 then r.trace ++ r.cursor.restoreEvents c else r.trace
      let t ← (rest.scan r.value.2).run S d
      return ⟨((.body r.value.1, d) :: t.value.1, t.value.2), t.cursor, told ++ t.trace⟩) := by
  simp only [Script.scan, Scan.run_bind, Scan.checkpoint, Scan.run_look, Scan.run_map,
    Scan.run_rewindIf]
  cases (body.scan b).run S c with
  | error => rfl
  | ok r =>
      simp only [Except.map, bind, Except.bind, pure, Except.pure]
      cases hr : reject r.value.1
      · cases h : (rest.scan r.value.2).run S r.cursor <;> simp [h, Prod.map]
      · cases h : (rest.scan r.value.2).run S c <;> simp [h, Prod.map]

end Script

/-! ## on a bench -/

/-- What came of a script: its records, the bench after it, and the trace. -/
structure Performance (α ε : Type) where
  records : List (Record α ε)
  bench : Bench
  trace : Trace α

/-- A script performed by one of the cursors of a bench; nothing happens if
there is no such cursor. -/
def Bench.perform [DecidableEq α] [Item α] (S : Source α) (b : Bench) (slot : Nat)
    (script : Script α ε) : Except Overflow (Performance α ε) :=
  match b.cursors[slot]? with
  | none => .ok ⟨[], b, []⟩
  | some c =>
    ((script.scan b).run S c).map fun r =>
      ⟨r.value.1, r.value.2.update slot r.cursor, r.trace⟩

end ScanCursor
