import ScanCursor.Judge
import ScanCursor.Scan.Loop

/-!
# ScanCursor.Scan.Judged

Reading what a judge accepts.

* `readIf` shows the judge the next item, if there is one, and reads it if the
  judge says yes.  An item that is refused is not read.
* `readWhile` does so again and again until nothing was read, and counts.  The
  count is a word with checked addition: a run of more accepted items than a
  word can count is refused, after the last of them was read.

`readWhileWithin_succ` takes one round off the run: what is left is again such
a run, with the memory that the judge has by then.
-/

namespace ScanCursor.Scan

variable {σ α : Type}

/-- The next item if the judge accepts it, read; and the judge's memory. -/
def readIf [Item α] (judge : Judge σ α) (memory : σ) : Scan α (Option α × σ) := do
  match ← peek with
  | none => return (none, memory)
  | some x =>
    match judge memory x with
    | (true, memory') => return (← read, memory')
    | (false, memory') => return (none, memory')

/-- One round of `readWhile`, after `count` items were read. -/
def readWhileRound [Item α] (judge : Judge σ α) :
    Nat × σ → Scan α ((Nat × σ) ⊕ (Nat × σ)) := fun (count, memory) =>
  (fun
    | (some _, memory') => .inl (count + 1, memory')
    | (none, memory') => .inr (count, memory')) <$> readIf judge memory

/-- `readWhile` refused after so many rounds in which an item was read. -/
def readWhileWithin [Item α] (judge : Judge σ α) (rounds : Nat) (memory : σ) :
    Scan α (Nat × σ) :=
  loop (readWhileRound judge) (fun _ => overflow .add) rounds (0, memory)

/-- How many items were read while the judge accepted them, and its memory. -/
def readWhile [Item α] (judge : Judge σ α) (memory : σ) : Scan α (Nat × σ) :=
  readWhileWithin judge (Word.top.toNat + 1) memory

/-! ## round by round -/

/-- Items counted before are added to those that are still to be counted. -/
theorem loop_readWhileRound [Item α] (judge : Judge σ α) (rounds count : Nat) (memory : σ) :
    loop (readWhileRound judge) (fun _ => overflow .add) rounds (count, memory) =
      Prod.map (count + ·) id <$> readWhileWithin judge rounds memory := by
  unfold readWhileWithin
  induction rounds generalizing count memory with
  | zero =>
    rw [loop_zero, loop_zero]
    rfl
  | succ rounds ih =>
    rw [loop_succ, loop_succ]
    simp only [readWhileRound, bind_map_left, map_bind]
    congr 1
    funext found
    obtain ⟨x, memory'⟩ := found
    cases x with
    | none => simp
    | some x =>
      simp only [ih (_ + 1), ← comp_map]
      congr 1
      funext r
      simp [Prod.map, Nat.add_assoc]

/-- Without a round the run is refused. -/
theorem readWhileWithin_zero [Item α] (judge : Judge σ α) (memory : σ) :
    readWhileWithin judge 0 memory = overflow .add := loop_zero _ _ _

/-- One round taken off the run: it is over, or goes on with the memory the judge has by
then. -/
theorem readWhileWithin_succ [Item α] (judge : Judge σ α) (rounds : Nat) (memory : σ) :
    readWhileWithin judge (rounds + 1) memory = (do
      match ← readIf judge memory with
      | (none, memory') => pure (0, memory')
      | (some _, memory') => Prod.map (1 + ·) id <$> readWhileWithin judge rounds memory') := by
  rw [readWhileWithin, loop_succ]
  simp only [readWhileRound, bind_map_left]
  congr 1
  funext found
  obtain ⟨x, memory'⟩ := found
  cases x with
  | none => rfl
  | some x => exact loop_readWhileRound judge rounds 1 memory'

/-! ## one item -/

section

variable [Item α] {judge : Judge σ α} {memory : σ} {S : Source α} {c : Cursor}

/-- Where there is no item the judge is not asked. -/
theorem run_readIf_absent (h : c.peek S = none) :
    (readIf judge memory).run S c = .ok ⟨(none, memory), c, []⟩ := by
  simp [readIf, peek, run_bind, h]

/-- An item that is refused stays where it is, but the judge has seen it. -/
theorem run_readIf_refused {x : α} (h : c.peek S = some x) (hx : (judge memory x).1 = false) :
    (readIf judge memory).run S c = .ok ⟨(none, (judge memory x).2), c, []⟩ := by
  rcases hj : judge memory x with ⟨b, m⟩
  rw [hj] at hx
  cases hx
  simp [readIf, peek, run_bind, h, hj]

/-- An item that is accepted is read. -/
theorem run_readIf_accepted {x : α} (h : c.peek S = some x) (hx : (judge memory x).1 = true) :
    (readIf judge memory).run S c =
      (read.run S c).map fun r => ⟨(r.value, (judge memory x).2), r.cursor, r.trace⟩ := by
  rcases hj : judge memory x with ⟨b, m⟩
  rw [hj] at hx
  cases hx
  simp only [readIf, peek, run_bind, run_look, h, hj]
  cases read.run S c <;> simp [Except.map]

end

end ScanCursor.Scan
