import ScanCursor.Scan.Basic

/-!
# ScanCursor.Scan.Loop

Repeating a step.  Each round either goes on with another state or stops with
the result; after so many rounds `limit` ends the loop.

The loop is written with the trace as an accumulator, the latest event first,
so that it runs in constant space on the stack however many rounds it makes.
`loop_zero` and `loop_succ` are the equations to reason with: they say the same
as a recursion in the monad.
-/

namespace ScanCursor.Scan

variable {α β σ : Type}

/-- The loop from a cursor, after the events `told`, the latest first. -/
def loopFrom (step : σ → Scan α (σ ⊕ β)) (limit : σ → Scan α β) (S : Source α) :
    Nat → σ → Cursor → Trace α → Except Overflow (Scanned α β)
  | 0, s, c, told =>
    ((limit s).run S c).map fun r => { r with trace := told.reverseAux r.trace }
  | rounds + 1, s, c, told =>
    match (step s).run S c with
    | .error o => .error o
    | .ok r =>
      match r.value with
      | .inl s' => loopFrom step limit S rounds s' r.cursor (r.trace.reverseAux told)
      | .inr b => .ok ⟨b, r.cursor, told.reverseAux r.trace⟩

/-- At most so many rounds of `step`, each from the state that the one before it
went on with; then `limit`. -/
def loop (step : σ → Scan α (σ ⊕ β)) (limit : σ → Scan α β) (rounds : Nat) (s : σ) :
    Scan α β := fun S c => loopFrom step limit S rounds s c []

section

variable (step : σ → Scan α (σ ⊕ β)) (limit : σ → Scan α β)

/-- What was told before the loop stands before what the loop tells. -/
theorem loopFrom_eq (S : Source α) (rounds : Nat) (s : σ) (c : Cursor) (told : Trace α) :
    loopFrom step limit S rounds s c told =
      ((loop step limit rounds s).run S c).map fun r =>
        { r with trace := told.reverse ++ r.trace } := by
  change _ = (loopFrom step limit S rounds s c []).map _
  induction rounds generalizing s c told with
  | zero =>
    unfold loopFrom
    cases (limit s).run S c <;> simp [Except.map, List.reverseAux_eq]
  | succ rounds ih =>
    unfold loopFrom
    cases (step s).run S c with
    | error => rfl
    | ok r =>
      obtain ⟨v, d, es⟩ := r
      cases v with
      | inl s' =>
        simp only [List.reverseAux_eq]
        rw [ih, ih s' d (es.reverse ++ [])]
        cases loopFrom step limit S rounds s' d [] <;> simp [Except.map]
      | inr b => simp [Except.map, List.reverseAux_eq]

/-- Without a round the loop ends with its limit. -/
theorem loop_zero (s : σ) : loop step limit 0 s = limit s := by
  ext S c
  change loopFrom step limit S 0 s c [] = _
  unfold loopFrom
  cases (limit s).run S c <;> rfl

/-- One round taken off the loop: it stops with the result, or goes on with its state. -/
theorem loop_succ (rounds : Nat) (s : σ) :
    loop step limit (rounds + 1) s = (do
      match ← step s with
      | .inl s' => loop step limit rounds s'
      | .inr b => pure b) := by
  ext S c
  change loopFrom step limit S (rounds + 1) s c [] = _
  unfold loopFrom
  rw [run_bind]
  cases (step s).run S c with
  | error => rfl
  | ok r =>
    obtain ⟨v, d, es⟩ := r
    cases v with
    | inl s' =>
      simp only [loopFrom_eq, List.reverseAux_eq]
      cases (loop step limit rounds s').run S d <;> simp [Except.map]
    | inr b => simp [List.reverseAux_eq]

end

/-! ## so many reads -/

/-- The items, or their absence, of `n` reads. -/
def readTimes [Item α] (n : Nat) : Scan α (List (Option α)) :=
  loop (fun xs => (fun x => .inl (x :: xs)) <$> read) (fun xs => pure xs.reverse) n []

/-- Items read before stand before the items that are still to be read. -/
theorem loop_read_eq [Item α] (n : Nat) (xs : List (Option α)) :
    loop (fun xs => (fun x => .inl (x :: xs)) <$> read) (fun xs => pure xs.reverse) n xs =
      (xs.reverse ++ ·) <$> (readTimes n : Scan α (List (Option α))) := by
  unfold readTimes
  induction n generalizing xs with
  | zero => simp [loop_zero]
  | succ n ih =>
    rw [loop_succ, loop_succ]
    simp only [bind_map_left, map_bind, ih (_ :: _), ← comp_map]
    congr 1
    funext x
    congr 1
    funext ys
    simp

@[simp] theorem readTimes_zero [Item α] :
    readTimes 0 = (pure [] : Scan α (List (Option α))) := loop_zero _ _ _

/-- So many reads are one read and the others. -/
theorem readTimes_succ [Item α] (n : Nat) :
    readTimes (n + 1) = (do
      let x ← read
      (x :: ·) <$> readTimes n : Scan α (List (Option α))) := by
  rw [readTimes, loop_succ]
  simp only [bind_map_left, loop_read_eq]
  rfl

end ScanCursor.Scan
