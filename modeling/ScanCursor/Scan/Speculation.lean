import ScanCursor.Diagnostic
import ScanCursor.Scan.Basic

/-!
# ScanCursor.Scan.Speculation

Trying something and going back.  `rewindIf` runs a body and, if its result is
rejected, returns the cursor to where the body began; the result is answered
either way.  `expect` is the speculation that reads one wanted item, and says
what it found instead when it is another one.
-/

namespace ScanCursor.Scan

variable {α β : Type}

/-- The body's result; the cursor is where the body left it, or where it began
if the result is rejected. -/
def rewindIf (reject : β → Bool) (body : Scan α β) : Scan α β := do
  let before ← checkpoint
  let result ← body
  if reject result then restore before
  return result

/-- A body that is rejected keeps its value and its trace, and the cursor is as before. -/
theorem run_rewindIf (reject : β → Bool) (body : Scan α β) (S : Source α) (c : Cursor) :
    (rewindIf reject body).run S c =
      (body.run S c).map fun r =>
        if reject r.value then ⟨r.value, c, r.trace ++ r.cursor.restoreEvents c⟩ else r := by
  simp only [rewindIf, checkpoint, run_bind, run_look]
  cases h : body.run S c with
  | error => rfl
  | ok r => cases h' : reject r.value <;> simp [Except.map, h']

/-- The body's result is answered whether or not the cursor is taken back. -/
theorem yields_rewindIf_iff {reject : β → Bool} {body : Scan α β} {S : Source α} {c d : Cursor}
    {b : β} :
    (rewindIf reject body).Yields S c b d ↔
      ∃ e, body.Yields S c b e ∧ d = if reject b then c else e := by
  constructor
  · rintro ⟨es, h⟩
    rw [run_rewindIf] at h
    cases hr : body.run S c with
    | error => rw [hr] at h; cases h
    | ok r =>
        rw [hr] at h
        refine ⟨r.cursor, ?_⟩
        cases hj : reject r.value <;> simp only [Except.map, hj] at h <;> cases h
        · exact ⟨yields_of_run hr, by rw [hj]; rfl⟩
        · exact ⟨yields_of_run hr, by rw [hj]; rfl⟩
  · rintro ⟨e, ⟨es, hx⟩, rfl⟩
    cases hj : reject b
    · exact ⟨es, by simp [run_rewindIf, hx, Except.map, hj]⟩
    · exact ⟨es ++ e.restoreEvents c, by simp [run_rewindIf, hx, Except.map, hj]⟩

/-- The complaint that another item, or none, was found where one was wanted. -/
def mismatch [Item α] (l : Location) (wanted : α) : Option α → Diagnostic
  | some x => .expectedGot l (Item.quoted wanted) (Item.quoted x)
  | none => .unexpectedEnd l (Item.quoted wanted)

/-- The wanted item, read; or the complaint, with nothing read. -/
def expect [DecidableEq α] [Item α] (wanted : α) : Scan α (Except Diagnostic α) := do
  let l ← location
  rewindIf (fun r => !r.isOk) do
    let found ← read
    return if found = some wanted then .ok wanted else .error (mismatch l wanted found)

/-- A result may be judged by what is made of it. -/
theorem rewindIf_map {γ : Type} (reject : γ → Bool) (f : β → γ) (body : Scan α β) :
    rewindIf reject (f <$> body) = f <$> rewindIf (reject ∘ f) body := by
  ext S c
  rw [run_rewindIf, run_map, run_map, run_rewindIf]
  cases body.run S c with
  | error => rfl
  | ok r => cases h : reject (f r.value) <;> simp [Except.map, h]

/-- Wanting an item is trying to read it. -/
theorem expect_eq [DecidableEq α] [Item α] (wanted : α) :
    expect wanted = do
      let l ← location
      let found ← rewindIf (fun found => found ≠ some wanted) read
      return if found = some wanted then .ok wanted else .error (mismatch l wanted found) := by
  simp only [expect, bind_pure_comp, rewindIf_map]
  congr 1
  funext l
  congr 2
  funext found
  by_cases h : found = some wanted <;> simp [h, Except.isOk, Except.toBool]

end ScanCursor.Scan
