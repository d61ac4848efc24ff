import ScanCursor.Proofs.Greedy
import ScanCursor.Scan.Speculation

/-!
# ScanCursor.Proofs.Trial

Two ways to read an item only if it passes.

`Scan.lookFirst` looks at the item, and does not move unless it passes.  `Scan.tryFirst`
moves in any case, past the end as well and with all its counters, and goes back unless
what it read is an item that passes.  Wherever a read is possible at all, the two leave
the same cursor behind, whatever is there; the first answers what the second does, with
the items left out that do not pass (`Scan.yields_lookFirst`, `Scan.yields_tryFirst`).

So it is for any number of them in turn, each with a test of its own
(`Scan.lookFirst_agrees_tryFirst`).
-/

namespace ScanCursor.Scan

variable {α β ι σ : Type}

/-- One scan for each entry of a list, in turn.  With each answer stands the cursor that
its scan left. -/
def inTurn (f : ι → Scan α β) (is : List ι) : Scan α (List (β × Cursor)) :=
  is.mapM fun i => do return (← f i, ← checkpoint)

section

variable {S : Source α} {c d e : Cursor} {f : ι → Scan α β} {i : ι} {is : List ι} {b : β}
  {r : List (β × Cursor)}

theorem yields_inTurn_nil (f : ι → Scan α β) (S : Source α) (c : Cursor) :
    (inTurn f []).Yields S c [] c := by
  rw [inTurn, List.mapM_nil]
  exact yields_pure_iff.2 ⟨rfl, rfl⟩

/-- Each test is made where the one before it has left the cursor. -/
theorem yields_inTurn_cons (hfirst : (f i).Yields S c b e) (hrest : (inTurn f is).Yields S e r d) :
    (inTurn f (i :: is)).Yields S c ((b, e) :: r) d := by
  have hnoted : (do return (← f i, ← checkpoint) : Scan α (β × Cursor)).Yields S c (b, e) e :=
    yields_bind_iff.2 ⟨b, e, hfirst, yields_bind_iff.2
      ⟨e, e, yields_look_iff.2 ⟨rfl, rfl⟩, yields_pure_iff.2 ⟨rfl, rfl⟩⟩⟩
  rw [inTurn, List.mapM_cons]
  exact yields_bind_iff.2 ⟨(b, e), e, hnoted, yields_bind_iff.2
    ⟨r, d, hrest, yields_pure_iff.2 ⟨rfl, rfl⟩⟩⟩

end

variable [Item α] {S : Source α} {c d : Cursor} {x : Option α}

/-- The item at the position, read if it passes. -/
def lookFirst (passes : α → Bool) : Scan α (Option α) :=
  Prod.fst <$> readIf (.ofPredicate passes) ()

/-- What is at the position, read; and taken back unless it is an item that passes. -/
def tryFirst (passes : α → Bool) : Scan α (Option α) :=
  rewindIf (fun x => !x.any passes) read

/-! ## one item -/

/-- A judge is shown the item if there is one, and decides between the cursor from before
the read and the one after it. -/
theorem yields_readIf (hread : c.read S = .ok (x, d)) (judge : Judge σ α) (memory : σ) :
    (readIf judge memory).Yields S c
      (x.filter fun y => (judge memory y).1, judge.after memory x.toList)
      (if x.any fun y => (judge memory y).1 then d else c) := by
  have hx : x = c.peek S := (Cursor.read_eq_ok_iff.1 hread).1
  obtain ⟨es, hrun⟩ := yields_read_iff.2 hread
  cases x with
  | none => exact ⟨_, run_readIf_absent hx.symm⟩
  | some y =>
      cases hj : (judge memory y).1 with
      | false =>
          refine ⟨[], (run_readIf_refused hx.symm hj).trans ?_⟩
          simp [Option.filter, hj]
      | true =>
          refine ⟨es, (run_readIf_accepted hx.symm hj).trans ?_⟩
          simp [Option.filter, hj, hrun, Except.map]

/-- Looking first answers the item if it passes, and only then moves. -/
theorem yields_lookFirst (hread : c.read S = .ok (x, d)) (passes : α → Bool) :
    (lookFirst passes).Yields S c (x.filter passes) (if x.any passes then d else c) :=
  yields_map_iff.2 ⟨_, yields_readIf hread (.ofPredicate passes) (), rfl⟩

/-- Trying first answers the item in any case, and stays if it does not pass. -/
theorem yields_tryFirst (hread : c.read S = .ok (x, d)) (passes : α → Bool) :
    (tryFirst passes).Yields S c x (if x.any passes then d else c) := by
  refine yields_rewindIf_iff.2 ⟨d, yields_read_iff.2 hread, ?_⟩
  cases x.any passes <;> rfl

/-! ## one after the other -/

/-- Looking at an item first and trying to read it come to the same.  Wherever an item can
be read, past the end and at the largest position too, both leave the same cursor, and
what the first answers is what the second read if that is an item that passes; the test
is made once if an item is there, and not at all if none is.  Of any number of tests in
turn the same is true, if an item can be read wherever the first few of them lead. -/
theorem lookFirst_agrees_tryFirst (S : Source α) (c : Cursor) :
    (∀ passes x d, c.read S = .ok (x, d) →
      ∃ e, (tryFirst passes).Yields S c x e ∧
        (lookFirst passes).Yields S c (x.filter passes) e ∧
        (readIf (Judge.ofPredicate passes).noting ((), [])).Yields S c
          (x.filter passes, (), (c.peek S).toList) e) ∧
    ∀ tests : List (α → Bool),
      (∀ i < tests.length, ∀ r e, (inTurn lookFirst (tests.take i)).Yields S c r e →
        ∃ x d, e.read S = .ok (x, d)) →
      ∃ r d, r.length = tests.length ∧ (inTurn tryFirst tests).Yields S c r d ∧
        (inTurn lookFirst tests).Yields S c
          (List.zipWith (fun passes a => (a.1.filter passes, a.2)) tests r) d := by
  constructor
  · intro passes x d hread
    have hnoting := yields_readIf hread (Judge.ofPredicate passes).noting ((), [])
    rw [Judge.after_noting, List.nil_append] at hnoting
    obtain rfl : x = c.peek S := (Cursor.read_eq_ok_iff.1 hread).1
    exact ⟨_, yields_tryFirst hread passes, yields_lookFirst hread passes, hnoting⟩
  · intro tests hroom
    induction tests generalizing c with
    | nil => exact ⟨[], c, rfl, yields_inTurn_nil _ S c, yields_inTurn_nil _ S c⟩
    | cons passes tests ih =>
        obtain ⟨x, d, hread⟩ := hroom 0 (Nat.succ_pos _) [] c (yields_inTurn_nil _ S c)
        have hlook := yields_lookFirst hread passes
        obtain ⟨r, e, hlength, htried, hlooked⟩ := ih _ fun i hi r e h =>
          hroom (i + 1) (Nat.succ_lt_succ hi) _ e (yields_inTurn_cons hlook h)
        exact ⟨_, e, congrArg (· + 1) hlength,
          yields_inTurn_cons (yields_tryFirst hread passes) htried,
          yields_inTurn_cons hlook hlooked⟩

/-- A line feed, a gap, and an item behind the gap. -/
def gappedFeed : Source Char := .ofCells [(4, '\n'), (6, 'b')] 0

/-- Two counters at the line feed. -/
def beforeFeed : Cursor := ⟨4, [⟨⟨0, 7⟩, some ⟨0, 6⟩⟩, {}]⟩

/-- The same counters at the gap. -/
def afterFeed : Cursor := ⟨5, [⟨⟨1, 0⟩, some ⟨0, 7⟩⟩, ⟨⟨1, 0⟩, some ⟨0, 0⟩⟩]⟩

/-- The line feed is refused, then accepted, and then nothing is there. -/
def feedTests : List (Char → Bool) := [(· == 'b'), (· == '\n'), fun _ => true]

/-- A refused line feed, an accepted one and the gap behind it: both ways move at the same
test and record the same cursors. -/
theorem lookFirst_agrees_tryFirst_gapped :
    beforeFeed.read gappedFeed = .ok (some '\n', afterFeed) ∧
    (∃ e, (tryFirst (· == 'b')).Yields gappedFeed beforeFeed (some '\n') e ∧
      (readIf (Judge.ofPredicate (· == 'b')).noting ((), [])).Yields gappedFeed beforeFeed
        (none, (), ['\n']) e) ∧
    (∀ i < feedTests.length, ∀ r e,
      (inTurn lookFirst (feedTests.take i)).Yields gappedFeed beforeFeed r e →
        ∃ x d, e.read gappedFeed = .ok (x, d)) ∧
    ∃ r d, r.length = 3 ∧ (inTurn tryFirst feedTests).Yields gappedFeed beforeFeed r d ∧
      (inTurn lookFirst feedTests).Yields gappedFeed beforeFeed
        (List.zipWith (fun passes a => (a.1.filter passes, a.2)) feedTests r) d := by
  have hread : beforeFeed.read gappedFeed = .ok (some '\n', afterFeed) := rfl
  have hgap : afterFeed.read gappedFeed = .ok (none, afterFeed.skip) := rfl
  have hrefused : (lookFirst (· == 'b')).Yields gappedFeed beforeFeed none beforeFeed :=
    yields_lookFirst hread _
  have haccepted : (lookFirst (· == '\n')).Yields gappedFeed beforeFeed (some '\n') afterFeed :=
    yields_lookFirst hread _
  have hroom : ∀ i < feedTests.length, ∀ r e,
      (inTurn lookFirst (feedTests.take i)).Yields gappedFeed beforeFeed r e →
        ∃ x d, e.read gappedFeed = .ok (x, d) := by
    intro i hi r e h
    have hlt : i < 3 := hi
    have hnil := yields_inTurn_nil lookFirst gappedFeed
    obtain rfl | rfl | rfl : i = 0 ∨ i = 1 ∨ i = 2 := by omega
    · obtain ⟨-, rfl⟩ := yields_unique h (hnil _)
      exact ⟨_, _, hread⟩
    · obtain ⟨-, rfl⟩ := yields_unique h (yields_inTurn_cons hrefused (hnil _))
      exact ⟨_, _, hread⟩
    · obtain ⟨-, rfl⟩ := yields_unique h
        (yields_inTurn_cons hrefused (yields_inTurn_cons haccepted (hnil _)))
      exact ⟨_, _, hgap⟩
  obtain ⟨hone, hall⟩ := lookFirst_agrees_tryFirst gappedFeed beforeFeed
  obtain ⟨e, htried, -, hnoted⟩ := hone (· == 'b') _ _ hread
  exact ⟨hread, ⟨e, htried, hnoted⟩, hroom, hall _ hroom⟩

end ScanCursor.Scan
