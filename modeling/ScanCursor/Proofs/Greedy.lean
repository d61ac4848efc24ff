import Mathlib.Data.List.ReduceOption
import Mathlib.Order.Bounds.Defs
import ScanCursor.Proofs.Course

/-!
# ScanCursor.Proofs.Greedy

What a judge accepts, and no more.

A judge stops at the first position that has no item, or whose item it refuses when it
has been shown all the items before it (`Source.StopsAt`).  How many positions that takes
is a matter of the source and the judge alone, and it is what `readWhile` counts
(`Scan.yields_readWhile_iff`): as many items are read, and the judge is shown these and
the one it refuses, each of them once.  `Judge.noting` makes that visible; it is the judge
itself, with a list of the items it was shown.
-/

namespace ScanCursor

variable {α σ : Type}

/-! ## what a judge was shown -/

namespace Judge

variable (judge : Judge σ α) (memory : σ)

/-- The judge's memory when it was shown these items, one after the other. -/
def after (xs : List α) : σ := xs.foldl (fun m x => (judge m x).2) memory

/-- The judge with a list of the items it was shown, the earliest first. -/
def noting : Judge (σ × List α) α := fun (memory, noted) x =>
  ((judge memory x).1, (judge memory x).2, noted ++ [x])

@[simp] theorem after_nil : judge.after memory [] = memory := rfl

@[simp] theorem after_cons (x : α) (xs : List α) :
    judge.after memory (x :: xs) = judge.after (judge memory x).2 xs := rfl

/-- Noting changes nothing about the judge. -/
theorem after_noting (noted xs : List α) :
    judge.noting.after (memory, noted) xs = (judge.after memory xs, noted ++ xs) := by
  induction xs generalizing memory noted with
  | nil => rw [after_nil, after_nil, List.append_nil]
  | cons x xs ih =>
      rw [after_cons, after_cons, noting, ih, List.append_assoc, List.singleton_append]

end Judge

/-! ## where a judge stops -/

namespace Source

variable (S : Source α)

/-- The items that are there at so many positions from `p` on. -/
def present (n : Nat) (p : Word) : List α := (S.ahead n p).reduceOption

/-- There is an item `n` positions on, and the judge refuses it when it was shown the
items before it. -/
def Refuses (judge : Judge σ α) (memory : σ) (p : Word) (n : Nat) : Prop :=
  ∃ x, S.get? (p.onward n) = some x ∧ (judge (judge.after memory (S.present n p)) x).1 = false

/-- There is no item `n` positions on that the judge would accept. -/
def StopsAt (judge : Judge σ α) (memory : σ) (p : Word) (n : Nat) : Prop :=
  S.get? (p.onward n) = none ∨ S.Refuses judge memory p n

variable {S} {judge : Judge σ α} {memory : σ} {p : Word} {n rounds : Nat} {x : α}

@[simp] theorem present_zero : S.present 0 p = [] := rfl

/-- What is present from an item on is this item and what is present behind it. -/
theorem present_succ (h : S.get? p = some x) :
    S.present (n + 1) p = x :: S.present n (Word.addSat p 1) := by
  rw [present, ahead, h, List.reduceOption_cons_of_some, present]

/-- One position more, at the end, and its item if there is one. -/
theorem present_concat (S : Source α) (n : Nat) (p : Word) :
    S.present (n + 1) p = S.present n p ++ (S.get? (p.onward n)).toList := by
  rw [present, ahead_eq_map, List.range_succ, List.map_append, List.reduceOption_append,
    ← ahead_eq_map, present, List.map_singleton, List.reduceOption_singleton]

/-- The first item is refused without any shown before it. -/
theorem refuses_zero (h : S.get? p = some x) :
    S.Refuses judge memory p 0 ↔ (judge memory x).1 = false := by
  simp [Refuses, h]

/-- A later item is refused by a judge that remembers the first one. -/
theorem refuses_succ (h : S.get? p = some x) :
    S.Refuses judge memory p (n + 1) ↔
      S.Refuses judge (judge memory x).2 (Word.addSat p 1) n := by
  rw [Refuses, Refuses, Word.onward_succ, present_succ h, Judge.after_cons]

/-- Where there is an item a judge stops only by refusing it. -/
theorem stopsAt_zero (h : S.get? p = some x) :
    S.StopsAt judge memory p 0 ↔ (judge memory x).1 = false := by
  rw [StopsAt, refuses_zero h, Word.onward_zero, h]
  simp

/-- Behind an item a judge stops where it does with the memory of it. -/
theorem stopsAt_succ (h : S.get? p = some x) :
    S.StopsAt judge memory p (n + 1) ↔
      S.StopsAt judge (judge memory x).2 (Word.addSat p 1) n := by
  rw [StopsAt, StopsAt, refuses_succ h, Word.onward_succ]

/-- Noting does not change where the judge stops. -/
theorem stopsAt_noting (noted : List α) :
    S.StopsAt judge.noting (memory, noted) p n ↔ S.StopsAt judge memory p n := by
  simp only [StopsAt, Refuses, Judge.after_noting, Judge.noting]

/-! ## as many items as that -/

/-- No item is accepted at or behind a place where the judge stops. -/
theorem accepted_le_of_stopsAt (h : S.StopsAt judge memory p n) (rounds : Nat) :
    S.accepted judge rounds memory p ≤ n := by
  induction rounds, memory, p using judged_induction S judge generalizing n with
  | zero => exact Nat.zero_le n
  | absent hx =>
      rw [accepted_absent hx]
      exact Nat.zero_le n
  | refused hx hj =>
      rw [accepted_refused hx hj]
      exact Nat.zero_le n
  | accepted hx hj ih =>
      cases n with
      | zero =>
          rw [stopsAt_zero hx, hj] at h
          cases h
      | succ n =>
          have hrest := ih ((stopsAt_succ hx).1 h)
          rw [accepted_succ hx hj]
          omega

/-- A judge that is not shown as many items as it might be has stopped. -/
theorem stopsAt_accepted (h : S.accepted judge rounds memory p < rounds) :
    S.StopsAt judge memory p (S.accepted judge rounds memory p) := by
  induction rounds, memory, p using judged_induction S judge with
  | zero => cases h
  | absent hx =>
      rw [accepted_absent hx]
      exact .inl (by rw [Word.onward_zero, hx])
  | refused hx hj =>
      rw [accepted_refused hx hj]
      exact (stopsAt_zero hx).2 hj
  | accepted hx hj ih =>
      rw [accepted_succ hx hj] at h ⊢
      rw [Nat.add_comm 1]
      exact (stopsAt_succ hx).2 (ih (by omega))

/-- A judge that is given rounds enough accepts as many items as there are before the first
place where it stops. -/
theorem isLeast_accepted (h : S.accepted judge rounds memory p < rounds) :
    IsLeast {i | S.StopsAt judge memory p i} (S.accepted judge rounds memory p) :=
  ⟨stopsAt_accepted h, fun _ hi => accepted_le_of_stopsAt hi rounds⟩

/-- The first place where a judge stops is as many items on as it accepts. -/
theorem accepted_eq_of_isLeast (h : IsLeast {i | S.StopsAt judge memory p i} n)
    (hn : n < rounds) : S.accepted judge rounds memory p = n := by
  have hle := accepted_le_of_stopsAt h.1 rounds
  exact Nat.le_antisymm hle (h.2 (stopsAt_accepted (by omega)))

/-- What a judge accepts is there. -/
theorem ahead_accepted (judge : Judge σ α) (rounds : Nat) (memory : σ) (p : Word) :
    S.ahead (S.accepted judge rounds memory p) p =
      (S.present (S.accepted judge rounds memory p) p).map some := by
  induction rounds, memory, p using judged_induction S judge with
  | zero => rfl
  | absent hx =>
      rw [accepted_absent hx]
      rfl
  | refused hx hj =>
      rw [accepted_refused hx hj]
      rfl
  | accepted hx hj ih =>
      rw [accepted_succ hx hj, Nat.add_comm 1, present_succ hx, ahead, hx, ih, List.map_cons]

/-- The judge remembers what it accepted, and the item that it refused if there is one. -/
theorem remembered_eq_after (h : S.accepted judge rounds memory p < rounds) :
    S.remembered judge rounds memory p =
      judge.after memory (S.present (S.accepted judge rounds memory p + 1) p) := by
  induction rounds, memory, p using judged_induction S judge with
  | zero => cases h
  | absent hx =>
      rw [remembered_absent hx, accepted_absent hx, present_concat, present_zero,
        Word.onward_zero, hx]
      rfl
  | refused hx hj =>
      rw [remembered_refused hx hj, accepted_refused hx hj, present_succ hx, present_zero]
      rfl
  | accepted hx hj ih =>
      rw [accepted_succ hx hj] at h
      rw [remembered_succ hx hj, accepted_succ hx hj, Nat.add_comm 1, present_succ hx,
        Judge.after_cons, ih (by omega)]

end Source

/-! ## reading while a judge accepts -/

namespace Scan

variable [Item α] {S : Source α} {c d : Cursor} {judge : Judge σ α} {memory memory' : σ}
  {n : Nat}

/-- `readWhile` counts the positions up to where the judge stops, and reads as many
items. -/
theorem yields_readWhile_iff :
    (readWhile judge memory).Yields S c (n, memory') d ↔
      n ≤ Word.top.toNat ∧ IsLeast {i | S.StopsAt judge memory c.position i} n ∧
        memory' = judge.after memory (S.present (n + 1) c.position) ∧
        ∃ xs, (readTimes n).Yields S c xs d := by
  constructor
  · rintro ⟨es, h⟩
    obtain ⟨hle, u, hu, ⟨⟩⟩ := run_readWhile_eq_ok_iff.1 h
    have hlt := Nat.lt_succ_of_le hle
    exact ⟨hle, Source.isLeast_accepted hlt, Source.remembered_eq_after hlt, _, yields_of_run hu⟩
  · rintro ⟨hle, hleast, rfl, xs, es, hxs⟩
    have hlt := Nat.lt_succ_of_le hle
    have hn := Source.accepted_eq_of_isLeast hleast hlt
    rw [← hn] at hlt hle hxs
    refine ⟨es, run_readWhile_eq_ok_iff.2 ⟨hle, _, hxs, ?_⟩⟩
    rw [Source.remembered_eq_after hlt, hn]

/-- Whatever its memory, a judge is given the longest run of items that it accepts when it
was shown those before them, and nothing else.  The cursor is where as many reads leave
it, before the item that was refused; and what the judge was shown is what was read and
that item, each once and in their order. -/
theorem accepted_prefix_of_readWhile (h : (readWhile judge memory).Yields S c (n, memory') d) :
    IsLeast {i | S.StopsAt judge memory c.position i} n ∧ n ≤ Word.top.toNat ∧
      d.position = c.position.onward n ∧ d.peek S = S.get? (c.position.onward n) ∧
      ∃ taken shown : List α,
        taken.map some = (List.range n).map (fun i => S.get? (c.position.onward i)) ∧
        shown = taken ++ (S.get? (c.position.onward n)).toList ∧
        (readTimes n).Yields S c (taken.map some) d ∧ memory' = judge.after memory shown ∧
        (readWhile judge.noting (memory, [])).Yields S c (n, memory', shown) d := by
  obtain ⟨hle, hleast, hmemory, xs, hxs⟩ := yields_readWhile_iff.1 h
  have hposition : d.position = c.position.onward n := by
    obtain ⟨es, hrun⟩ := hxs
    exact position_of_readTimes hrun
  have htaken : S.ahead n c.position = (S.present n c.position).map some := by
    have hn := Source.accepted_eq_of_isLeast hleast (Nat.lt_succ_of_le hle)
    rw [← hn]
    exact Source.ahead_accepted judge _ memory c.position
  have hvalue : xs = (S.present n c.position).map some := by
    obtain ⟨es, hrun⟩ := hxs
    rw [← htaken]
    exact value_of_readTimes hrun
  -- A judge that takes notes stops where the judge stops, so the same scan has them.
  have hnoted : (readWhile judge.noting (memory, [])).Yields S c
      (n, memory', S.present (n + 1) c.position) d := by
    refine yields_readWhile_iff.2 ⟨hle, ?_, ?_, xs, hxs⟩
    · simp only [Source.stopsAt_noting]
      exact hleast
    · rw [Judge.after_noting, List.nil_append, hmemory]
  rw [hvalue] at hxs
  rw [Source.present_concat] at hmemory hnoted
  refine ⟨hleast, hle, hposition, by rw [Cursor.peek, hposition], S.present n c.position, _, ?_,
    rfl, hxs, hmemory, hnoted⟩
  rw [← htaken, Source.ahead_eq_map]

end Scan

/-- A judge that accepts so many items, whatever they are. -/
def Judge.sparing : Judge Nat α := fun left _ => (0 < left, left - 1)

/-- Items at the last two positions, in a source that is said to be empty. -/
def Source.brink : Source Char := .ofCells [(18446744073709551614, 'a'), (Word.top, '\n')] 0

/-- Two fresh counters before these items. -/
def Cursor.brink : Cursor := ⟨18446744073709551614, [{}, {}]⟩

/-- The same counters when the first item was read once and the last one twice. -/
def Cursor.brinkEnd : Cursor :=
  ⟨Word.top, [⟨⟨2, 0⟩, some ⟨1, 0⟩⟩, ⟨⟨2, 0⟩, some ⟨1, 0⟩⟩]⟩

/-- The last item of the source is read twice, and refused when it is found once more. -/
theorem Scan.accepted_prefix_of_readWhile_brink :
    (readWhile Judge.sparing 3).Yields Source.brink Cursor.brink (3, 0) Cursor.brinkEnd ∧
    IsLeast {i | Source.brink.StopsAt Judge.sparing 3 Cursor.brink.position i} 3 ∧
    Cursor.brinkEnd.position = Cursor.brink.position.onward 3 ∧
    (readTimes 3).Yields Source.brink Cursor.brink [some 'a', some '\n', some '\n']
      Cursor.brinkEnd ∧
    (readWhile Judge.sparing.noting (3, [])).Yields Source.brink Cursor.brink
      (3, 0, ['a', '\n', '\n', '\n']) Cursor.brinkEnd := by
  have hrun : (readWhile Judge.sparing 3).Yields Source.brink Cursor.brink (3, 0)
      Cursor.brinkEnd := ⟨_, rfl⟩
  obtain ⟨hleast, -, hposition, -, taken, shown, htaken, rfl, hreads, -, hnoted⟩ :=
    accepted_prefix_of_readWhile hrun
  have hitems : taken = ['a', '\n', '\n'] :=
    (List.map_inj_right fun _ _ => Option.some.inj).1 (htaken.trans (by decide))
  subst hitems
  exact ⟨hrun, hleast, hposition, hreads, hnoted⟩

end ScanCursor
