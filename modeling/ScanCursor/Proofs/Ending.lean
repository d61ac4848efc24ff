import Mathlib.Algebra.Group.Nat.Defs
import ScanCursor.Proofs.Greedy

/-!
# ScanCursor.Proofs.Ending

When reading what a judge accepts comes to an end.

The position is no measure for that: at the largest one it stays where it is, and the
item there is read again and again.  What counts is where the judge stops, and every
absent position is such a place.  So a run ends before the first position that is
absent, wherever the source is said to end; and if there is none, it ends if and only if
the judge refuses an item before the count is out of words (`Scan.readWhile_ends`).

`readWhileFrom` is the run in its midst, when so many items were counted, and
`readWhileFrom_eq` takes one round off it.  The count is then increased by `Word.succ`,
and nothing else is ever refused inside a bare cursor.
-/

namespace ScanCursor

variable {α σ : Type}

namespace Source

variable {S : Source α} {judge : Judge σ α} {memory : σ} {p q : Word} {n : Nat}

/-- Where a judge can stop there is a first place where it stops. -/
theorem exists_isLeast_stopsAt (h : S.StopsAt judge memory p n) :
    ∃ m, m ≤ n ∧ IsLeast {i | S.StopsAt judge memory p i} m := by
  have hle := accepted_le_of_stopsAt h (n + 1)
  exact ⟨_, hle, isLeast_accepted (Nat.lt_succ_of_le hle)⟩

/-- A judge stops where nothing is. -/
theorem stopsAt_of_absent (judge : Judge σ α) (memory : σ) (hle : p ≤ q)
    (h : S.get? q = none) : S.StopsAt judge memory p (q.toNat - p.toNat) := by
  have hq : p.onward (q.toNat - p.toNat) = q := by
    have := q.toNat_lt
    apply UInt64.toNat.inj
    rw [UInt64.le_iff_toNat_le] at hle
    rw [Word.toNat_onward]
    omega
  exact .inl (by rw [hq, h])

/-- An array that words can count has no item at the largest position. -/
theorem get?_ofArray_top {xs : Array α} (h : xs.size ≤ Word.top.toNat) :
    (ofArray xs).get? Word.top = none := by
  rw [get?_ofArray, Array.getElem?_eq_none_iff]
  exact h

end Source

namespace Scan

variable [Item α] {S : Source α} {c d : Cursor} {judge : Judge σ α} {memory memory' : σ}
  {p : Word} {n : Nat}

/-- A bare cursor can be read any number of times. -/
theorem yields_readTimes_bare (S : Source α) (n : Nat) (p : Word) :
    (readTimes n).Yields S (.startingAt p) (S.ahead n p) (.startingAt (p.onward n)) := by
  induction n generalizing p with
  | zero =>
      rw [readTimes_zero, Word.onward_zero]
      exact yields_pure_iff.2 ⟨rfl, rfl⟩
  | succ n ih =>
      have hread := yields_read_iff.2 (Cursor.read_bare S p)
      have hrest := yields_map_iff (f := (S.get? p :: ·)).2 ⟨_, ih (Word.addSat p 1), rfl⟩
      rw [readTimes_succ, Word.onward_succ]
      exact yields_bind_iff.2 ⟨_, _, hread, hrest⟩

/-! ## round after round -/

/-- So many rounds in a row in which the judge accepts what is there, and it is read. -/
inductive Rounds (judge : Judge σ α) (S : Source α) : Nat → σ → Cursor → σ → Cursor → Prop where
  | none (memory : σ) (c : Cursor) : Rounds judge S 0 memory c memory c
  | round {n : Nat} {memory memory' memory'' : σ} {c d e : Cursor} {x : α} :
      (readIf judge memory).Yields S c (some x, memory') d →
      Rounds judge S n memory' d memory'' e → Rounds judge S (n + 1) memory c memory'' e

/-- `readWhile` when so many items have been counted. -/
def readWhileFrom (judge : Judge σ α) (count : Word) (memory : σ) : Scan α (Nat × σ) :=
  Prod.map (count.toNat + ·) id <$>
    readWhileWithin judge (Word.top.toNat + 1 - count.toNat) memory

/-- A run begun at `0` is `readWhile`. -/
theorem readWhileFrom_zero (judge : Judge σ α) (memory : σ) :
    readWhileFrom judge 0 memory = readWhile judge memory := by
  have hcount : Prod.map ((0 : Word).toNat + ·) id = (id : Nat × σ → Nat × σ) := by
    funext r
    simp [Prod.map]
  rw [readWhileFrom, hcount, id_map, readWhile, UInt64.toNat_zero, Nat.sub_zero]

/-- One round of `readWhile`: what is accepted is read, and counted if there is a word for
the count. -/
theorem readWhileFrom_eq (judge : Judge σ α) (count : Word) (memory : σ) :
    readWhileFrom judge count memory = (do
      match ← readIf judge memory with
      | (none, memory') => pure (count.toNat, memory')
      | (some _, memory') =>
        match Word.succ count with
        | .error o => overflow o
        | .ok next => readWhileFrom judge next memory') := by
  have hle := count.toNat_le_top
  have hrounds : Word.top.toNat + 1 - count.toNat = Word.top.toNat - count.toNat + 1 := by omega
  rw [readWhileFrom, hrounds, readWhileWithin_succ, map_bind]
  congr 1
  funext found
  obtain ⟨x, memory'⟩ := found
  cases x with
  | none => simp
  | some x =>
      cases hnext : Word.succ count with
      | error o =>
          obtain ⟨rfl, rfl⟩ := Word.succ_eq_error_iff.1 hnext
          simp only [Nat.sub_self, readWhileWithin_zero]
          rfl
      | ok next =>
          have hcount := Word.succ_eq_ok_iff.1 hnext
          have hleft : Word.top.toNat - count.toNat = Word.top.toNat + 1 - next.toNat := by omega
          simp only [readWhileFrom, hleft, ← comp_map]
          congr 1
          funext r
          simp [Prod.map, hcount, Nat.add_assoc]

/-- More rounds than there are words to count with end in the refusal of a count. -/
theorem error_of_rounds (h : Rounds judge S (n + 1) memory c memory' d) {count : Word}
    (hcount : count.toNat + n = Word.top.toNat) :
    (readWhileFrom judge count memory).run S c = .error .add := by
  -- Each round takes a word from those left to count with, so the last one has none.
  induction n generalizing memory c count with
  | zero =>
      cases h with
      | round hround _ =>
          obtain ⟨es, hrun⟩ := hround
          have htop : count = Word.top := UInt64.toNat.inj hcount
          rw [readWhileFrom_eq, run_bind, hrun, htop]
          rfl
  | succ n ih =>
      cases h with
      | round hround hrest =>
          obtain ⟨es, hrun⟩ := hround
          obtain ⟨next, hnext⟩ := Word.exists_succ (a := count) (by omega)
          have hcount' := Word.succ_eq_ok_iff.1 hnext
          have hleft : next.toNat + n = Word.top.toNat := by omega
          have herror := ih hrest hleft
          rw [readWhileFrom_eq, run_bind, hrun]
          simp only [hnext, herror]

/-- Where the judge does not stop, a bare cursor goes on. -/
theorem rounds_of_not_stopsAt (h : ∀ i < n, ¬ S.StopsAt judge memory p i) :
    ∃ memory', Rounds judge S n memory (.startingAt p) memory' (.startingAt (p.onward n)) := by
  induction n generalizing memory p with
  | zero => exact ⟨memory, by rw [Word.onward_zero]; exact .none memory _⟩
  | succ n ih =>
      have hfirst := h 0 (Nat.succ_pos n)
      cases hx : S.get? p with
      | none => exact absurd (.inl (by rw [Word.onward_zero, hx])) hfirst
      | some x =>
          have hj : (judge memory x).1 = true := by
            rw [Source.stopsAt_zero hx] at hfirst
            simpa using hfirst
          have hround : (readIf judge memory).Yields S (.startingAt p) (some x, (judge memory x).2)
              (.startingAt (Word.addSat p 1)) := by
            obtain ⟨es, hread⟩ := yields_read_iff.2 (Cursor.read_bare S p)
            rw [hx] at hread
            refine ⟨es, ?_⟩
            rw [run_readIf_accepted (c := .startingAt p) hx hj, hread]
            rfl
          have hlater (i : Nat) (hi : i < n) :
              ¬ S.StopsAt judge (judge memory x).2 (Word.addSat p 1) i := by
            rw [← Source.stopsAt_succ hx]
            exact h (i + 1) (Nat.succ_lt_succ hi)
          obtain ⟨memory', hrest⟩ := ih hlater
          rw [Word.onward_succ]
          exact ⟨memory', .round hround hrest⟩

/-! ## all runs -/

/-- A run that can be taken to where the judge stops ends there, in bare cursors as in
others that have room for as many reads. -/
theorem yields_of_stopsAt (h : S.StopsAt judge memory p n) (hn : n ≤ Word.top.toNat) :
    ∃ m memory', m ≤ n ∧
      (readWhile judge memory).Yields S (.startingAt p) (m, memory') (.startingAt (p.onward m)) ∧
      ∀ c, c.position = p →
        ((∃ d, (readWhile judge memory).Yields S c (m, memory') d) ↔
          ∃ t, (readTimes m).run S c = .ok t) := by
  obtain ⟨m, hm, hleast⟩ := Source.exists_isLeast_stopsAt h
  have hle := Nat.le_trans hm hn
  refine ⟨m, judge.after memory (S.present (m + 1) p), hm, ?bare, fun c hc => ⟨?reads, ?ends⟩⟩
  case bare => exact yields_readWhile_iff.2 ⟨hle, hleast, rfl, _, yields_readTimes_bare S m p⟩
  case reads =>
    rintro ⟨d, hd⟩
    obtain ⟨-, -, -, xs, es, hxs⟩ := yields_readWhile_iff.1 hd
    exact ⟨_, hxs⟩
  case ends =>
    rintro ⟨t, ht⟩
    subst hc
    exact ⟨t.cursor, yields_readWhile_iff.2 ⟨hle, hleast, rfl, _, yields_of_run ht⟩⟩

/-- A run ends before the first absent position, whatever the size of the source; there
is such a position if the largest one is absent, as in every array.  Counters stop it
only where they have no room for the reads that it makes.  Where no position is absent
the run ends if and only if one of the first `2 ^ 64` items that the judge is shown is
refused; if none of them is, all of them are read, and the count is refused. -/
theorem readWhile_ends (S : Source α) (judge : Judge σ α) (memory : σ) (p : Word) :
    (∀ q, p ≤ q → S.get? q = none →
      ∃ n memory', n ≤ q.toNat - p.toNat ∧
        (readWhile judge memory).Yields S (.startingAt p) (n, memory')
          (.startingAt (p.onward n)) ∧
        ∀ c, c.position = p →
          ((∃ d, (readWhile judge memory).Yields S c (n, memory') d) ↔
            ∃ t, (readTimes n).run S c = .ok t)) ∧
    ((S.get? Word.top = none ∨ ∃ xs : Array α, xs.size ≤ Word.top.toNat ∧ S = .ofArray xs) →
      ∃ n memory', n ≤ Word.top.toNat - p.toNat ∧
        (readWhile judge memory).Yields S (.startingAt p) (n, memory')
          (.startingAt (p.onward n))) ∧
    ((∀ q, p ≤ q → S.get? q ≠ none) →
      ((∃ t, (readWhile judge memory).run S (.startingAt p) = .ok t) ↔
        ∃ i, i < 2 ^ 64 ∧ S.Refuses judge memory p i) ∧
      ((∀ i, i < 2 ^ 64 → ¬ S.Refuses judge memory p i) →
        ∃ memory' d, Rounds judge S (2 ^ 64) memory (.startingAt p) memory' d ∧
          (readWhile judge memory).run S (.startingAt p) = .error .add)) := by
  have htop := Word.toNat_top
  -- Where nothing is, any judge stops, and every position can be counted to.
  have habsent (q : Word) (hq : p ≤ q) (hx : S.get? q = none) :=
    yields_of_stopsAt (Source.stopsAt_of_absent judge memory hq hx)
      (Nat.le_trans (Nat.sub_le _ _) q.toNat_le_top)
  refine ⟨habsent, fun hend => ?finite, fun hfull => ⟨⟨?refused, ?ends⟩, ?unending⟩⟩
  case finite =>
    have hx : S.get? Word.top = none := by
      rcases hend with hx | ⟨xs, hxs, rfl⟩
      · exact hx
      · exact Source.get?_ofArray_top hxs
    obtain ⟨n, memory', hn, hyields, -⟩ :=
      habsent Word.top (UInt64.le_iff_toNat_le.2 p.toNat_le_top) hx
    exact ⟨n, memory', hn, hyields⟩
  case refused =>
    rintro ⟨⟨⟨n, memory'⟩, d, es⟩, ht⟩
    obtain ⟨hn, ⟨hstop, -⟩, -⟩ := yields_readWhile_iff.1 ⟨es, ht⟩
    exact ⟨n, by omega, hstop.resolve_left (hfull _ (p.le_onward n))⟩
  case ends =>
    rintro ⟨i, hi, hrefuses⟩
    obtain ⟨n, memory', -, ⟨es, hrun⟩, -⟩ := yields_of_stopsAt (.inr hrefuses) (by omega)
    exact ⟨_, hrun⟩
  case unending =>
    intro haccepts
    obtain ⟨memory', hrounds⟩ := rounds_of_not_stopsAt (n := 2 ^ 64) fun i hi hstop =>
      haccepts i hi (hstop.resolve_left (hfull _ (p.le_onward i)))
    refine ⟨memory', _, hrounds, ?_⟩
    rw [← readWhileFrom_zero]
    exact error_of_rounds hrounds (by simp [htop])

end Scan

/-- Two items, and one at the largest position. -/
def Source.gapped : Source Char := .ofCells [(2, 'a'), (3, 'b'), (Word.top, 'c')] 0

/-- Runs that end at an absent position, one that is stopped at the largest position by its
judge, and one that is refused there. -/
theorem Scan.readWhile_ends_gapped :
    ((2 : Word) ≤ 4 ∧ Source.gapped.get? 4 = none ∧
      ∃ n memory', n ≤ 2 ∧
        (readWhile Judge.sparing 9).Yields Source.gapped (.startingAt 2) (n, memory')
          (.startingAt (Word.onward 2 n))) ∧
    (∃ n memory', n ≤ Word.top.toNat - 1 ∧
      (readWhile Judge.sparing 9).Yields (.ofArray #['a', 'b', 'c']) (.startingAt 1) (n, memory')
        (.startingAt (Word.onward 1 n))) ∧
    (∀ q, Word.top ≤ q → Source.gapped.get? q ≠ none) ∧
    (∃ t, (readWhile Judge.sparing 3).run Source.gapped (.startingAt Word.top) = .ok t) ∧
    ∃ memory' d,
      Rounds (.ofPredicate fun _ => true) Source.gapped (2 ^ 64) () (.startingAt Word.top)
        memory' d ∧
      (readWhile (.ofPredicate fun _ => true) ()).run Source.gapped (.startingAt Word.top) =
        .error .add := by
  have hfull (q : Word) (hq : Word.top ≤ q) : Source.gapped.get? q ≠ none := by
    rw [UInt64.le_iff_toNat_le] at hq
    rw [UInt64.toNat.inj (Nat.le_antisymm q.toNat_le_top hq)]
    decide
  obtain ⟨n, memory', hn, hyields, -⟩ :=
    (readWhile_ends Source.gapped Judge.sparing 9 2).1 4 (by decide) (by decide)
  have harray := (readWhile_ends (.ofArray #['a', 'b', 'c']) Judge.sparing 9 1).2.1
    (.inr ⟨_, by decide, rfl⟩)
  have hsparing := (readWhile_ends Source.gapped Judge.sparing 3 Word.top).2.2 hfull
  have haccepting := (readWhile_ends Source.gapped (.ofPredicate fun _ => true) () Word.top).2.2
    hfull
  refine ⟨⟨by decide, by decide, n, memory', hn, hyields⟩, harray, hfull, ?_, ?_⟩
  · exact hsparing.1.2 ⟨3, by decide, 'c', by decide, by decide⟩
  · refine haccepting.2 fun i _ hrefuses => ?_
    obtain ⟨x, -, hx⟩ := hrefuses
    cases hx

end ScanCursor
