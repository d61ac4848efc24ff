import ScanCursor.Proofs.Course
import ScanCursor.Proofs.Lines

/-!
# ScanCursor.Proofs.Expecting

Expecting an item does all of it or nothing.

Where a read is possible at all there are two ways in which an expectation ends
(`Scan.yields_expect_iff`): the item is the wanted one, and the cursor is where the read
leaves it; or it is not, and the cursor is the one from before, in its position and in
all its counters.  The complaint is made at the location from before the read.  That is
the location that the read itself would have recorded, since a counter records where it
expected the item (`Cursor.latest_of_read`).
-/

namespace ScanCursor

variable {α : Type} [Item α] {S : Source α} {c d : Cursor} {x : Option α}

/-- A read records the location that was ahead. -/
theorem Cursor.latest_of_read (hcounters : c.counters ≠ []) {y : α}
    (h : c.read S = .ok (some y, d)) : d.latest = some c.location := by
  obtain ⟨p, ks⟩ := c
  cases ks with
  | nil => exact absurd rfl hcounters
  | cons k ks =>
      obtain ⟨hpeek, -, hadvance⟩ := read_eq_ok_iff.1 h
      rw [← hpeek] at hadvance
      obtain ⟨k', ks', hk, -, hd⟩ := advanceAll_cons_eq_ok_iff.1 hadvance
      have hlast := (Counter.advance_eq_ok_iff.1 hk).2
      rw [latest, hd, List.head?_cons, Option.bind_some, hlast, location]

namespace Scan

variable [DecidableEq α] {wanted : α}

/-- An expectation is a read, or a read that is taken back. -/
theorem run_expect_read (wanted : α) (S : Source α) (c : Cursor) :
    (expect wanted).run S c = (read.run S c).map fun t =>
      if t.value = some wanted then ⟨.ok wanted, t.cursor, t.trace⟩
      else ⟨.error (mismatch c.location wanted t.value), c,
        t.trace ++ t.cursor.restoreEvents c⟩ := by
  rw [run_expect, run_rewindIf]
  cases (read : Scan α (Option α)).run S c with
  | error => rfl
  | ok t => by_cases h : t.value = some wanted <;> simp [Except.map, h]

/-- How an expectation ends, told by what a read would find: with the item read, or with a
complaint and the cursor as it was. -/
theorem yields_expect_iff (hread : c.read S = .ok (x, d)) {result : Except Diagnostic α}
    {e : Cursor} :
    (expect wanted).Yields S c result e ↔
      if x = some wanted then result = .ok wanted ∧ e = d
      else result = .error (mismatch c.location wanted x) ∧ e = c := by
  obtain ⟨es, hrun⟩ := yields_read_iff.2 hread
  rw [Yields, run_expect_read, hrun]
  split <;> simp_all [Except.map, eq_comm]

/-- Wherever a character can be read, also past the end and at the largest position, a
character is expected as a whole.  The wanted one is read.  Another one, or none, is
complained about where it was found, which is where a read would have recorded it; and
neither the position nor any counter has changed. -/
theorem expect_all_or_nothing {S : Source Char} {x : Option Char} (hcounters : c.counters ≠ [])
    (hread : c.read S = .ok (x, d)) (wanted : Char) :
    (c.peek S = some wanted → (expect wanted).Yields S c (.ok wanted) d) ∧
    (∀ found, c.peek S = some found → found ≠ wanted →
      (expect wanted).Yields S c (.error (.message c.location
        ("expected " ++ Quoted.char wanted ++ " got " ++ Quoted.char found))) c) ∧
    (c.peek S = none →
      (expect wanted).Yields S c (.error (.unexpectedEnd c.location (Quoted.char wanted))) c) ∧
    ∀ problem e, (expect wanted).Yields S c (.error problem) e →
      e = c ∧ problem.location = c.location ∧
        ∀ found, c.peek S = some found → d.latest = some problem.location := by
  have hx : x = c.peek S := (Cursor.read_eq_ok_iff.1 hread).1
  refine ⟨fun hpeek => ?wanted, fun found hpeek hne => ?another, fun hpeek => ?absent,
    fun problem e hyields => ?problem⟩
  case wanted =>
    rw [yields_expect_iff hread, hx, hpeek, if_pos rfl]
    exact ⟨rfl, rfl⟩
  case another =>
    have hne' : some found ≠ some wanted := fun h => hne (Option.some.inj h)
    rw [yields_expect_iff hread, hx, hpeek, if_neg hne']
    exact ⟨rfl, rfl⟩
  case absent =>
    rw [yields_expect_iff hread, hx, hpeek, if_neg (Option.some_ne_none wanted).symm]
    exact ⟨rfl, rfl⟩
  case problem =>
    rw [yields_expect_iff hread] at hyields
    split at hyields
    · cases hyields.1
    · obtain ⟨hproblem, he⟩ := hyields
      have hlocation : problem.location = c.location := by
        cases hproblem
        cases x <;> rfl
      refine ⟨he, hlocation, fun found hpeek => ?_⟩
      -- a read records an item where the outermost counter is before it
      rw [hx, hpeek] at hread
      rw [hlocation]
      exact Cursor.latest_of_read hcounters hread

end Scan

/-- Two counters, at the largest position. -/
def Cursor.perched : Cursor := ⟨Word.top, [⟨⟨0, 2⟩, some ⟨0, 1⟩⟩, ⟨⟨4, 0⟩, none⟩]⟩

/-- A line feed at the largest position, and nothing else. -/
def Source.lastFeed : Source Char := .ofCells [(Word.top, '\n')] 3

/-- An expectation that is met at the last position, one that is not, and one where there is
nothing. -/
theorem Scan.expect_all_or_nothing_perched :
    Cursor.perched.counters ≠ [] ∧
    Cursor.perched.read Source.lastFeed =
      .ok (some '\n', ⟨Word.top, [⟨⟨1, 0⟩, some ⟨0, 2⟩⟩, ⟨⟨5, 0⟩, some ⟨4, 0⟩⟩]⟩) ∧
    (expect '\n').Yields Source.lastFeed Cursor.perched (.ok '\n')
      ⟨Word.top, [⟨⟨1, 0⟩, some ⟨0, 2⟩⟩, ⟨⟨5, 0⟩, some ⟨4, 0⟩⟩]⟩ ∧
    (expect 'x').Yields Source.lastFeed Cursor.perched
      (.error (.message ⟨0, 2⟩ "expected 'x' got '\\n'")) Cursor.perched ∧
    (expect 'x').Yields Source.lastFeed (Cursor.perched.jump 3)
      (.error (.unexpectedEnd ⟨0, 2⟩ "'x'")) (Cursor.perched.jump 3) := by
  have hread : Cursor.perched.read Source.lastFeed =
      .ok (some '\n', ⟨Word.top, [⟨⟨1, 0⟩, some ⟨0, 2⟩⟩, ⟨⟨5, 0⟩, some ⟨4, 0⟩⟩]⟩) := rfl
  have hread' : (Cursor.perched.jump 3).read Source.lastFeed =
      .ok (none, (Cursor.perched.jump 3).skip) := rfl
  have hquoted : "expected " ++ Quoted.char 'x' ++ " got " ++ Quoted.char '\n' =
      "expected 'x' got '\\n'" := by decide +kernel
  have hquoted' : Quoted.char 'x' = "'x'" := by decide +kernel
  have hanother :=
    (expect_all_or_nothing (by decide) hread 'x').2.1 '\n' (by decide) (by decide)
  have habsent := (expect_all_or_nothing (by decide) hread' 'x').2.2.1 (by decide)
  rw [hquoted] at hanother
  rw [hquoted'] at habsent
  exact ⟨by decide, hread, (expect_all_or_nothing (by decide) hread '\n').1 (by decide),
    hanother, habsent⟩

end ScanCursor
