import ScanCursor.Word

/-!
# ScanCursor.Span

A span is a half-open range of positions, from `start` up to but excluding
`stop`.  The two ends are independent words: a span whose `stop` lies before
its `start` is legal, and empty.
-/

namespace ScanCursor

/-- The positions from `start` up to but excluding `stop`. -/
structure Span where
  start : Word := 0
  stop : Word := 0
  deriving DecidableEq

namespace Span

/-- The span from this one's start to the other one's end. -/
def join (s t : Span) : Span := ⟨s.start, t.stop⟩

/-- How many positions the span covers. -/
def length (s : Span) : Word := Word.subSat s.stop s.start

/-- Whether the span covers no position. -/
def isEmpty (s : Span) : Bool := s.length = 0

/-- Both ends moved up by `k`, each held at the largest word when it does not fit. -/
def shift (s : Span) (k : Word) : Span := ⟨Word.addSat s.start k, Word.addSat s.stop k⟩

instance : HAdd Span Word Span := ⟨shift⟩

@[simp] theorem start_add (s : Span) (k : Word) : (s + k).start = Word.addSat s.start k := rfl

@[simp] theorem stop_add (s : Span) (k : Word) : (s + k).stop = Word.addSat s.stop k := rfl

/-- The length in numbers; of a reversed span it is `0`. -/
@[simp] theorem toNat_length (s : Span) : s.length.toNat = s.stop.toNat - s.start.toNat :=
  Word.toNat_subSat _ _

/-- A span is empty if its end does not lie behind its start. -/
theorem isEmpty_iff {s : Span} : s.isEmpty ↔ s.stop.toNat ≤ s.start.toNat := by
  simp only [isEmpty, decide_eq_true_eq, ← UInt64.toNat_inj, toNat_length, UInt64.toNat_zero]
  omega

end Span

end ScanCursor
