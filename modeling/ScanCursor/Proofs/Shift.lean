import Mathlib.Algebra.GroupWithZero.Nat
import ScanCursor.Span

/-!
# ScanCursor.Proofs.Shift

Spans that are moved up.

The two ends of a span saturate each on its own, so a shift may shorten a span or leave
nothing of it, and no later shift gives back what is lost.  Shifts add up all the same: an
end that is held at the largest word on the way is held there too when it is moved up once
by the sum (`Word.addSat_ofNatSat`), so the order of shifts does not matter
(`Span.foldl_shift`).  How long a span is after a shift is read off its ends, each cut
where it would be moved past the largest word (`Span.toNat_length_add`).

`Span.shifts_add_up` puts the laws of shifts and joins together.
-/

namespace ScanCursor

/-- It does not matter whether a sum is held at the largest word once or twice. -/
theorem Word.addSat_ofNatSat (a : Word) (m n : Nat) :
    addSat (addSat a (ofNatSat m)) (ofNatSat n) = addSat a (ofNatSat (m + n)) := by
  apply UInt64.toNat.inj
  simp only [toNat_addSat, toNat_ofNatSat]
  omega

namespace Span

variable (s t u : Span) (a b k : Word)

/-! ## shifts in a row -/

@[simp] protected theorem add_zero : s + (0 : Word) = s := by
  change s.shift 0 = s
  rw [shift, Word.addSat_zero, Word.addSat_zero]

/-- Two shifts in a row are one by both numbers, each of them held at the largest word. -/
theorem add_ofNatSat (m n : Nat) :
    s + Word.ofNatSat m + Word.ofNatSat n = s + Word.ofNatSat (m + n) := by
  change (s.shift _).shift _ = s.shift _
  simp only [shift, Word.addSat_ofNatSat]

/-- Two shifts are one by their sum. -/
theorem add_add : s + a + b = s + Word.ofNatSat (a.toNat + b.toNat) := by
  rw [← add_ofNatSat, Word.ofNatSat_toNat, Word.ofNatSat_toNat]

/-- Shifts in a row are one by their sum. -/
theorem foldl_shift (ks : List Word) :
    ks.foldl shift s = s + Word.ofNatSat (ks.map UInt64.toNat).sum := by
  induction ks generalizing s with
  | nil => exact s.add_zero.symm
  | cons k ks ih =>
      calc (k :: ks).foldl shift s
          = s + k + Word.ofNatSat (ks.map UInt64.toNat).sum := ih (s + k)
        _ = s + Word.ofNatSat k.toNat + Word.ofNatSat (ks.map UInt64.toNat).sum := by
            rw [Word.ofNatSat_toNat]
        _ = s + Word.ofNatSat ((k :: ks).map UInt64.toNat).sum := by
            rw [add_ofNatSat, List.map_cons, List.sum_cons]

/-- Shifts may be made in any order. -/
theorem foldl_shift_of_perm {ks ls : List Word} (h : ks.Perm ls) :
    ls.foldl shift s = s + Word.ofNatSat (ks.map UInt64.toNat).sum := by
  rw [foldl_shift, (h.map UInt64.toNat).sum_nat]

/-! ## what a shift leaves -/

/-- The length after a shift, from the part of each end that can be moved up so far. -/
theorem toNat_length_add :
    (s + k).length.toNat = min s.stop.toNat (Word.top.toNat - k.toNat) -
      min s.start.toNat (Word.top.toNat - k.toNat) := by
  have hk := Word.toNat_le_top k
  rw [Word.toNat_top] at hk ⊢
  rw [toNat_length, start_add, stop_add, Word.toNat_addSat, Word.toNat_addSat]
  omega

/-- A shift makes no span longer. -/
theorem length_add_le : (s + k).length ≤ s.length := by
  rw [UInt64.le_iff_toNat_le, toNat_length_add, toNat_length]
  omega

/-- Only a span with a position in it is shortened, and only if its end does not fit. -/
theorem length_add_eq_iff :
    (s + k).length = s.length ↔ s.isEmpty ∨ s.stop.toNat + k.toNat ≤ Word.top.toNat := by
  have hk := Word.toNat_le_top k
  rw [← UInt64.toNat_inj, toNat_length_add, toNat_length, isEmpty_iff]
  omega

/-- An empty span stays empty. -/
theorem isEmpty_add {s : Span} (h : s.isEmpty) : (s + k).isEmpty := by
  rw [isEmpty_iff] at h ⊢
  rw [start_add, stop_add, Word.toNat_addSat, Word.toNat_addSat]
  omega

/-! ## all laws -/

/-- Shifts in a row are one shift by their sum, held at the largest word, in whatever order
they are made.  A join may be shifted before or after it is made, and of spans that are
joined only the first start and the last end count.  No shift makes a span longer: each end
is moved only as far as it can be, so a span that has a position in it keeps its length just
if its end fits, and an empty one stays empty. -/
theorem shifts_add_up :
    (∀ (s : Span) (a b : Word),
      s + a + b = s + Word.ofNatSat (a.toNat + b.toNat) ∧
      s + b + a = s + Word.ofNatSat (a.toNat + b.toNat)) ∧
    (∀ (s : Span) (ks ls : List Word), ks.Perm ls →
      ls.foldl shift s = s + Word.ofNatSat (ks.map UInt64.toNat).sum) ∧
    (∀ (s t : Span) (k : Word), s.join t + k = (s + k).join (t + k)) ∧
    (∀ s t u : Span, (s.join t).join u = s.join u ∧ s.join (t.join u) = s.join u) ∧
    (∀ (s : Span) (k : Word),
      (s + k).length.toNat = min s.stop.toNat (Word.top.toNat - k.toNat) -
        min s.start.toNat (Word.top.toNat - k.toNat) ∧
      (s + k).length ≤ s.length ∧
      ((s + k).length = s.length ↔ s.isEmpty ∨ s.stop.toNat + k.toNat ≤ Word.top.toNat)) ∧
    ∀ (s : Span) (k : Word), s.isEmpty → (s + k).isEmpty := by
  refine ⟨fun s a b => ⟨s.add_add a b, ?_⟩, fun s ks ls => s.foldl_shift_of_perm,
    fun s t k => rfl, fun s t u => ⟨rfl, rfl⟩,
    fun s k => ⟨s.toNat_length_add k, s.length_add_le k, s.length_add_eq_iff k⟩,
    fun s k => isEmpty_add k⟩
  rw [add_add, Nat.add_comm]

/-- Shifts that leave nothing of a span, in two orders, and a span whose ends are reversed. -/
theorem shifts_add_up_collapsed :
    [3, 2, 1].Perm [1, 3, (2 : Word)] ∧
    [1, 3, 2].foldl shift (Span.mk 18446744073709551610 18446744073709551613) =
      Span.mk 18446744073709551610 18446744073709551613 + Word.ofNatSat 6 ∧
    Span.mk 18446744073709551610 18446744073709551613 + Word.ofNatSat 6 =
      ⟨Word.top, Word.top⟩ ∧
    (Span.mk 5 3).isEmpty ∧ (Span.mk 5 3 + Word.top).isEmpty := by
  have hperm : [3, 2, 1].Perm [1, 3, (2 : Word)] := by decide
  have hempty : (Span.mk 5 3).isEmpty := by decide
  obtain ⟨-, horder, -, -, -, hstay⟩ := shifts_add_up
  exact ⟨hperm, horder ⟨18446744073709551610, 18446744073709551613⟩ [3, 2, 1] [1, 3, 2] hperm,
    by decide, hempty, hstay ⟨5, 3⟩ Word.top hempty⟩

end Span

end ScanCursor
