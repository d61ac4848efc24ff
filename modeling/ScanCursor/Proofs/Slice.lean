import Mathlib.Data.List.Basic
import ScanCursor.Proofs.Stretch
import ScanCursor.Text

/-!
# ScanCursor.Proofs.Slice

What the text has at a span.

A slice is what the positions of its span hold, one after the other, where they hold
anything (`Text.filterMap_stretch`).  So it does not matter for a slice that the ends of its
span may be reversed or far behind the text: `Text.slice_exact` is the account of it that
holds for all spans.

If a text stands behind another one, its slices are found again at the spans moved up by
the other one's length (`Text.slice_follows`), also where an end of the span cannot be moved
up so far.
-/

namespace ScanCursor

/-- What a list has at places in a row. -/
theorem filterMap_range'_getElem? {α : Type} (xs : List α) (i n : Nat) :
    (List.range' i n).filterMap (xs[·]?) = (xs.drop i).take n := by
  induction n generalizing i with
  | zero => rw [List.range'_zero, List.filterMap_nil, List.take_zero]
  | succ n ih =>
      rw [List.range'_succ, List.filterMap_cons, ih (i + 1)]
      cases hx : xs[i]? with
      | none =>
          have hend : xs.length ≤ i := List.getElem?_eq_none_iff.1 hx
          rw [List.drop_eq_nil_of_le hend, List.drop_eq_nil_of_le (by omega)]
          simp
      | some x =>
          obtain ⟨hi, rfl⟩ := List.getElem?_eq_some_iff.1 hx
          rw [List.drop_eq_getElem_cons hi, List.take_succ_cons]

namespace Text

variable (t : Text) {p q r : Word}

/-- The items of a text are its characters, by their numbers. -/
theorem get?_source (p : Word) : t.source.get? p = t.toList[p.toNat]? := by
  simp [source, toList]

/-- What the text has from one position up to another one. -/
theorem filterMap_stretch (p q : Word) :
    (stretch p q).filterMap t.source.get? = (t.toList.take q.toNat).drop p.toNat := by
  have hplace : ∀ n ∈ List.range' p.toNat (q.toNat - p.toNat),
      t.source.get? (UInt64.ofNat n) = t.toList[n]? := by
    intro n hn
    have hq := q.toNat_lt
    rw [List.mem_range'_1] at hn
    have hword : (UInt64.ofNat n).toNat = n := by
      rw [UInt64.toNat_ofNat']
      omega
    rw [get?_source, hword]
  calc (stretch p q).filterMap t.source.get?
      = (List.range' p.toNat (q.toNat - p.toNat)).filterMap
          fun n => t.source.get? (UInt64.ofNat n) := by rw [stretch, List.filterMap_map]; rfl
    _ = (List.range' p.toNat (q.toNat - p.toNat)).filterMap (t.toList[·]?) :=
        List.filterMap_congr hplace
    _ = (t.toList.take q.toNat).drop p.toNat := by
        rw [filterMap_range'_getElem?, List.drop_take]

/-! ## spans that meet -/

/-- Between a position and itself stands nothing. -/
theorem slice_self (p : Word) : t.slice ⟨p, p⟩ = "" := by
  rw [slice_eq, List.drop_take, Nat.sub_self, List.take_zero]

/-- What the text has at two spans that meet. -/
theorem slice_append (hpq : p ≤ q) (hqr : q ≤ r) :
    t.slice ⟨p, q⟩ ++ t.slice ⟨q, r⟩ = t.slice ⟨p, r⟩ := by
  rw [UInt64.le_iff_toNat_le] at hpq hqr
  have hlength : r.toNat - p.toNat = (q.toNat - p.toNat) + (r.toNat - q.toNat) := by omega
  have hdrop : t.toList.drop q.toNat = (t.toList.drop p.toNat).drop (q.toNat - p.toNat) := by
    rw [List.drop_drop]
    congr 1
    omega
  simp only [slice_eq, List.drop_take]
  rw [hlength, List.take_add, ← hdrop, String.ofList_append]

variable {t}

/-- What the text has at one position. -/
theorem slice_succ (ht : t.toList.length ≤ Word.top.toNat) (p : Word) :
    t.slice ⟨p, Word.addSat p 1⟩ = String.ofList (t.source.get? p).toList := by
  rw [get?_source]
  by_cases hp : p = Word.top
  · rw [hp, Word.addSat_top, slice_self, List.getElem?_eq_none ht]
    rfl
  · have hlength : p.toNat + 1 - p.toNat = 1 := by omega
    rw [slice_eq, Word.toNat_addSat_one hp, List.drop_take, hlength, List.take_one,
      List.head?_drop]

/-! ## all spans -/

/-- What the text has at a span that begins with it and reaches its end. -/
theorem slice_all {n : Word} (hn : t.toList.length ≤ n.toNat) : t.slice ⟨0, n⟩ = t.display := by
  rw [slice_eq, UInt64.toNat_zero, List.drop_zero, List.take_of_length_le hn, display]

/-- There always is a slice: what is left of the span when its ends have been moved into the
text is a range of the text, and there the slice is taken.  It is what the positions of the
span hold, in order; so it has as many characters as the span has positions, or as the text
has from the span's start on if these are fewer.  The slices of spans that meet make up the
slice of the whole, and a slice that begins with the text and reaches its end is all of it:
the text can be made again from it, as it can from its display. -/
theorem slice_exact (t : Text) :
    (∀ s : Span, t.range? (t.clamp s) = some (t.slice s) ∧
      t.slice s = String.ofList ((stretch s.start s.stop).filterMap t.source.get?) ∧
      (t.slice s).length =
        min s.length.toNat (t.toList.length - min s.start.toNat t.toList.length)) ∧
    (∀ p q r : Word, p ≤ q → q ≤ r → t.slice ⟨p, q⟩ ++ t.slice ⟨q, r⟩ = t.slice ⟨p, r⟩) ∧
    (∀ n : Word, t.toList.length ≤ n.toNat →
      t.slice ⟨0, n⟩ = t.display ∧ ofList (t.slice ⟨0, n⟩).toList = t) ∧
    ofString t.display = t := by
  refine ⟨fun s => ⟨t.range?_clamp s, ?_, ?_⟩, fun p q r => t.slice_append, fun n hn => ?_,
    t.ofString_display⟩
  · rw [slice_eq, filterMap_stretch]
  · rw [slice_eq, String.length_ofList, List.length_drop, List.length_take, Span.toNat_length]
    omega
  · rw [slice_all hn, toList_display, ofList_toList]
    exact ⟨rfl, rfl⟩

/-- Slices that meet behind the line feed, the second of them past the end, make one slice;
the one over all positions is the text. -/
theorem slice_exact_overrun :
    ((1 : Word) ≤ 2 ∧ (2 : Word) ≤ Word.top ∧
      (ofString "a\nb").toList.length ≤ Word.top.toNat) ∧
    (ofString "a\nb").slice ⟨1, 2⟩ ++ (ofString "a\nb").slice ⟨2, Word.top⟩ =
      (ofString "a\nb").slice ⟨1, Word.top⟩ ∧
    (ofString "a\nb").slice ⟨0, Word.top⟩ = (ofString "a\nb").display ∧
    ofList ((ofString "a\nb").slice ⟨0, Word.top⟩).toList = ofString "a\nb" := by
  have hpq : (1 : Word) ≤ 2 := by decide
  have hqr : (2 : Word) ≤ Word.top := by decide
  have hn : (ofString "a\nb").toList.length ≤ Word.top.toNat := by decide
  obtain ⟨-, hmeet, hall, -⟩ := slice_exact (ofString "a\nb")
  exact ⟨⟨hpq, hqr, hn⟩, hmeet 1 2 Word.top hpq hqr, hall Word.top hn⟩

/-! ## behind another text -/

variable {a b : Text}

/-- A text that stands behind another one has at each span what the whole has at the span
moved up by the length of the other one, also if an end of the span goes no further up than
the largest word; and in front the whole has what the other text has. -/
theorem slice_follows (ht : t.toList = a.toList ++ b.toList)
    (hlength : t.toList.length ≤ Word.top.toNat) :
    (∀ s : Span, t.slice (s + a.source.size) = b.slice s) ∧
    ∀ s : Span, s.start ≤ a.source.size → s.stop ≤ a.source.size → t.slice s = a.slice s := by
  have htop := Word.toNat_top
  have hsum := congrArg List.length ht
  rw [List.length_append] at hsum
  have hsize : a.source.size.toNat = a.toList.length := by
    rw [toNat_size_source]
    omega
  constructor
  · intro s
    -- The sums that saturate are past the end of the whole text, as the exact ones are.
    have htake : t.toList.take (Word.addSat s.stop a.source.size).toNat =
        a.toList ++ b.toList.take s.stop.toNat := by
      rw [← List.take_length_add_append, ← ht, List.take_eq_take_iff, Word.toNat_addSat]
      omega
    have hdrop : (a.toList ++ b.toList.take s.stop.toNat).drop
          (Word.addSat s.start a.source.size).toNat =
        (a.toList ++ b.toList.take s.stop.toNat).drop (a.toList.length + s.start.toNat) := by
      rw [List.drop_eq_drop_iff, Word.toNat_addSat, List.length_append, List.length_take]
      omega
    rw [slice_eq, slice_eq, Span.start_add, Span.stop_add, htake, hdrop,
      List.drop_length_add_append]
  · intro s hstart hstop
    rw [UInt64.le_iff_toNat_le, hsize] at hstart hstop
    rw [slice_eq, slice_eq, ht, List.take_append_of_le_length hstop]

/-- A span that is moved behind the first text, and at the largest word held there, slices
what it sliced of the second text; a span within the first text slices that. -/
theorem slice_follows_brim :
    ((ofString "ab\nc").toList = (ofString "ab").toList ++ (ofString "\nc").toList ∧
      (ofString "ab\nc").toList.length ≤ Word.top.toNat) ∧
    Span.mk 1 Word.top + (ofString "ab").source.size = ⟨3, Word.top⟩ ∧
    (ofString "ab\nc").slice (Span.mk 1 Word.top + (ofString "ab").source.size) =
      (ofString "\nc").slice ⟨1, Word.top⟩ ∧
    ((1 : Word) ≤ (ofString "ab").source.size ∧ (2 : Word) ≤ (ofString "ab").source.size) ∧
    (ofString "ab\nc").slice ⟨1, 2⟩ = (ofString "ab").slice ⟨1, 2⟩ := by
  have ht : (ofString "ab\nc").toList = (ofString "ab").toList ++ (ofString "\nc").toList := by
    decide
  have hlength : (ofString "ab\nc").toList.length ≤ Word.top.toNat := by decide
  have hstart : (1 : Word) ≤ (ofString "ab").source.size := by decide
  have hstop : (2 : Word) ≤ (ofString "ab").source.size := by decide
  obtain ⟨hbehind, hfront⟩ := slice_follows ht hlength
  exact ⟨⟨ht, hlength⟩, by decide, hbehind ⟨1, Word.top⟩, ⟨hstart, hstop⟩,
    hfront ⟨1, 2⟩ hstart hstop⟩

end Text

end ScanCursor
