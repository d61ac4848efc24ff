import ScanCursor.Source
import ScanCursor.Span

/-!
# ScanCursor.Text

A text is a sequence of characters, addressed by character and not by byte, so
that a position never falls inside a character.

A range can be taken out of a text only where it lies in the text and its end is
not before its start (`range?`).  A `slice` is total all the same: first the end of
the span is taken no further than the text's end, and then its start no further than
that (`clamp`).
-/

namespace ScanCursor

/-- Characters addressed by their place in the sequence. -/
structure Text where
  chars : Array Char := #[]
  deriving DecidableEq

namespace Text

/-- The characters of a list, in its order. -/
def ofList (cs : List Char) : Text := ⟨cs.toArray⟩

/-- The characters of a string. -/
def ofString (s : String) : Text := ofList s.toList

/-- The characters in order. -/
def toList (t : Text) : List Char := t.chars.toList

/-- The characters as a string. -/
def display (t : Text) : String := String.ofList t.toList

/-- The text as something to scan: its characters, and as many of them as there are. -/
def source (t : Text) : Source Char := Source.ofArray t.chars

/-- A display has the characters of the text, in their order. -/
@[simp] theorem toList_display (t : Text) : t.display.toList = t.toList :=
  String.toList_ofList

/-- A text can be made again from its characters. -/
@[simp] theorem ofList_toList (t : Text) : ofList t.toList = t := by
  simp [ofList, toList]

/-- A text is determined by its display. -/
@[simp] theorem ofString_display (t : Text) : ofString t.display = t := by
  simp [ofString]

/-! ## ranges and slices -/

/-- The characters of a range of the text; nothing if the range is reversed or goes
past the end. -/
def range? (t : Text) (s : Span) : Option String :=
  if s.start ≤ s.stop ∧ s.stop ≤ t.source.size then
    some (String.ofList (t.chars.extract s.start.toNat s.stop.toNat).toList)
  else none

/-- The span with its end no further than the text's end, and its start no further
than that. -/
def clamp (t : Text) (s : Span) : Span :=
  let stop := min s.stop t.source.size
  ⟨min s.start stop, stop⟩

/-- The size is the number of characters, held at the largest word. -/
theorem toNat_size_source (t : Text) :
    t.source.size.toNat = min t.toList.length 18446744073709551615 := Word.toNat_ofNatSat _

/-- A clamped span ends where the span does, but not behind the text. -/
theorem toNat_stop_clamp (t : Text) (s : Span) :
    (t.clamp s).stop.toNat = min s.stop.toNat t.source.size.toNat := Word.toNat_min _ _

/-- A clamped span starts where the span does, but not behind its own end. -/
theorem toNat_start_clamp (t : Text) (s : Span) :
    (t.clamp s).start.toNat = min s.start.toNat (t.clamp s).stop.toNat := Word.toNat_min _ _

/-- What is left of a span is a range of the text, wherever the ends of the span were. -/
theorem isSome_range?_clamp (t : Text) (s : Span) : (t.range? (t.clamp s)).isSome := by
  have hstart := t.toNat_start_clamp s
  have hstop := t.toNat_stop_clamp s
  have hrange : (t.clamp s).start ≤ (t.clamp s).stop ∧ (t.clamp s).stop ≤ t.source.size := by
    rw [UInt64.le_iff_toNat_le, UInt64.le_iff_toNat_le]
    omega
  rw [range?, if_pos hrange]
  rfl

/-- The characters that a span covers, as far as the text reaches. -/
def slice (t : Text) (s : Span) : String :=
  (t.range? (t.clamp s)).get (t.isSome_range?_clamp s)

/-- The slice is the range at the clamped span, which is always there. -/
theorem range?_clamp (t : Text) (s : Span) : t.range? (t.clamp s) = some (t.slice s) :=
  (Option.some_get _).symm

/-- To take a range out of a text is to leave out what comes after it and before it. -/
theorem eq_of_range? {t : Text} {s : Span} {cs : String} (h : t.range? s = some cs) :
    cs = String.ofList ((t.toList.take s.stop.toNat).drop s.start.toNat) := by
  unfold range? at h
  split at h
  · cases h
    rw [Array.toList_extract, List.extract_eq_take_drop, List.drop_take]
    rfl
  · cases h

/-- Nor does it matter that the ends of the span were moved to where the text ends. -/
theorem slice_eq (t : Text) (s : Span) :
    t.slice s = String.ofList ((t.toList.take s.stop.toNat).drop s.start.toNat) := by
  have hsize := t.toNat_size_source
  have hstop := t.toNat_stop_clamp s
  have hstart := t.toNat_start_clamp s
  have hlt := s.stop.toNat_lt
  have htake : t.toList.take (t.clamp s).stop.toNat = t.toList.take s.stop.toNat := by
    rw [List.take_eq_take_iff]
    omega
  rw [eq_of_range? (t.range?_clamp s), htake]
  congr 1
  rw [List.drop_eq_drop_iff, List.length_take]
  omega

end Text

end ScanCursor
