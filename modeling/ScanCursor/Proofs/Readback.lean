import ScanCursor.Proofs.Display

/-!
# ScanCursor.Proofs.Readback

The location is read back off what a diagnostic displays.

A reader who knows nothing but the form, two numbers with a colon between them and then a
colon and a blank, stops at the first such pair of marks (`before?`) and takes the two numbers
(`Location.parse?`).  Whatever the text goes on with, even with a location of its own, it is
the diagnostic's location that is found.

What is behind it is the text, and the two kinds of diagnostics are told apart by their text
alone.  So what is displayed says which diagnostic it was, but for one ambiguity: a message
can be worded like the end of the input (`Diagnostic.display_keeps_apart`).
-/

namespace ScanCursor

/-! ## up to a mark -/

/-- What stands in front of the first place where a text goes on with a mark. -/
def before? (mark : List Char) : List Char → Option (List Char)
  | [] => if mark = [] then some [] else none
  | c :: cs => if mark <+: c :: cs then some [] else (before? mark cs).map (c :: ·)

section

variable {m : Char} {mark xs : List Char}

/-- A character at which the mark does not begin belongs to what stands before it. -/
theorem before?_cons_of_not_prefix {c : Char} {cs : List Char} (h : ¬ mark <+: c :: cs) :
    before? mark (c :: cs) = (before? mark cs).map (c :: ·) := by
  rw [before?, if_neg h]

/-- Before a mark at the front stands nothing. -/
theorem before?_mark_append (ys : List Char) : before? (m :: mark) (m :: mark ++ ys) = some [] := by
  have hprefix : m :: mark <+: m :: (mark ++ ys) := List.prefix_append (m :: mark) ys
  rw [List.cons_append, before?, if_pos hprefix]

/-- The mark is not found where its first character is not. -/
theorem before?_append (hxs : m ∉ xs) (ys : List Char) :
    before? (m :: mark) (xs ++ ys) = (before? (m :: mark) ys).map (xs ++ ·) := by
  induction xs with
  | nil => simp
  | cons x xs ih =>
      have hx : ¬ m :: mark <+: x :: (xs ++ ys) := fun h =>
        hxs (List.mem_cons.2 (.inl (List.cons_prefix_cons.1 h).1))
      rw [List.cons_append, before?_cons_of_not_prefix hx,
        ih fun h => hxs (List.mem_cons_of_mem x h), Option.map_map]
      rfl

end

/-! ## locations -/

/-- A word written in decimal digits, at least one of them. -/
def Word.parse? (cs : List Char) : Option Word :=
  if cs ≠ [] ∧ cs.all Char.isDigit ∧ Nat.ofDigitChars 10 cs 0 ≤ top.toNat then
    some (UInt64.ofNat (Nat.ofDigitChars 10 cs 0))
  else none

/-- The digits of a word are read back as the word. -/
theorem Word.parse?_toDigits (w : Word) : parse? (Nat.toDigits 10 w.toNat) = some w := by
  have hdigits : (Nat.toDigits 10 w.toNat).all Char.isDigit :=
    List.all_eq_true.2 fun c => Nat.isDigit_of_mem_toDigits (by decide) (by decide)
  rw [parse?, Nat.ofDigitChars_ten_toDigits,
    if_pos ⟨Nat.toDigits_ne_nil, hdigits, w.toNat_le_top⟩, UInt64.ofNat_toNat]

namespace Location

/-- A location written as two words with a colon between them. -/
def parse? (cs : List Char) : Option Location :=
  match cs.splitOn ':' with
  | [row, column] => do return ⟨← Word.parse? row, ← Word.parse? column⟩
  | _ => none

/-- A location is parsed as what it was displayed for. -/
theorem parse?_display (l : Location) : parse? l.display.toList = some l := by
  rw [parse?, toList_display, List.splitOn_append_cons_self_of_not_mem (colon_notMem_toDigits _),
    List.splitOn_eq_singleton (colon_notMem_toDigits _)]
  simp only [Word.parse?_toDigits]
  rfl

/-- The colon of a location has no blank behind it; so a colon that has one, behind the
location, is the first. -/
theorem before?_display_append (l : Location) (rest : List Char) :
    before? [':', ' '] (l.display.toList ++ ([':', ' '] ++ rest)) = some l.display.toList := by
  obtain ⟨d, ds, hcolumn⟩ := List.exists_cons_of_ne_nil
    (Nat.toDigits_ne_nil (n := l.column.toNat) (b := 10))
  have hblank : ' ' ∉ Nat.toDigits 10 l.column.toNat :=
    notMem_toDigits (by decide) (by decide) (by decide) _
  have hcolon : ¬ [':', ' '] <+: ':' :: (d :: ds ++ ([':', ' '] ++ rest)) := by
    intro h
    have hd : ' ' = d := (List.cons_prefix_cons.1 (List.cons_prefix_cons.1 h).2).1
    exact hblank (hcolumn ▸ hd ▸ List.mem_cons_self)
  rw [toList_display, List.append_assoc, before?_append (colon_notMem_toDigits _),
    List.cons_append, hcolumn, before?_cons_of_not_prefix hcolon, ← hcolumn,
    before?_append (colon_notMem_toDigits _), before?_mark_append]
  simp

end Location

/-! ## diagnostics -/

namespace Diagnostic

/-- What is displayed up to the first colon with a blank behind it is the location. -/
theorem before?_display (d : Diagnostic) :
    before? [':', ' '] d.display.toList = some d.location.display.toList := by
  rw [toList_display, Location.before?_display_append]

/-- Nothing else than the location and the text is displayed. -/
theorem display_eq_iff {x y : Diagnostic} :
    x.display = y.display ↔ x.location = y.location ∧ x.text = y.text := by
  constructor
  · exact display_inj
  · rintro ⟨hlocation, htext⟩
    rw [display, display, hlocation, htext]

/-- Messages that are displayed alike are the same, and so are ends of the input.  A message
is displayed like an end of the input if it is at the same location and says that the input
ended, in the same words and with the same expectation.  Of all diagnostics the location is
what is displayed up to the first colon with a blank behind it, and can be parsed. -/
theorem display_keeps_apart :
    (∀ l l' content content',
      (message l content).display = (message l' content').display ↔
        message l content = message l' content') ∧
    (∀ l l' expected expected',
      (unexpectedEnd l expected).display = (unexpectedEnd l' expected').display ↔
        unexpectedEnd l expected = unexpectedEnd l' expected') ∧
    (∀ l l' content expected,
      (message l content).display = (unexpectedEnd l' expected).display ↔
        l = l' ∧ content = "unexpected end of input, expected " ++ expected) ∧
    ∀ d : Diagnostic, before? [':', ' '] d.display.toList = some d.location.display.toList ∧
      Location.parse? d.location.display.toList = some d.location := by
  refine ⟨fun l l' content content' => ?_, fun l l' expected expected' => ?_,
    fun l l' content expected => ?_, fun d => ⟨d.before?_display, d.location.parse?_display⟩⟩
  · rw [display_eq_iff, location_message, location_message, text_message, text_message,
      message.injEq]
  · rw [display_eq_iff, location_unexpectedEnd, location_unexpectedEnd, text_unexpectedEnd,
      text_unexpectedEnd, String.append_right_inj, unexpectedEnd.injEq]
  · rw [display_eq_iff, location_message, location_unexpectedEnd, text_message,
      text_unexpectedEnd]

example :
    before? [':', ' '] (message ⟨0, 7⟩ "1:2: x").display.toList = some ['0', ':', '7'] := by
  decide +kernel

end Diagnostic

end ScanCursor
