import ScanCursor.Proofs.Display
import ScanCursor.Proofs.Expecting

/-!
# ScanCursor.Proofs.Legible

What a failed expectation displays can be read back (`Scan.expect_legible`): the location,
the wanted character and what was found in its place.

After the location the text is cut from the left.  A character between single quotes is a
code that needs no end mark: its first characters tell which of the ways to write it was
taken, and with it where the closing quote is (`Quoted.Spells.append_inj`).  What was found
is then what remains.

Which of the ways is taken for which character does not matter, and is left open: all that
is asked of the quoted form is `Quoted.Shows`.  `Quoted.shows_char` is the proof that the
form of `Quoted.char` is of this kind.
-/

namespace ScanCursor

/-! ## quoted characters -/

namespace Quoted

/-- The characters with a short escape between single quotes, each with what follows the
backslash. -/
def shortEscapes : List (Char × Char) :=
  [('\x00', '0'), ('\t', 't'), ('\r', 'r'), ('\n', 'n'), ('\'', '\''), ('\\', '\\')]

/-- The ways to write a character between single quotes: its short escape, its code point,
and, of all but the quote and the backslash, the character itself. -/
inductive Spells : List Char → Char → Prop where
  | short {c e : Char} (h : (c, e) ∈ shortEscapes) : Spells ['\\', e] c
  | codePoint (c : Char) : Spells (codePointEscape c) c
  | itself {c : Char} (hquote : c ≠ '\'') (hslash : c ≠ '\\') : Spells [c] c

/-- A text is a character between single quotes. -/
def Shows (s : String) (c : Char) : Prop :=
  ∃ b, Spells b c ∧ s.toList = '\'' :: b ++ ['\'']

/-- Between single quotes there are no other short escapes. -/
theorem mem_shortEscapes {c e : Char} (h : shortEscape '\'' c = some e) :
    (c, e) ∈ shortEscapes := by
  unfold shortEscape at h
  grind [shortEscapes]

/-- What stands between the quotes is one of the ways to write the character. -/
theorem spells_body (c : Char) : Spells (body '\'' c) c := by
  unfold body
  split
  · next e h => exact .short (mem_shortEscapes h)
  · next h =>
    split
    · exact .itself (by rintro rfl; cases h) (by rintro rfl; cases h)
    · exact .codePoint c

/-- The quoted form of a character shows it. -/
theorem shows_char (c : Char) : Shows (char c) c :=
  ⟨body '\'' c, spells_body c, by simp [char, form]⟩

/-- The letter of a short escape tells the character. -/
theorem shortEscapes_inj :
    ∀ p ∈ shortEscapes, ∀ q ∈ shortEscapes, p.2 = q.2 → p.1 = q.1 := by
  decide

/-- No short escape looks like the beginning of a code point. -/
theorem shortEscapes_ne_u : ∀ p ∈ shortEscapes, p.2 ≠ 'u' := by
  decide

/-- Between its braces a code point has its digits and nothing else. -/
theorem codePointEscape_append (c : Char) (rs : List Char) :
    codePointEscape c ++ rs =
      '\\' :: 'u' :: '\x7b' :: (Nat.toDigits 16 c.toNat ++ '\x7d' :: rs) := by
  simp [codePointEscape]

/-- A code point can be read off a text that goes on after it. -/
theorem codePointEscape_append_inj {c c' : Char} {rs rs' : List Char}
    (h : codePointEscape c ++ rs = codePointEscape c' ++ rs') : c = c' ∧ rs = rs' := by
  have hbrace : ∀ n, '\x7d' ∉ Nat.toDigits 16 n :=
    notMem_toDigits (by decide) (by decide) (by decide)
  simp only [codePointEscape_append, List.cons.injEq, true_and] at h
  obtain ⟨hdigits, hrest⟩ := eq_and_eq_of_append_mark (hbrace _) (hbrace _) h
  exact ⟨Char.toNat_inj.1 (toDigits_inj (by decide) (by decide) hdigits), hrest⟩

/-- A character written between quotes can be read off a text that goes on after the
closing quote. -/
theorem Spells.append_inj {b b' rs rs' : List Char} {c c' : Char} (hb : Spells b c)
    (hb' : Spells b' c') (h : b ++ '\'' :: rs = b' ++ '\'' :: rs') : c = c' ∧ rs = rs' := by
  -- the first character tells a backslash from a character that stands for itself, and
  -- the second one a short escape from a code point
  cases hb with
  | short he =>
      cases hb' with
      | short he' =>
          obtain ⟨hletter, hrest⟩ := List.cons.inj (List.cons.inj h).2
          exact ⟨shortEscapes_inj _ he _ he' hletter, (List.cons.inj hrest).2⟩
      | codePoint =>
          exact absurd (List.cons.inj (List.cons.inj h).2).1 (shortEscapes_ne_u _ he)
      | itself _ hslash => exact absurd (List.cons.inj h).1.symm hslash
  | codePoint =>
      cases hb' with
      | short he' =>
          exact absurd (List.cons.inj (List.cons.inj h).2).1.symm (shortEscapes_ne_u _ he')
      | codePoint =>
          obtain ⟨hc, hrest⟩ := codePointEscape_append_inj h
          exact ⟨hc, (List.cons.inj hrest).2⟩
      | itself _ hslash => exact absurd (List.cons.inj h).1.symm hslash
  | itself _ hslash =>
      cases hb' with
      | short => exact absurd (List.cons.inj h).1 hslash
      | codePoint => exact absurd (List.cons.inj h).1 hslash
      | itself =>
          obtain ⟨hc, hrest⟩ := List.cons.inj h
          exact ⟨hc, (List.cons.inj hrest).2⟩

/-- A quoted character can be read off the front of a text, and leaves the rest. -/
theorem Shows.append_inj {s s' : String} {c c' : Char} {rs rs' : List Char} (hs : Shows s c)
    (hs' : Shows s' c') (h : s.toList ++ rs = s'.toList ++ rs') : c = c' ∧ rs = rs' := by
  obtain ⟨b, hb, hs⟩ := hs
  obtain ⟨b', hb', hs'⟩ := hs'
  simp only [hs, hs', List.cons_append, List.append_assoc, List.nil_append] at h
  exact hb.append_inj hb' (List.cons.inj h).2

/-- A text shows at most one character. -/
theorem Shows.inj {s : String} {c c' : Char} (hs : Shows s c) (hs' : Shows s c') : c = c' :=
  (hs.append_inj hs' (rfl : s.toList ++ [] = s.toList ++ [])).1

end Quoted

/-! ## complaints -/

namespace Scan

section

variable [Item Char]

/-- Where nothing was found the complaint names the wanted character only. -/
theorem text_mismatch_none (l : Location) (wanted : Char) :
    (mismatch l wanted none).text =
      "unexpected end of input, expected " ++ Item.quoted wanted := rfl

/-- Where another character was found the complaint names both. -/
theorem text_mismatch_some (l : Location) (wanted x : Char) :
    (mismatch l wanted (some x)).text =
      "expected " ++ Item.quoted wanted ++ " got " ++ Item.quoted x := rfl

@[simp] theorem location_mismatch (l : Location) (wanted : Char) (found : Option Char) :
    (mismatch l wanted found).location = l := by
  cases found <;> rfl

/-- A failed expectation complains about what it found, at the location ahead. -/
theorem error_of_expect {S : Source Char} {c d : Cursor} {wanted : Char} {problem : Diagnostic}
    (h : (expect wanted).Yields S c (.error problem) d) :
    problem = mismatch c.location wanted (c.peek S) := by
  obtain ⟨es, hrun⟩ := h
  have hvalue := value_of_expect hrun
  split at hvalue
  · cases hvalue
  · exact Except.error.inj hvalue

variable (hquoted : ∀ x : Char, Quoted.Shows (Item.quoted x) x)

include hquoted

/-- What was wanted, and what was found, can be read off the text of a complaint. -/
theorem mismatch_text_inj {l l' : Location} {wanted wanted' : Char} {found found' : Option Char}
    (h : (mismatch l wanted found).text = (mismatch l' wanted' found').text) :
    wanted = wanted' ∧ found = found' := by
  cases found with
  | none =>
      cases found' with
      | none =>
          rw [text_mismatch_none, text_mismatch_none, String.append_right_inj] at h
          exact ⟨(hquoted wanted).inj (h ▸ hquoted wanted'), rfl⟩
      | some x' =>
          rw [text_mismatch_none, text_mismatch_some, ← String.toList_inj] at h
          exact absurd h (by simp)
  | some x =>
      cases found' with
      | none =>
          rw [text_mismatch_some, text_mismatch_none, ← String.toList_inj] at h
          exact absurd h (by simp)
      | some x' =>
          rw [text_mismatch_some, text_mismatch_some, ← String.toList_inj] at h
          simp only [String.toList_append, List.append_assoc, List.append_cancel_left_eq] at h
          obtain ⟨hwanted, hgot⟩ := (hquoted wanted).append_inj (hquoted wanted') h
          rw [List.append_cancel_left_eq, String.toList_inj] at hgot
          exact ⟨hwanted, congrArg some ((hquoted x).inj (hgot ▸ hquoted x'))⟩

/-- Where it was, what was wanted, and what was found there, can all be read off what a
failed expectation displays. -/
theorem expect_legible {S S' : Source Char} {c c' d d' : Cursor} {wanted wanted' : Char}
    {problem problem' : Diagnostic}
    (h : (expect wanted).Yields S c (.error problem) d)
    (h' : (expect wanted').Yields S' c' (.error problem') d')
    (hdisplay : problem.display = problem'.display) :
    c.location = c'.location ∧ wanted = wanted' ∧ c.peek S = c'.peek S' := by
  rw [error_of_expect h, error_of_expect h'] at hdisplay
  obtain ⟨hlocation, htext⟩ := Diagnostic.display_inj hdisplay
  rw [location_mismatch, location_mismatch] at hlocation
  exact ⟨hlocation, mismatch_text_inj hquoted htext⟩

end

end Scan

/-- One counter, at the start of what it counts. -/
def Cursor.indented : Cursor := ⟨0, [⟨⟨0, 2⟩, none⟩]⟩

/-- A line feed, and nothing else. -/
def Source.firstFeed : Source Char := .ofArray #['\n']

/-- Two cursors with different counters meet different sources alike: one location, one
character wanted and one found, and the complaint says all three. -/
theorem Scan.expect_legible_indented :
    (∀ x : Char, Quoted.Shows (Item.quoted x) x) ∧
    (mismatch ⟨0, 2⟩ '\'' (some '\n')).display = "0:2: expected '\\'' got '\\n'" ∧
    (expect '\'').Yields Source.lastFeed Cursor.perched
      (.error (mismatch ⟨0, 2⟩ '\'' (some '\n'))) Cursor.perched ∧
    (expect '\'').Yields Source.firstFeed Cursor.indented
      (.error (mismatch ⟨0, 2⟩ '\'' (some '\n'))) Cursor.indented ∧
    Cursor.perched.location = Cursor.indented.location ∧ '\'' = '\'' ∧
      Cursor.perched.peek Source.lastFeed = Cursor.indented.peek Source.firstFeed := by
  have hperched : Cursor.perched.read Source.lastFeed =
      .ok (some '\n', ⟨Word.top, [⟨⟨1, 0⟩, some ⟨0, 2⟩⟩, ⟨⟨5, 0⟩, some ⟨4, 0⟩⟩]⟩) := rfl
  have hindented : Cursor.indented.read Source.firstFeed =
      .ok (some '\n', ⟨1, [⟨⟨1, 0⟩, some ⟨0, 2⟩⟩]⟩) := rfl
  have hlast : (expect '\'').Yields Source.lastFeed Cursor.perched
      (.error (mismatch ⟨0, 2⟩ '\'' (some '\n'))) Cursor.perched := by
    rw [yields_expect_iff hperched, if_neg (by decide)]
    exact ⟨rfl, rfl⟩
  have hfirst : (expect '\'').Yields Source.firstFeed Cursor.indented
      (.error (mismatch ⟨0, 2⟩ '\'' (some '\n'))) Cursor.indented := by
    rw [yields_expect_iff hindented, if_neg (by decide)]
    exact ⟨rfl, rfl⟩
  exact ⟨Quoted.shows_char, by decide +kernel, hlast, hfirst,
    expect_legible Quoted.shows_char hlast hfirst rfl⟩

end ScanCursor
