import Mathlib.Logic.ExistsUnique
import ScanCursor.Proofs.Extent
import ScanCursor.Scan.Loop
import ScanCursor.Text

/-!
# ScanCursor.Proofs.Lines

Locations address the lines of a text.

The lines are what splitting at the line feeds leaves (`Text.lines`), and
`charAt?` looks a character up by the number of its line and its place there; the
line feed that ends a line is found right behind it.  `charAt?_ofList_take` says
that a character is found where the characters before it reach, and
`exists_of_charAt?` that nothing else is found.

`Text.records_of_length_le` carries this over to a cursor that reads the text: the
location that a read records is where its character is found, every character is
recorded in exactly one place, and behind the text the cursor stands at the end
of the last line.
-/

namespace ScanCursor

/-! ## lookup by line -/

/-- The character at a row and a column of some lines: one of the row's line, or
behind it the line feed that leads to the next line, if there is one. -/
def charAt? (lines : List (List Char)) (e : Extent) : Option Char :=
  match lines[e.rows]? with
  | none => none
  | some row =>
    if e.columns < row.length then row[e.columns]?
    else if e.columns = row.length ∧ e.rows + 1 < lines.length then some '\n'
    else none

section

variable {lines : List (List Char)} {line xs : List Char} {x y : Char} {e : Extent}

/-- Below the first line are the other lines. -/
theorem charAt?_cons_succ (r c : Nat) :
    charAt? (line :: lines) ⟨r + 1, c⟩ = charAt? lines ⟨r, c⟩ := by
  simp [charAt?]

/-- A character in front moves its line by one column. -/
theorem charAt?_cons_zero_succ (c : Nat) :
    charAt? ((y :: line) :: lines) ⟨0, c + 1⟩ = charAt? (line :: lines) ⟨0, c⟩ := by
  simp [charAt?]

/-- The empty text has one line, and nothing on it. -/
theorem charAt?_empty (e : Extent) : charAt? [[]] e = none := by
  obtain ⟨r, c⟩ := e
  cases r <;> simp [charAt?]

/-! ## one character more in front -/

/-- A line feed in front puts an empty line before the others. -/
theorem splitOn_feed (xs : List Char) : ('\n' :: xs).splitOn '\n' = [] :: xs.splitOn '\n' := by
  simp [List.splitOn_cons_eq_if_modifyHead]

/-- Any other character in front goes to the first line. -/
theorem splitOn_cons (hy : y ≠ '\n') (h : xs.splitOn '\n' = line :: lines) :
    (y :: xs).splitOn '\n' = (y :: line) :: lines := by
  simp [List.splitOn_cons_eq_if_modifyHead, hy, h]

/-- There is always a first line. -/
theorem exists_splitOn (xs : List Char) : ∃ line lines, xs.splitOn '\n' = line :: lines :=
  List.exists_cons_of_ne_nil (List.splitOn_ne_nil '\n' xs)

/-- Behind a line feed every extent is one row lower. -/
theorem step_feed_add (e : Extent) :
    ({} : Extent).step (Item.endsLine '\n') + e = ⟨e.rows + 1, e.columns⟩ := by
  have hends : Item.endsLine '\n' = true := rfl
  ext <;> simp [hends, Nat.add_comm]

/-- Behind any other character an extent within the row is one column wider. -/
theorem step_add_zero (hy : y ≠ '\n') (c : Nat) :
    ({} : Extent).step (Item.endsLine y) + ⟨0, c⟩ = ⟨0, c + 1⟩ := by
  have hends : Item.endsLine y = false := Bool.eq_false_iff.2 (mt endsLine_iff.1 hy)
  ext <;> simp [hends, Nat.add_comm]

/-- An extent that ends in a later row is not changed by a character of the first one. -/
theorem step_add_succ (hy : y ≠ '\n') (r c : Nat) :
    ({} : Extent).step (Item.endsLine y) + ⟨r + 1, c⟩ = ⟨r + 1, c⟩ := by
  have hends : Item.endsLine y = false := Bool.eq_false_iff.2 (mt endsLine_iff.1 hy)
  ext <;> simp [hends]

/-- The first character stands at the origin, a line feed at the end of its empty line. -/
theorem charAt?_origin (y : Char) (xs : List Char) :
    charAt? ((y :: xs).splitOn '\n') {} = some y := by
  obtain ⟨line, lines, hsplit⟩ := exists_splitOn xs
  by_cases hy : y = '\n'
  · rw [hy, splitOn_feed, hsplit]
    simp [charAt?]
  · rw [splitOn_cons hy hsplit]
    simp [charAt?]

/-- What was found in a text is found behind one more character. -/
theorem charAt?_step_add (y : Char) (xs : List Char) (e : Extent) :
    charAt? ((y :: xs).splitOn '\n') (({} : Extent).step (Item.endsLine y) + e) =
      charAt? (xs.splitOn '\n') e := by
  obtain ⟨line, lines, hsplit⟩ := exists_splitOn xs
  by_cases hy : y = '\n'
  · rw [hy, splitOn_feed, step_feed_add, hsplit, charAt?_cons_succ]
  · rw [splitOn_cons hy hsplit, hsplit]
    obtain ⟨r, c⟩ := e
    cases r with
    | zero => rw [step_add_zero hy, charAt?_cons_zero_succ]
    | succ r =>
        rw [step_add_succ hy]
        simp [charAt?]

/-- Only the first character stands at the origin; all others stand behind it. -/
theorem eq_step_add_of_charAt? (h : charAt? ((y :: xs).splitOn '\n') e = some x) (he : e ≠ {}) :
    ∃ d, e = ({} : Extent).step (Item.endsLine y) + d := by
  obtain ⟨r, c⟩ := e
  by_cases hy : y = '\n'
  · cases r with
    | zero =>
        rw [hy, splitOn_feed] at h
        have hc : c ≠ 0 := fun hc => he (by rw [hc])
        simp [charAt?, hc] at h
    | succ r => exact ⟨⟨r, c⟩, by rw [hy, step_feed_add]⟩
  · cases r with
    | zero =>
        cases c with
        | zero => exact absurd rfl he
        | succ c => exact ⟨⟨0, c⟩, by rw [step_add_zero hy]⟩
    | succ r => exact ⟨⟨r + 1, c⟩, by rw [step_add_succ hy]⟩

end

/-! ## texts -/

/-- A character is found where the characters before it reach; where all of them
reach, nothing is found. -/
theorem charAt?_ofList_take (xs : List Char) (i : Nat) :
    charAt? (xs.splitOn '\n') (Extent.ofList (xs.take i)) = xs[i]? := by
  induction xs generalizing i with
  | nil =>
      rw [List.splitOn_nil, charAt?_empty]
      simp
  | cons y xs ih =>
      cases i with
      | zero => exact charAt?_origin y xs
      | succ i =>
          have htail := ih i
          rw [List.take_succ_cons, Extent.ofList_cons, charAt?_step_add, htail,
            List.getElem?_cons_succ]

/-- What is found is a character of the text, with the characters before it. -/
theorem exists_of_charAt? {xs : List Char} {e : Extent} {x : Char}
    (h : charAt? (xs.splitOn '\n') e = some x) :
    ∃ i, i < xs.length ∧ Extent.ofList (xs.take i) = e := by
  induction xs generalizing e with
  | nil =>
      rw [List.splitOn_nil, charAt?_empty] at h
      cases h
  | cons y xs ih =>
      by_cases he : e = {}
      · exact ⟨0, by simp, by simp [he]⟩
      · obtain ⟨d, hd⟩ := eq_step_add_of_charAt? h he
        rw [hd, charAt?_step_add] at h
        obtain ⟨i, hi, hreach⟩ := ih h
        exact ⟨i + 1, by simpa using hi, by
          rw [List.take_succ_cons, Extent.ofList_cons, hreach, hd]⟩

/-- A text reaches to the end of its last line. -/
theorem ofList_eq_lastLine (xs : List Char) :
    ∃ line, (xs.splitOn '\n').getLast? = some line ∧
      (Extent.ofList xs).rows + 1 = (xs.splitOn '\n').length ∧
      (Extent.ofList xs).columns = line.length := by
  induction xs with
  | nil => exact ⟨[], by simp⟩
  | cons y xs ih =>
      obtain ⟨last, hlast, hrows, hcolumns⟩ := ih
      obtain ⟨line, lines, hsplit⟩ := exists_splitOn xs
      rw [hsplit] at hlast hrows
      by_cases hy : y = '\n'
      · have hlast' : ([] :: line :: lines).getLast? = some last := by
          rw [List.getLast?_cons_cons, hlast]
        rw [hy, splitOn_feed, Extent.ofList_cons, step_feed_add, hsplit]
        exact ⟨last, hlast', by simpa using hrows, hcolumns⟩
      · rw [splitOn_cons hy hsplit, Extent.ofList_cons]
        cases lines with
        | nil =>
            -- On the first line the new character counts as a column.
            have hrow : (Extent.ofList xs).rows = 0 := by simpa using hrows
            have hline : line = last := by simpa using hlast
            have hreach : Extent.ofList xs = ⟨0, line.length⟩ := by
              ext
              · exact hrow
              · rw [hcolumns, hline]
            rw [hreach, step_add_zero hy]
            exact ⟨y :: line, by simp⟩
        | cons next lines =>
            have hreach : Extent.ofList xs = ⟨lines.length + 1, last.length⟩ := by
              ext
              · simpa using hrows
              · exact hcolumns
            have hlast' : ((y :: line) :: next :: lines).getLast? = some last := by
              rw [List.getLast?_cons_cons] at hlast ⊢
              exact hlast
            rw [hreach, step_add_succ hy]
            exact ⟨last, hlast', by simp⟩

/-! ## reading -/

/-- The location of the latest item, by the outermost counter. -/
def Cursor.latest (c : Cursor) : Option Location := c.counters.head?.bind Counter.last

namespace Text

/-- The lines of the text: its characters split at the line feeds, which are on no
line. -/
def lines (t : Text) : List (List Char) := t.toList.splitOn '\n'

/-- The read with the number `i`, counted from the beginning of the text and with a
fresh counter, answers the character with that number and records `l`. -/
def Records (t : Text) (i : Nat) (l : Location) : Prop :=
  ∃ xs c, (Scan.readTimes (i + 1)).Yields t.source (Cursor.startingAt 0).withCounter xs c ∧
    xs.getLast? = some t.toList[i]? ∧ c.latest = some l

/-- Where a cursor is after `m` reads from the beginning of the text. -/
structure Reached (t : Text) (m : Nat) (c : Cursor) : Prop where
  position : c.position = Word.ofNatSat m
  counters : ∃ k, c.counters = [k] ∧ k.next.extent = Extent.ofList (t.toList.take m) ∧
    ∀ i, m = i + 1 → i < t.toList.length →
      ∃ l, k.last = some l ∧ l.extent = Extent.ofList (t.toList.take i)

variable {t : Text} {m : Nat} {c : Cursor}

/-- Before the first read a cursor with a fresh counter is at the beginning. -/
theorem reached_zero (t : Text) : t.Reached 0 (Cursor.startingAt 0).withCounter where
  position := by decide
  counters := ⟨{}, rfl, by simp; rfl, by simp⟩

/-- Where words can count the characters, every read finds the next one. -/
theorem Reached.peek (ht : t.toList.length ≤ Word.top.toNat) (hc : t.Reached m c) :
    c.peek t.source = t.toList[m]? := by
  have htop := Word.toNat_top
  have hposition : c.position.toNat = min m Word.top.toNat := by
    rw [hc.position, Word.toNat_ofNatSat, htop]
  have hpeek : c.peek t.source = t.toList[c.position.toNat]? := by
    simp [Cursor.peek, source, toList]
  rw [hpeek, hposition]
  by_cases hm : m ≤ Word.top.toNat
  · rw [Nat.min_eq_left hm]
  · rw [List.getElem?_eq_none (by omega), List.getElem?_eq_none (by omega)]

/-- Every read finds the character with its number, or nothing behind the last one, and is
not refused. -/
theorem Reached.read (ht : t.toList.length ≤ Word.top.toNat) (hc : t.Reached m c) :
    ∃ c', c.read t.source = .ok (t.toList[m]?, c') ∧ t.Reached (m + 1) c' := by
  have hpeek := hc.peek ht
  obtain ⟨hposition, k, hk, hnext, hlast⟩ := hc
  have hposition' : Word.addSat c.position 1 = Word.ofNatSat (m + 1) := by
    apply UInt64.toNat.inj
    rw [hposition, Word.toNat_addSat, Word.toNat_ofNatSat, Word.toNat_ofNatSat, UInt64.toNat_one]
    omega
  cases hx : t.toList[m]? with
  | none =>
      -- Past the end nothing is counted.
      have hend : t.toList.length ≤ m := List.getElem?_eq_none_iff.1 hx
      have htake : t.toList.take (m + 1) = t.toList.take m := by
        rw [List.take_of_length_le hend, List.take_of_length_le (by omega)]
      refine ⟨⟨Word.ofNatSat (m + 1), [k]⟩, ?_, rfl, k, rfl, ?_, ?_⟩
      · rw [Cursor.read_eq_ok_iff, hpeek, hx]
        exact ⟨rfl, hposition'.symm, hk.symm⟩
      · rw [htake, hnext]
      · intro i hi hlt
        omega
  | some x =>
      have hlt : m < t.toList.length := (List.getElem?_eq_some_iff.1 hx).1
      have htake : t.toList.take (m + 1) = t.toList.take m ++ [x] := by
        rw [List.take_add_one, hx, Option.toList_some]
      have hsize : k.next.extent.size < Word.top.toNat := by
        have hle := Extent.size_ofList_le (t.toList.take m)
        rw [List.length_take] at hle
        rw [hnext]
        omega
      obtain ⟨k', hk'⟩ := Counter.exists_advance hsize (Item.endsLine x)
      obtain ⟨hnext', hlast'⟩ := Counter.advance_ok_iff.1 hk'
      refine ⟨⟨Word.ofNatSat (m + 1), [k']⟩, ?_, rfl, k', rfl, ?_, ?_⟩
      · rw [Cursor.read_eq_ok_iff, hpeek, hx]
        refine ⟨rfl, hposition'.symm, ?_⟩
        rw [hk]
        exact Cursor.advanceAll_cons_eq_ok_iff.2 ⟨k', [], hk', rfl, rfl⟩
      · rw [hnext', hnext, htake, Extent.ofList_concat]
      · intro i hi _
        have him : i = m := by omega
        exact ⟨k.next, hlast', by rw [hnext, him]⟩

/-- After `n` more reads the cursor has come `n` characters further. -/
theorem Reached.readTimes (ht : t.toList.length ≤ Word.top.toNat) (hc : t.Reached m c) (n : Nat) :
    ∃ d, (Scan.readTimes n).Yields t.source c ((List.range' m n).map (t.toList[·]?)) d ∧
      t.Reached (m + n) d := by
  induction n generalizing m c with
  | zero =>
      rw [Scan.readTimes_zero]
      exact ⟨c, Scan.yields_pure_iff.2 ⟨rfl, rfl⟩, hc⟩
  | succ n ih =>
      obtain ⟨c', hread, hc'⟩ := hc.read ht
      obtain ⟨d, hrest, hd⟩ := ih hc'
      have hm : m + 1 + n = m + (n + 1) := by omega
      rw [hm] at hd
      have hyields := Scan.yields_map_iff (f := (t.toList[m]? :: ·)).2 ⟨_, hrest, rfl⟩
      refine ⟨d, ?_, hd⟩
      rw [Scan.readTimes_succ, List.range'_succ, List.map_cons]
      exact Scan.yields_bind_iff.2 ⟨_, c', Scan.yields_read_iff.2 hread, hyields⟩

/-- A read from the beginning records how far the characters before it reach. -/
theorem exists_records (ht : t.toList.length ≤ Word.top.toNat) {i : Nat}
    (hi : i < t.toList.length) :
    ∃ l, t.Records i l ∧ l.extent = Extent.ofList (t.toList.take i) := by
  obtain ⟨c, hyields, hc⟩ := t.reached_zero.readTimes ht (i + 1)
  rw [Nat.zero_add] at hc
  obtain ⟨-, k, hk, -, hlast⟩ := hc
  obtain ⟨l, hl, hextent⟩ := hlast i rfl hi
  have hlatest : c.latest = some l := by
    rw [Cursor.latest, hk, List.head?_cons, Option.bind_some, hl]
  have hitem : ((List.range' 0 (i + 1)).map (t.toList[·]?)).getLast? = some t.toList[i]? := by
    simp [List.range'_concat]
  exact ⟨l, ⟨_, c, hyields, hitem, hlatest⟩, hextent⟩

/-- A read records no more than one location. -/
theorem Records.unique {i : Nat} {l l' : Location} (h : t.Records i l) (h' : t.Records i l') :
    l = l' := by
  obtain ⟨xs, c, hyields, -, hl⟩ := h
  obtain ⟨xs', c', hyields', -, hl'⟩ := h'
  have hc : c = c' := (Scan.yields_unique hyields hyields').2
  rw [hc, hl'] at hl
  exact (Option.some.inj hl).symm

/-- In a text that words can count, as every text in memory, every read records
where its character is among the lines.  Wherever a character is, exactly one read
records it.  After the last character, and after any reads behind it, the cursor
is at the end of the last line. -/
theorem records_of_length_le (t : Text) (ht : t.toList.length ≤ Word.top.toNat) :
    (∀ i, i < t.toList.length →
      ∃ l, t.Records i l ∧ charAt? t.lines l.extent = t.toList[i]?) ∧
    (∀ e, (charAt? t.lines e).isSome →
      ∃! i, i < t.toList.length ∧ ∃ l, t.Records i l ∧ l.extent = e) ∧
    ∀ n, t.toList.length ≤ n →
      ∃ xs c line,
        (Scan.readTimes n).Yields t.source (Cursor.startingAt 0).withCounter xs c ∧
        t.lines.getLast? = some line ∧ c.location.row.toNat + 1 = t.lines.length ∧
        c.location.column.toNat = line.length := by
  refine ⟨fun i hi => ?_, fun e he => ?_, fun n hn => ?_⟩
  · obtain ⟨l, hrecords, hextent⟩ := exists_records ht hi
    exact ⟨l, hrecords, by rw [hextent, lines, charAt?_ofList_take]⟩
  · obtain ⟨x, hx⟩ := Option.isSome_iff_exists.1 he
    obtain ⟨i, hi, hreach⟩ := exists_of_charAt? hx
    obtain ⟨l, hrecords, hextent⟩ := exists_records ht hi
    refine ⟨i, ⟨hi, l, hrecords, by rw [hextent, hreach]⟩, ?_⟩
    rintro j ⟨hj, l', hrecords', hextent'⟩
    obtain ⟨m, hrecords'', hextent''⟩ := exists_records ht hj
    have hl : m = l' := hrecords''.unique hrecords'
    apply Extent.ofList_take_inj (Nat.le_of_lt hj) (Nat.le_of_lt hi)
    rw [← hextent'', hl, hextent', hreach]
  · obtain ⟨c, hyields, hc⟩ := t.reached_zero.readTimes ht n
    obtain ⟨-, k, hk, hnext, -⟩ := hc
    obtain ⟨line, hline, hrows, hcolumns⟩ := ofList_eq_lastLine t.toList
    have hlocation : c.location.extent = Extent.ofList t.toList := by
      rw [Cursor.location, hk, hnext, Nat.zero_add, List.take_of_length_le hn]
    rw [← hlocation] at hrows hcolumns
    exact ⟨_, c, line, hyields, hline, hrows, hcolumns⟩

/-- A carriage return, an empty line, and no line feed at the end. -/
def ragged : Text := ofList ['a', '\r', '\n', '\n', 'b']

/-- The first feed is read at the end of its line; one read alone, that of the second feed,
records the beginning of the empty line; seven reads end behind the last character. -/
theorem records_of_length_le_ragged :
    ragged.toList.length ≤ Word.top.toNat ∧ ragged.lines = [['a', '\r'], [], ['b']] ∧
    (∃ l, ragged.Records 2 l ∧ charAt? ragged.lines l.extent = some '\n') ∧
    (∃! i, i < 5 ∧ ∃ l, ragged.Records i l ∧ l.extent = ⟨1, 0⟩) ∧
    ∃ xs c line,
      (Scan.readTimes 7).Yields ragged.source (Cursor.startingAt 0).withCounter xs c ∧
      ragged.lines.getLast? = some line ∧ c.location.row.toNat + 1 = 3 ∧
      c.location.column.toNat = line.length := by
  have hlength : ragged.toList.length ≤ Word.top.toNat := by decide
  obtain ⟨hrecords, hunique, hend⟩ := records_of_length_le ragged hlength
  exact ⟨hlength, by decide, hrecords 2 (by decide), hunique ⟨1, 0⟩ (by decide),
    hend 7 (by decide)⟩

end Text

end ScanCursor
