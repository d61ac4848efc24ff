import ScanCursor.Counter
import ScanCursor.Item
import ScanCursor.Source
import ScanCursor.Span

/-!
# ScanCursor.Cursor

A cursor is a place in a source: the position of the next item, and any number
of counters that are kept in step with its reads.  A bare cursor has none;
`withCounter` puts a fresh one around a cursor, `inner` takes the outermost one
off again.

A cursor is a value and holds no source; the source is an argument of the
operations that look at items.  So a copy of a cursor is independent of it,
and a checkpoint is the cursor that was.

* `read` answers the item at the position and always moves one position on,
  also past the end; at the largest position it stays there.
* Counters move only when an item was there, and are otherwise touched by
  nothing but going back to an earlier cursor.
-/

namespace ScanCursor

/-- The position of the next item, and the counters, outermost first. -/
structure Cursor where
  position : Word := 0
  counters : List Counter := []
  deriving DecidableEq

namespace Cursor

variable {α : Type}

/-! ## making cursors -/

/-- A bare cursor at a position. -/
def startingAt (p : Word) : Cursor := { position := p }

/-- The cursor inside a fresh counter. -/
def withCounter (c : Cursor) : Cursor := { c with counters := {} :: c.counters }

/-- The cursor without its outermost counter. -/
def inner (c : Cursor) : Cursor := { c with counters := c.counters.tail }

/-- The cursor with a fresh counter in place of its outermost one. -/
def recount (c : Cursor) : Cursor := { c with counters := c.counters.modifyHead fun _ => {} }

/-- A recount makes no other counter than a fresh one. -/
theorem mem_recount {c : Cursor} {k : Counter} (hk : k ∈ c.recount.counters) :
    k = {} ∨ k ∈ c.counters := by
  obtain ⟨p, ks⟩ := c
  cases ks with
  | nil => exact .inr hk
  | cons l ks =>
      rcases List.mem_cons.1 hk with hk | hk
      · exact .inl hk
      · exact .inr (List.mem_cons_of_mem l hk)

/-! ## looking -/

/-- The item at the position. -/
def peek (S : Source α) (c : Cursor) : Option α := S.get? c.position

/-- The item `n` places after the position. -/
def peekNth (S : Source α) (c : Cursor) (n : Word) : Option α :=
  S.get? (Word.addSat c.position n)

/-- Whether there is no item at the position. -/
def atEnd (S : Source α) (c : Cursor) : Bool := (c.peek S).isNone

/-- How far the position is from the source's size; nothing if it is past it. -/
def remaining (S : Source α) (c : Cursor) : Word := Word.subSat S.size c.position

/-- The positions from `start` to the cursor. -/
def spanFrom (start : Word) (c : Cursor) : Span := ⟨start, c.position⟩

/-- Where the next item is, by the outermost counter. -/
def location (c : Cursor) : Location :=
  match c.counters with
  | [] => .origin
  | k :: _ => k.next

/-- The item `0` positions ahead is the one at the position. -/
@[simp] theorem peekNth_zero (S : Source α) (c : Cursor) : c.peekNth S 0 = c.peek S := by
  simp [peekNth, peek]

/-! ## moving -/

/-- The cursor at another position, its counters as they were. -/
def jump (p : Word) (c : Cursor) : Cursor := { c with position := p }

/-- The cursor one position on, its counters as they were. -/
def skip (c : Cursor) : Cursor := { c with position := Word.addSat c.position 1 }

/-- The counters after one more item. -/
def advanceAll (endsLine : Bool) : List Counter → Except Overflow (List Counter)
  | [] => .ok []
  | k :: ks => do
    let k' ← k.advance endsLine
    let ks' ← advanceAll endsLine ks
    return k' :: ks'

/-- The item at the position, and the cursor behind it. -/
def read [Item α] (S : Source α) (c : Cursor) : Except Overflow (Option α × Cursor) :=
  match c.peek S with
  | none => .ok (none, c.skip)
  | some x => do
    let counters ← advanceAll (Item.endsLine x) c.counters
    return (some x, { c.skip with counters })

@[simp] theorem advanceAll_nil (b : Bool) : advanceAll b [] = .ok [] := rfl

/-- Counters advance together exactly if each of them does. -/
theorem advanceAll_cons_eq_ok_iff {b : Bool} {k : Counter} {ks ls : List Counter} :
    advanceAll b (k :: ks) = .ok ls ↔
      ∃ k' ks', k.advance b = .ok k' ∧ advanceAll b ks = .ok ks' ∧ ls = k' :: ks' := by
  cases h : k.advance b <;> cases h' : advanceAll b ks <;>
    simp [advanceAll, h, h', bind, Except.bind, pure, Except.pure, eq_comm]

/-- Advancing makes no counter and drops none. -/
theorem length_of_advanceAll {b : Bool} {ks ls : List Counter} (h : advanceAll b ks = .ok ls) :
    ls.length = ks.length := by
  induction ks generalizing ls with
  | nil => cases h; rfl
  | cons k ks ih =>
      obtain ⟨k', ks', -, hks, rfl⟩ := advanceAll_cons_eq_ok_iff.1 h
      rw [List.length_cons, List.length_cons, ih hks]

/-- Each counter advances by itself. -/
theorem exists_of_advanceAll {b : Bool} {ks ls : List Counter} (h : advanceAll b ks = .ok ls)
    {i : Nat} {l : Counter} (hl : ls[i]? = some l) :
    ∃ k, ks[i]? = some k ∧ k.advance b = .ok l := by
  induction ks generalizing ls i with
  | nil => cases h; cases hl
  | cons k ks ih =>
      obtain ⟨k', ks', hk, hks, rfl⟩ := advanceAll_cons_eq_ok_iff.1 h
      cases i with
      | zero =>
          cases hl
          exact ⟨k, rfl, hk⟩
      | succ i => exact ih hks hl

/-- A read in all its parts: it finds what `peek` shows and goes on by one position, and the
counters advance if an item was there. -/
theorem read_eq_ok_iff [Item α] {S : Source α} {c c' : Cursor} {x : Option α} :
    c.read S = .ok (x, c') ↔
      x = c.peek S ∧ c'.position = Word.addSat c.position 1 ∧
        match c.peek S with
        | none => c'.counters = c.counters
        | some y => advanceAll (Item.endsLine y) c.counters = .ok c'.counters := by
  obtain ⟨p', ks'⟩ := c'
  unfold read
  split
  · next h => simp [skip, h, eq_comm]
  · next y h =>
    cases advanceAll (Item.endsLine y) c.counters <;>
      simp [skip, h, bind, Except.bind, pure, Except.pure, eq_comm]

/-- A read makes no counter and drops none. -/
theorem length_of_read [Item α] {S : Source α} {c c' : Cursor} {x : Option α}
    (h : c.read S = .ok (x, c')) : c'.counters.length = c.counters.length := by
  have hcounters := (read_eq_ok_iff.1 h).2.2
  cases hx : c.peek S with
  | none =>
      rw [hx] at hcounters
      rw [hcounters]
  | some y =>
      rw [hx] at hcounters
      exact length_of_advanceAll hcounters

/-- A counter after a read was there before it, or has advanced by the item. -/
theorem mem_of_read [Item α] {S : Source α} {c c' : Cursor} {x : Option α} {k' : Counter}
    (h : c.read S = .ok (x, c')) (hk' : k' ∈ c'.counters) :
    k' ∈ c.counters ∨
      ∃ y k, c.peek S = some y ∧ k ∈ c.counters ∧ k.advance (Item.endsLine y) = .ok k' := by
  have hcounters := (read_eq_ok_iff.1 h).2.2
  cases hx : c.peek S with
  | none =>
      rw [hx] at hcounters
      rw [hcounters] at hk'
      exact .inl hk'
  | some y =>
      rw [hx] at hcounters
      obtain ⟨i, hi⟩ := List.mem_iff_getElem?.1 hk'
      obtain ⟨k, hk, hadvance⟩ := exists_of_advanceAll hcounters hi
      exact .inr ⟨y, k, rfl, List.mem_of_getElem? hk, hadvance⟩

/-- A bare cursor can always be read. -/
theorem read_bare [Item α] (S : Source α) (p : Word) :
    (startingAt p).read S = .ok (S.get? p, startingAt (Word.addSat p 1)) := by
  rw [read_eq_ok_iff]
  cases h : S.get? p <;> simp [startingAt, peek, h]

end Cursor

end ScanCursor
