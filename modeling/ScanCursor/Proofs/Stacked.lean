import ScanCursor.Proofs.Extent
import ScanCursor.Proofs.Invariant

/-!
# ScanCursor.Proofs.Stacked

Two counters around one cursor see the same items.  If the outer one was made
fresh when the inner one was already at some place, then from there on the inner
one is always that place plus what the outer one has counted, as extents add: on
the outer counter's first row the inner column is ahead, on later rows the two
columns agree (`Session.stacked_of_moments`).

This holds along jumps, returns to checkpoints and bodies that are taken back,
since both counters go through all of them together; only a recount would part
them.
-/

namespace ScanCursor

namespace Counter

variable {base outer inner outer' inner' : Counter} {b : Bool}

/-- The counter `outer` was fresh when `inner` was `base`, and both have seen the
same items since. -/
structure Above (base outer inner : Counter) : Prop where
  next : inner.next.extent = base.next.extent + outer.next.extent
  last_none : outer.last = none → inner.last = base.last
  last_some : ∀ l, outer.last = some l →
    ∃ m, inner.last = some m ∧ m.extent = base.next.extent + l.extent

/-- A fresh counter is above any. -/
theorem above_fresh (base : Counter) : Above base {} base where
  next := (Extent.add_nil base.next.extent).symm
  last_none _ := rfl
  last_some l hl := by cases hl

/-- An item that both counters see keeps them as far apart as they were. -/
theorem Above.advance (h : Above base outer inner) (houter : outer.advance b = .ok outer')
    (hinner : inner.advance b = .ok inner') : Above base outer' inner' := by
  obtain ⟨hnext, hlast⟩ := advance_ok_iff.1 houter
  obtain ⟨hnext', hlast'⟩ := advance_ok_iff.1 hinner
  constructor
  case next => rw [hnext', h.next, hnext, Extent.add_step]
  case last_none =>
    intro hnone
    rw [hlast] at hnone
    cases hnone
  case last_some =>
    intro l hl
    have hlocation : outer.next = l := Option.some.inj (hlast.symm.trans hl)
    exact ⟨inner.next, hlast', by rw [h.next, hlocation]⟩

/-- Around a fresh counter the two stay the same. -/
theorem Above.eq_of_fresh (h : Above {} outer inner) : inner = outer := by
  have horigin : ({} : Counter).next.extent = {} := rfl
  have hextent := h.next
  rw [horigin, Extent.nil_add, Location.extent_inj] at hextent
  have hlast : inner.last = outer.last := by
    cases hl : outer.last with
    | none => exact h.last_none hl
    | some l =>
        obtain ⟨m, hm, hml⟩ := h.last_some l hl
        rw [horigin, Extent.nil_add, Location.extent_inj] at hml
        rw [hm, hml]
  obtain ⟨next, last⟩ := inner
  obtain ⟨next', last'⟩ := outer
  simp only at hextent hlast
  rw [hextent, hlast]

end Counter

/-- The two outermost counters of the cursor have seen the same items since the
outer one was made, around a counter that was `base`. -/
def Cursor.Stacked (base : Counter) (c : Cursor) : Prop :=
  ∃ outer inner below, c.counters = outer :: inner :: below ∧ Counter.Above base outer inner

section

variable {α ε : Type} [Item α] {S : Source α} {base : Counter}

/-- A read keeps the two outermost counters apart by the base. -/
theorem Cursor.Stacked.read {c c' : Cursor} {x : Option α} (hc : c.Stacked base)
    (hread : c.read S = .ok (x, c')) : c'.Stacked base := by
  obtain ⟨outer, inner, below, hcounters, habove⟩ := hc
  obtain ⟨-, -, hcounters'⟩ := Cursor.read_eq_ok_iff.1 hread
  cases hx : c.peek S with
  | none =>
      rw [hx, hcounters] at hcounters'
      exact ⟨outer, inner, below, hcounters', habove⟩
  | some y =>
      rw [hx, hcounters] at hcounters'
      obtain ⟨outer', rest, houter, hrest, hc'⟩ := Cursor.advanceAll_cons_eq_ok_iff.1 hcounters'
      obtain ⟨inner', below', hinner, -, hrest'⟩ := Cursor.advanceAll_cons_eq_ok_iff.1 hrest
      rw [hrest'] at hc'
      exact ⟨outer', inner', below', hc', habove.advance houter hinner⟩

/-- At every moment of a session without recounts, the inner counter of every
cursor and checkpoint is where it was at the beginning plus what the outer one
has counted.  Two counters that are made together stay equal. -/
theorem Session.stacked_of_moments [DecidableEq α] (S : Source α) (p : Word) (base : Counter)
    (below : List Counter) {P : Session α ε} (hP : P.Only (· ≠ .recount)) :
    ∀ b ∈ P.moments .full S (.single (Cursor.withCounter ⟨p, base :: below⟩)),
      b.All fun c => ∃ outer inner rest, c.counters = outer :: inner :: rest ∧
        Counter.Above base outer inner ∧ (base = {} → inner = outer) := by
  intro b hb
  have hread : Scan.Keeps S True (Cursor.Stacked base) (Scan.read : Scan α (Option α)) :=
    Scan.keeps_of_read fun _ _ _ hc hread => hc.read hread
  have hstep := Action.ends_step (A := fun a : Action α ε => a ≠ .recount) hread (.inl trivial)
    (fun q _ c hc => hc) (fun hne => absurd rfl hne)
  have hfresh : Cursor.Stacked base (Cursor.withCounter ⟨p, base :: below⟩) :=
    ⟨{}, base, below, rfl, Counter.above_fresh base⟩
  have hall := all_moments hstep hP (Bench.All.single hfresh) b hb
  apply hall.mono
  intro c hc
  obtain ⟨outer, inner, rest, hcounters, habove⟩ := hc
  refine ⟨outer, inner, rest, hcounters, habove, fun hbase => ?_⟩
  rw [hbase] at habove
  exact habove.eq_of_fresh

end

/-- A body that goes on to the next row, leaves a checkpoint and is taken back; a copy
goes to the checkpoint and reads on. -/
def Session.lookAhead : Session Char Char :=
  act 0 .read fun _ => act 0 .clone fun _ =>
    trying 0 (fun _ => true)
      (act 0 (.jump 1) fun _ => act 0 (.readTimes 2) fun _ => act 0 .checkpoint fun _ => done)
      fun _ => act 1 (.restore 0) fun _ => act 1 .read fun _ => done

/-- The bench at the end of `lookAhead`, where the inner counter was at `1:4`. -/
def Session.lookedAhead : Bench where
  cursors := #[⟨1, [⟨⟨0, 1⟩, some ⟨0, 0⟩⟩, ⟨⟨1, 5⟩, some ⟨1, 4⟩⟩]⟩,
    ⟨4, [⟨⟨1, 2⟩, some ⟨1, 1⟩⟩, ⟨⟨2, 2⟩, some ⟨2, 1⟩⟩]⟩]
  checkpoints := #[⟨3, [⟨⟨1, 1⟩, some ⟨1, 0⟩⟩, ⟨⟨2, 1⟩, some ⟨2, 0⟩⟩]⟩]

/-- Around an inner counter at `1:4` the outer one counts from the origin: four columns
behind on its first row, in the same columns below it. -/
theorem Session.stacked_of_moments_lookAhead :
    lookAhead.Only (· ≠ .recount) ∧
    lookedAhead ∈ lookAhead.moments .full (Source.ofArray #['a', '\n', 'b', 'c'])
      (.single (Cursor.withCounter ⟨0, [⟨⟨1, 4⟩, some ⟨1, 3⟩⟩]⟩)) ∧
    lookedAhead.All fun c => ∃ outer inner rest, c.counters = outer :: inner :: rest ∧
      Counter.Above ⟨⟨1, 4⟩, some ⟨1, 3⟩⟩ outer inner ∧
      ((⟨⟨1, 4⟩, some ⟨1, 3⟩⟩ : Counter) = {} → inner = outer) := by
  have honly : lookAhead.Only (· ≠ .recount) := by simp [lookAhead, Only]
  have hmoment : lookedAhead ∈ lookAhead.moments .full (Source.ofArray #['a', '\n', 'b', 'c'])
      (.single (Cursor.withCounter ⟨0, [⟨⟨1, 4⟩, some ⟨1, 3⟩⟩]⟩)) := by decide +kernel
  exact ⟨honly, hmoment, stacked_of_moments _ 0 ⟨⟨1, 4⟩, some ⟨1, 3⟩⟩ [] honly _ hmoment⟩

end ScanCursor
