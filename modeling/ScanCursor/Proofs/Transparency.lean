import Mathlib.Logic.Function.Iterate
import ScanCursor.Proofs.Lockstep

/-!
# ScanCursor.Proofs.Transparency

Counters do not disturb what they count.  A session that sees only what every
kind of cursor has to show is carried out alike by a cursor with any number of
counters (`Interpreter.counted`) and by the bare cursor inside them
(`Interpreter.bare`), which has no `expect` and tries to read the wanted item
instead.  The answers are the same, and at every moment the bare cursors are
those inside the counted ones (`play_bare_of_play_counted`).
-/

namespace ScanCursor

variable {α ε : Type}

/-- The cursor inside all its counters. -/
def Cursor.bare (c : Cursor) : Cursor := startingAt c.position

/-- Taking off one counter after another ends at the cursor inside. -/
theorem Cursor.iterate_inner (c : Cursor) : inner^[c.counters.length] c = c.bare := by
  obtain ⟨p, ks⟩ := c
  induction ks with
  | nil => rfl
  | cons k ks ih => exact ih

/-- The bench with the cursors and checkpoints inside all their counters. -/
def Bench.bare (b : Bench) : Bench where
  cursors := b.cursors.map Cursor.bare
  checkpoints := b.checkpoints.map Cursor.bare

/-- The reply without what only counters can tell. -/
def Reply.bare : Reply α ε → Reply α ε
  | .expected result => .item result.toOption
  | .inner c next => .inner c.bare next
  | reply => reply

/-- From a reply in which no counter has part nothing is left out. -/
theorem Reply.bare_of_isPlain {reply : Reply α ε} (h : reply.IsPlain) : reply.bare = reply := by
  cases reply with
  | expected | inner => exact h.elim
  | _ => rfl

namespace Interpreter

variable [DecidableEq α] [Item α]

/-- Steps of a cursor with counters, for a session that cannot see them. -/
def counted : Interpreter α ε where
  step a b := Prod.map Reply.bare id <$> a.scan b
  shown := Cursor.bare

/-- Steps of a bare cursor. -/
def bare : Interpreter α ε where
  step
    | .expect wanted, b => do
      let found ← Scan.rewindIf (fun found => found ≠ some wanted) Scan.read
      return (.item (found.filter (· = wanted)), b)
    | a, b => a.scan b
  shown c := c

end Interpreter

/-! ## the cursor inside -/

/-- `d` is the cursor inside all counters of `c`. -/
def Cursor.Within (c d : Cursor) : Prop := d = c.bare

/-- The cursor inside the counters reads what they let through. -/
theorem Scan.abreast_within [Item α] (S : Source α) : Abreast S S Cursor.Within where
  peek c d h := by rw [h]; rfl
  read c d x c' h hread := by
    subst h
    obtain ⟨rfl, hposition, -⟩ := Cursor.read_eq_ok_iff.1 hread
    exact ⟨_, Cursor.read_bare S c.position, by rw [Cursor.Within, Cursor.bare, hposition]⟩

/-- The cursors inside are the bare ones, slot by slot. -/
theorem Aligned.within_iff {xs ys : Array Cursor} :
    Aligned Cursor.Within xs ys ↔ ys = xs.map Cursor.bare := by
  constructor
  · intro h
    refine Array.ext_getElem? fun i => ?_
    rw [Array.getElem?_map]
    cases hx : xs[i]? with
    | none => exact h.getElem?_eq_none_iff.2 hx
    | some c =>
        obtain ⟨d, hd, rfl⟩ := h.exists_of_getElem? hx
        exact hd
  · intro h
    subst h
    exact ⟨by simp, fun i c d hc hd => by simp_all [Cursor.Within]⟩

/-- The bench inside is the bare bench. -/
theorem Bench.related_within_iff {b b' : Bench} :
    Bench.Related Cursor.Within b b' ↔ b' = b.bare := by
  obtain ⟨cs, ks⟩ := b'
  simp only [Bench.bare, Bench.mk.injEq, ← Aligned.within_iff]
  exact ⟨fun h => ⟨h.cursors, h.checkpoints⟩, fun h => ⟨h.1, h.2⟩⟩

/-- The benches inside are the bare benches, moment by moment. -/
theorem Bench.map_bare_of_forall₂ {bs bs' : List Bench}
    (h : List.Forall₂ (Bench.Related Cursor.Within) bs bs') : bs' = bs.map Bench.bare := by
  induction h with
  | nil => rfl
  | cons hb _ ih => rw [List.map_cons, ih, Bench.related_within_iff.1 hb]

/-! ## steps -/

/-- The replies are those of the bare cursor, and the benches correspond. -/
def Interpreter.Corresponds (v v' : Reply α ε × Bench) : Prop :=
  v'.1 = v.1.bare ∧ Bench.Related Cursor.Within v.2 v'.2

namespace Interpreter

open Scan

variable {S : Source α} {b b' : Bench}

/-- A step of a cursor with counters is a step of the cursor inside. -/
theorem simulates_step [DecidableEq α] [Item α] (hb : Bench.Related Cursor.Within b b')
    (a : Action α ε) :
    Simulates S S Cursor.Within Corresponds (a.scan b) (Interpreter.bare.step a b') := by
  have h := abreast_within S
  -- Only what counters show, and what changes them, differs on the bare cursor.
  cases a with
  | expect wanted =>
      exact .bind (simulates_expect h wanted) fun r found hr =>
        .pure ⟨by rw [Reply.bare, hr], hb⟩
  | inner =>
      exact .bind (V := fun r r' => r' = r.bare) (.look fun c d hcd => by rw [hcd]; rfl)
        fun r r' hr => .pure ⟨hr, hb⟩
  | recount =>
      exact .bind (.move fun c d hcd => by rw [hcd]; rfl) fun _ _ _ => .pure ⟨rfl, hb⟩
  | _ =>
      refine Simulates.mono (Action.simulates_plain h (fun c d hcd => ?_) (fun p c d hcd => ?_) hb
        trivial) fun v v' ⟨hreply, hplain, hbench⟩ => ?_
      · rw [hcd]
        rfl
      · rw [hcd]
        rfl
      · exact ⟨by rw [hreply, Reply.bare_of_isPlain hplain], hbench⟩

end Interpreter

/-! ## sessions -/

namespace Session

/-- What counted cursors do, the bare cursors inside them do: the records are
the same, and at every moment each cursor and each checkpoint is the one inside.
A judge that comes with a memory is asked the same questions, and leaves with
the same memory. -/
theorem play_bare_of_play_counted [DecidableEq α] [Item α] (S : Source α) (P : Session α ε)
    (b : Bench) {p : Performance α ε} (hp : P.play .counted S b = .ok p) :
    (∃ q, P.play .bare S b.bare = .ok q ∧ q.records = p.records ∧ q.bench = p.bench.bare ∧
      P.moments .bare S b.bare = (P.moments .counted S b).map Bench.bare) ∧
    ∀ {σ : Type} (judge : Judge σ α) (memory : σ),
      Scan.Simulates S S Cursor.Within Eq (Scan.readIf judge memory) (Scan.readIf judge memory) ∧
      Scan.Simulates S S Cursor.Within Eq (Scan.readWhile judge memory)
        (Scan.readWhile judge memory) := by
  have habreast := Scan.abreast_within S
  refine ⟨?_, fun judge memory =>
    ⟨Scan.simulates_readIf habreast judge memory, Scan.simulates_readWhile habreast judge memory⟩⟩
  have hstep : ∀ a, True → ∀ ⦃b b'⦄, Bench.Related Cursor.Within b b' →
      Scan.Simulates S S Cursor.Within
        (fun v v' => v'.1 = v.1 ∧ Bench.Related Cursor.Within v.2 v'.2)
        ((Interpreter.counted (α := α) (ε := ε)).step a b) (Interpreter.bare.step a b') :=
    fun a _ b b' hb => .map_left (Interpreter.simulates_step hb a)
  obtain ⟨q, hq⟩ := play_simulates (I := .counted) (J := .bare) hstep (fun c d hcd => hcd)
    P.only_true (Bench.related_within_iff.2 rfl) hp
  exact ⟨q, hq.play, hq.records, Bench.related_within_iff.1 hq.bench,
    Bench.map_bare_of_forall₂ hq.moments⟩

/-- A wanted item, then a body that is taken back, in which a copy of the cursor
does not find what it wants. -/
def wantThenTry : Session Char Char :=
  act 0 (.expect 'a') fun _ =>
    trying 0 (fun _ => true)
      (act 0 .read fun _ => act 0 .clone fun _ => act 1 (.expect 'x') fun _ => done) fun _ => done

/-- Inside two counters or none the expectations and the body come to the same records and
positions. -/
theorem play_bare_of_play_counted_layered :
    ∃ p q,
      wantThenTry.play .counted (Source.ofArray #['a', '\n', 'b'])
        (.single (Cursor.startingAt 0).withCounter.withCounter) = .ok p ∧
      p.bench.cursors.map Cursor.position = #[1, 2] ∧
      wantThenTry.play .bare (Source.ofArray #['a', '\n', 'b'])
        (Bench.single (Cursor.startingAt 0).withCounter.withCounter).bare = .ok q ∧
      q.records = p.records ∧ q.bench = p.bench.bare := by
  obtain ⟨p, hp, hposition⟩ : ∃ p,
      wantThenTry.play .counted (Source.ofArray #['a', '\n', 'b'])
        (.single (Cursor.startingAt 0).withCounter.withCounter) = .ok p ∧
      p.bench.cursors.map Cursor.position = #[1, 2] := ⟨_, rfl, by decide +kernel⟩
  obtain ⟨⟨q, hq, hrecords, hbench, -⟩, -⟩ := play_bare_of_play_counted _ _ _ hp
  exact ⟨p, q, hp, hposition, hq, hrecords, hbench⟩

end Session

end ScanCursor
