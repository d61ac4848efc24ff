import ScanCursor.Proofs.Lineage
import ScanCursor.Proofs.Transparency

/-!
# ScanCursor.Proofs.Layers

More counters tell the same, more often.

Counters that are made together stay equal, so a cursor with many of them is a cursor
with one, repeated (`Cursor.Layers`).  A session that is shown no counter but the
outermost one is then answered the same by both, and what the many tell is what the
one tells with every read and every return of a counter said by each of them in turn;
the position's own return is told once.  Inside all counters, where the cursor is bare,
nothing is left of this but the returns of the position (`Session.trace_of_layers`).
-/

namespace ScanCursor

variable {α ε : Type}

/-! ## copies of events -/

/-- Whether the position, and not a counter, tells the event. -/
def Event.isPosition : Event α → Bool
  | .position _ _ => true
  | .read _ _ | .restore _ _ => false

/-- The event as `n` counters tell it. -/
def Event.copies (n : Nat) : Event α → Trace α
  | .position old new => [.position old new]
  | e => List.replicate n e

namespace Trace

/-- The trace as `n` counters tell it where one has told `es`. -/
def stutter (n : Nat) (es : Trace α) : Trace α := es.flatMap (Event.copies n)

variable (n : Nat)

@[simp] theorem stutter_nil : stutter n ([] : Trace α) = [] := rfl

@[simp] theorem stutter_append (es fs : Trace α) :
    stutter n (es ++ fs) = stutter n es ++ stutter n fs := List.flatMap_append

@[simp] theorem stutter_cons (e : Event α) (es : Trace α) :
    stutter n (e :: es) = e.copies n ++ stutter n es := List.flatMap_cons

end Trace

/-! ## one counter, repeated -/

/-- At one position, one counter `m` times and the same one `n` times. -/
def Cursor.Layers (m n : Nat) (c d : Cursor) : Prop :=
  ∃ p k, c = ⟨p, List.replicate m k⟩ ∧ d = ⟨p, List.replicate n k⟩

/-- The cursor without all but its outermost counter. -/
def Cursor.outer (c : Cursor) : Cursor := { c with counters := c.counters.take 1 }

namespace Cursor

variable {k : Counter} {b : Bool} {m n : Nat} {c d : Cursor}

/-- Equal counters advance to equal counters. -/
theorem advanceAll_replicate {k' : Counter} (h : k.advance b = .ok k') (n : Nat) :
    advanceAll b (List.replicate n k) = .ok (List.replicate n k') := by
  induction n with
  | zero => rfl
  | succ n ih => exact advanceAll_cons_eq_ok_iff.2 ⟨k', _, h, ih, rfl⟩

/-- If there is a counter, equal ones advance just where one of them does. -/
theorem advanceAll_replicate_succ_eq_ok_iff {ls : List Counter} :
    advanceAll b (List.replicate (m + 1) k) = .ok ls ↔
      ∃ k', k.advance b = .ok k' ∧ ls = List.replicate (m + 1) k' := by
  constructor
  · intro h
    obtain ⟨k', -, hk, -, -⟩ := advanceAll_cons_eq_ok_iff.1 h
    rw [advanceAll_replicate hk] at h
    exact ⟨k', hk, (Except.ok.inj h).symm⟩
  · rintro ⟨k', hk, rfl⟩
    exact advanceAll_replicate hk (m + 1)

namespace Layers

theorem fresh (s : Word) (m n : Nat) : Layers m n (Cursor.fresh s m) (Cursor.fresh s n) :=
  ⟨s, {}, rfl, rfl⟩

theorem position_eq (h : Layers m n c d) : d.position = c.position := by
  obtain ⟨p, k, rfl, rfl⟩ := h
  rfl

theorem jump (p : Word) (h : Layers m n c d) : Layers m n (c.jump p) (d.jump p) := by
  obtain ⟨q, k, rfl, rfl⟩ := h
  exact ⟨p, k, rfl, rfl⟩

/-- Where there are counters on both sides the outermost ones are equal. -/
theorem outer_eq (h : Layers (m + 1) (n + 1) c d) : d.outer = c.outer := by
  obtain ⟨p, k, rfl, rfl⟩ := h
  simp [outer, List.replicate_succ]

/-- Cursors with equal outermost counters are at one location. -/
theorem location_eq (h : Layers (m + 1) (n + 1) c d) : d.location = c.location := by
  obtain ⟨p, k, rfl, rfl⟩ := h
  rfl

/-- The reads of one counter, told by `n`. -/
theorem readEvents_eq (h : Layers 1 n c d) (x : Option α) :
    d.readEvents x = Trace.stutter n (c.readEvents x) := by
  obtain ⟨p, k, rfl, rfl⟩ := h
  simp [readEvents, Event.copies]

/-- The return of one counter, told by `n`, and that of the position, told once. -/
theorem restoreEvents_eq {k l : Cursor} (h : Layers 1 n c d) (hk : Layers 1 n k l) :
    (d.restoreEvents l : Trace α) = Trace.stutter n (c.restoreEvents k) := by
  obtain ⟨p, i, rfl, rfl⟩ := h
  obtain ⟨q, j, rfl, rfl⟩ := hk
  simp [restoreEvents, Event.copies]

end Layers

end Cursor

/-- Equal counters count a read alike; if one of them can, all of them can. -/
theorem Scan.abreast_layers [Item α] (S : Source α) (m n : Nat) :
    Abreast S S (Cursor.Layers (m + 1) n) where
  peek c d h := by rw [Cursor.peek, Cursor.peek, h.position_eq]
  read c d x c' h hread := by
    obtain ⟨p, k, rfl, rfl⟩ := h
    obtain ⟨p', ks⟩ := c'
    obtain ⟨rfl, hposition, hcounters⟩ := Cursor.read_eq_ok_iff.1 hread
    cases hx : S.get? p with
    | none =>
        simp only [Cursor.peek, hx] at hcounters
        refine ⟨⟨p', List.replicate n k⟩, Cursor.read_eq_ok_iff.2 ?_, p', k, by rw [hcounters], rfl⟩
        simpa only [Cursor.peek, hx, and_true, true_and] using hposition
    | some x =>
        simp only [Cursor.peek, hx] at hcounters
        obtain ⟨k', hk, rfl⟩ := Cursor.advanceAll_replicate_succ_eq_ok_iff.1 hcounters
        refine ⟨⟨p', List.replicate n k'⟩, Cursor.read_eq_ok_iff.2 ?_, p', k', rfl, rfl⟩
        simpa only [Cursor.peek, hx, Cursor.advanceAll_replicate hk, and_true, true_and]
          using hposition

/-! ## steps that are shown one counter -/

/-- The reply without the counters inside the outermost one. -/
def Reply.outer : Reply α ε → Reply α ε
  | .inner c next => .inner c.bare next
  | reply => reply

/-- Steps of a cursor with counters, for a session that is shown the outermost one. -/
def Interpreter.layered [DecidableEq α] [Item α] : Interpreter α ε where
  step a b := Prod.map Reply.outer id <$> a.scan b
  shown := Cursor.outer

section

variable [DecidableEq α] [Item α] {S : Source α} {b b' : Bench} {m n : Nat}

/-- Where only the outermost counter is shown, no step but a recount tells one
counter from many. -/
theorem Interpreter.simulates_layered
    (hb : Bench.Related (Cursor.Layers (m + 1) (n + 1)) b b') {a : Action α ε}
    (ha : a ≠ .recount) :
    Scan.Simulates S S (Cursor.Layers (m + 1) (n + 1))
      (fun v v' => v'.1 = v.1 ∧ Bench.Related (Cursor.Layers (m + 1) (n + 1)) v.2 v'.2)
      (Interpreter.layered.step a b) (Interpreter.layered.step a b') := by
  have h := Scan.abreast_layers S m (n + 1)
  refine .map ?_
  cases a with
  | recount => exact absurd rfl ha
  | expect wanted =>
      exact .bind (Scan.simulates_expect_eq h (fun c d hcd => hcd.location_eq) wanted)
        fun r r' hr => .pure ⟨by subst hr; rfl, hb⟩
  | inner =>
      refine .bind (V := fun r r' => r'.outer = r.outer) (.look fun c d hcd => ?_)
        fun r r' hr => .pure ⟨hr, hb⟩
      obtain ⟨p, k, rfl, rfl⟩ := hcd
      rfl
  | _ =>
      refine Scan.Simulates.mono (Action.simulates_plain h (fun c d hcd => hcd.position_eq)
        (fun p c d hcd => hcd.jump p) hb trivial) fun v v' hv => ⟨?_, hv.2.2⟩
      rw [Prod.map_fst, Prod.map_fst, hv.1]

/-! ## what single steps tell -/

/-- A step takes its course also if its reply is changed. -/
theorem Action.run_course_map {a : Action α ε} {c : Cursor} {f : Reply α ε → Reply α ε}
    {r : Scanned α (Reply α ε × Bench)} (h : (Prod.map f id <$> a.scan b).run S c = .ok r) :
    (a.course S b c).Leads S c r.trace r.cursor := by
  obtain ⟨u, hu, rfl⟩ := Scan.run_map_eq_ok_iff.1 h
  have hcourse := Action.run_course hu
  exact hcourse

/-- Steps of a bare cursor take the same courses. -/
theorem Interpreter.run_bare_course {a : Action α ε} {c : Cursor}
    {r : Scanned α (Reply α ε × Bench)} (h : (Interpreter.bare.step a b).run S c = .ok r) :
    (a.course S b c).Leads S c r.trace r.cursor := by
  cases a with
  | expect wanted =>
      simp only [Interpreter.bare, bind_pure_comp] at h
      obtain ⟨u, hu, rfl⟩ := Scan.run_map_eq_ok_iff.1 h
      exact Course.leads_wanted hu
  | _ => exact Action.run_course h

end

/-- The reads and the returns of one counter are told by `n` counters `n` times, and so is
what is composed of them. -/
theorem Trace.echoes_stutter (n : Nat) :
    Echoes (Cursor.Layers 1 n) fun es fs : Trace α => fs = es.stutter n where
  nil := rfl
  append es fs es' fs' h h' := by rw [h, h', stutter_append]
  read c d h x := h.readEvents_eq x
  restore c d k l h hk := h.restoreEvents_eq hk

/-- A bare cursor tells its position's returns and nothing else. -/
theorem Trace.echoes_isPosition :
    Echoes Cursor.Within fun es fs : Trace α => fs = es.filter Event.isPosition where
  nil := rfl
  append es fs es' fs' h h' := by rw [h, h', List.filter_append]
  read c d h x := by
    have hcounters : (c.readEvents x).filter Event.isPosition = [] := by
      rw [List.filter_eq_nil_iff, Cursor.readEvents]
      intro e he
      obtain ⟨k, -, rfl⟩ := List.mem_map.1 he
      exact Bool.false_ne_true
    rw [h, Cursor.bare, Cursor.readEvents_bare, hcounters]
  restore c d k l h hk := by
    have hcounters : (List.zipWith (fun i j => (.restore i.next j.next : Event α)) c.counters
        k.counters).filter Event.isPosition = [] := by
      rw [List.filter_eq_nil_iff]
      intro e he
      obtain ⟨i, -, -, rfl⟩ := List.mem_iff_getElem.1 he
      rw [List.getElem_zipWith]
      exact Bool.false_ne_true
    rw [h, hk, Cursor.bare, Cursor.bare, Cursor.restoreEvents_bare, Cursor.restoreEvents,
      List.filter_append, hcounters]
    rfl

/-! ## sessions -/

namespace Session

variable [DecidableEq α] [Item α] {S : Source α} {P : Session α ε} {b b' : Bench}
  {p : Performance α ε}

/-- A session without a recount is carried out alike inside any number of equal counters, if
there is one. -/
theorem play_layered {m n : Nat} (hP : P.Only (· ≠ .recount))
    (hb : Bench.Related (Cursor.Layers (m + 1) (n + 1)) b b')
    (hp : P.play .layered S b = .ok p) :
    ∃ q, Lockstep .layered .layered S S (Cursor.Layers (m + 1) (n + 1)) P b b' p q :=
  play_simulates (fun _ ha _ _ hb => Interpreter.simulates_layered hb ha)
    (fun _ _ hcd => hcd.outer_eq) hP hb hp

/-- What one counter tells, repeated by `n + 1` of them. -/
theorem play_layered_stutter {n : Nat} (hP : P.Only (· ≠ .recount))
    (hb : Bench.Related (Cursor.Layers 1 (n + 1)) b b') (hp : P.play .layered S b = .ok p) :
    ∃ q, Lockstep .layered .layered S S (Cursor.Layers 1 (n + 1)) P b b' p q ∧
      q.trace = p.trace.stutter (n + 1) := by
  have habreast : Scan.Abreast S S (Cursor.Layers 1 (n + 1)) := Scan.abreast_layers S 0 (n + 1)
  refine play_echoes (Trace.echoes_stutter (n + 1))
    (fun a ha b b' hb => Interpreter.simulates_layered (m := 0) hb ha) ?_
    (fun c d hcd => Cursor.Layers.outer_eq (m := 0) hcd) hP hb hp
  intro a _ b b' hb c d hcd r t hr ht
  have hcourse := Action.run_course_map (f := Reply.outer) hr
  have hcourse' := Action.run_course_map (f := Reply.outer) ht
  have htold := Course.echoes (Trace.echoes_stutter (n + 1)) habreast
    (fun c d h => h.position_eq) (Action.related_course hb hcd.position_eq a) hcd hcourse hcourse'
  exact htold

/-- Inside all counters only the position is left to tell where it has gone back to. -/
theorem play_bare_isPosition (hb : Bench.Related Cursor.Within b b')
    (hp : P.play .counted S b = .ok p) :
    ∃ q, Lockstep .counted .bare S S Cursor.Within P b b' p q ∧
      q.trace = p.trace.filter Event.isPosition := by
  have hposition {c d : Cursor} (hcd : Cursor.Within c d) : d.position = c.position := by
    rw [hcd]
    rfl
  refine play_echoes (I := .counted) (J := .bare) Trace.echoes_isPosition
    (fun a _ b b' hb => .map_left (Interpreter.simulates_step hb a)) ?_ (fun c d hcd => hcd)
    P.only_true hb hp
  intro a _ b b' hb c d hcd r t hr ht
  have hcourse := Action.run_course_map (f := Reply.bare) hr
  have hcourse' := Interpreter.run_bare_course ht
  have htold := Course.echoes Trace.echoes_isPosition (Scan.abreast_within S)
    (fun c d h => hposition h) (Action.related_course hb (hposition hcd) a) hcd hcourse hcourse'
  exact htold

/-- A session that is shown the outermost counter is carried out alike inside any number
of fresh counters.  What these tell is what a single one tells, every event of a counter
repeated by all of them.  What is done with counters, but shown none of them, a bare
cursor does too, and tells of it where the position has gone back to. -/
theorem trace_of_layers (S : Source α) (s : Word) (P : Session α ε) (n : Nat) :
    (P.Only (· ≠ .recount) → 1 ≤ n →
      (∀ p, P.play .layered S (.single (Cursor.fresh s n)) = .ok p →
        ∃ q, P.play .layered S (.single (Cursor.fresh s 1)) = .ok q ∧ q.records = p.records ∧
          p.trace = q.trace.stutter n) ∧
      ∀ q, P.play .layered S (.single (Cursor.fresh s 1)) = .ok q →
        ∃ p, P.play .layered S (.single (Cursor.fresh s n)) = .ok p) ∧
    ∀ p, P.play .counted S (.single (Cursor.fresh s n)) = .ok p →
      ∃ q, P.play .bare S (.single (Cursor.startingAt s)) = .ok q ∧ q.records = p.records ∧
        q.trace = p.trace.filter Event.isPosition := by
  refine ⟨fun hP hn => ?layers, fun p hp => ?bare⟩
  case layers =>
    obtain ⟨n, rfl⟩ := Nat.exists_eq_add_of_le' hn
    have hfresh (m n : Nat) := Bench.Related.single (Cursor.Layers.fresh s m n)
    refine ⟨fun p hp => ?_, fun q hq => ?_⟩
    · obtain ⟨q, hq⟩ := play_layered (n := 0) hP (hfresh (n + 1) 1) hp
      -- One counter is repeated by `n + 1`, and these can only tell `p.trace`.
      obtain ⟨p', hp', htrace⟩ := play_layered_stutter hP (hfresh 1 (n + 1)) hq.play
      have hsame := Except.ok.inj (hp'.play.symm.trans hp)
      rw [hsame] at htrace
      exact ⟨q, hq.play, hq.records, htrace⟩
    · obtain ⟨p, hp, -⟩ := play_layered_stutter hP (hfresh 1 (n + 1)) hq
      exact ⟨p, hp.play⟩
  case bare =>
    obtain ⟨q, hq, htrace⟩ := play_bare_isPosition (Bench.Related.single rfl) hp
    exact ⟨q, hq.play, hq.records, htrace⟩

/-- Inside two counters every event of a counter is told twice; a bare cursor tells of the
two ways back and nothing else. -/
theorem trace_of_layers_wantThenTry :
    (wantThenTry.Only (· ≠ .recount) ∧ 1 ≤ 2) ∧
    ((wantThenTry.play .layered (Source.ofArray #['a', '\n', 'b'])
        (.single (Cursor.fresh 0 1))).toOption.map Performance.trace =
      some [.read 'a' ⟨0, 1⟩, .read '\n' ⟨1, 0⟩, .read 'b' ⟨1, 1⟩, .restore ⟨1, 1⟩ ⟨1, 0⟩,
        .position 3 2, .restore ⟨1, 0⟩ ⟨0, 1⟩, .position 2 1] ∧
      ∃ p q, wantThenTry.play .layered (Source.ofArray #['a', '\n', 'b'])
          (.single (Cursor.fresh 0 2)) = .ok p ∧
        wantThenTry.play .layered (Source.ofArray #['a', '\n', 'b'])
          (.single (Cursor.fresh 0 1)) = .ok q ∧
        q.records = p.records ∧ p.trace = q.trace.stutter 2) ∧
    ((wantThenTry.play .counted (Source.ofArray #['a', '\n', 'b'])
        (.single (Cursor.fresh 0 2))).toOption.map (fun p => p.trace.length) = some 12 ∧
      ∃ p q, wantThenTry.play .counted (Source.ofArray #['a', '\n', 'b'])
          (.single (Cursor.fresh 0 2)) = .ok p ∧
        wantThenTry.play .bare (Source.ofArray #['a', '\n', 'b'])
          (.single (Cursor.startingAt 0)) = .ok q ∧
        q.records = p.records ∧ q.trace = p.trace.filter Event.isPosition) := by
  have honly : wantThenTry.Only (· ≠ .recount) := by simp [wantThenTry, Only]
  obtain ⟨hlayers, hbare⟩ := trace_of_layers (Source.ofArray #['a', '\n', 'b']) 0 wantThenTry 2
  refine ⟨⟨honly, by decide⟩, ⟨by decide +kernel, ?_⟩, by decide +kernel, ?_⟩
  · obtain ⟨p, hp⟩ : ∃ p, wantThenTry.play .layered (Source.ofArray #['a', '\n', 'b'])
        (.single (Cursor.fresh 0 2)) = .ok p := ⟨_, rfl⟩
    obtain ⟨q, hq, hrecords, htrace⟩ := (hlayers honly (by decide)).1 p hp
    exact ⟨p, q, hp, hq, hrecords, htrace⟩
  · obtain ⟨p, hp⟩ : ∃ p, wantThenTry.play .counted (Source.ofArray #['a', '\n', 'b'])
        (.single (Cursor.fresh 0 2)) = .ok p := ⟨_, rfl⟩
    obtain ⟨q, hq, hrecords, htrace⟩ := hbare p hp
    exact ⟨p, q, hp, hq, hrecords, htrace⟩

end Session

end ScanCursor
