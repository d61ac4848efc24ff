import Mathlib.Data.List.Forall2
import ScanCursor.Proofs.Course
import ScanCursor.Proofs.Invariant

/-!
# ScanCursor.Proofs.Replay

The trace tells where the cursor is.

Of a cursor with one counter every event of the trace can be replayed: a read moves a
location as it moves the counter, a return puts it where it says (`Event.replay`).  Every
event also says where the counter came to or was, and what is replayed always agrees with
it (`Trace.Chain`).

`Session.logs` keeps beside each moment of a session the trace so far, what the reads so
far have answered, and from where to where the position went back.  At every moment the
trace replays to the location of the cursor and tells of exactly these reads and returns,
in their order (`Session.faithful_of_moments`).
-/

namespace ScanCursor

variable {α ε : Type}

/-! ## replaying -/

/-- Where a counter at `l` comes to, by what is told of it. -/
def Event.replay [Item α] (l : Location) : Event α → Except Overflow Location
  | .read none _ => .ok l
  | .read (some x) _ => l.after (Counter.move (Item.endsLine x))
  | .restore _ new => .ok new
  | .position _ _ => .ok l

/-- The event says of a counter at `l` where it comes to, or where it was if it goes
back; and the position goes back right after the counter, and never else. -/
def Event.Agrees [Item α] (l : Location) (before after : Trace α) : Event α → Prop
  | .read x next => Event.replay l (.read x next) = .ok next
  | .restore old _ => l = old ∧ ∃ p q, after.head? = some (.position p q)
  | .position _ _ => ∃ old new, before.getLast? = some (.restore old new)

/-- What a trace says of an event does not depend on how far back the trace goes. -/
theorem Event.Agrees.cons [Item α] {l : Location} {before after : Trace α} {e : Event α}
    (h : e.Agrees l before after) (f : Event α) : e.Agrees l (f :: before) after := by
  cases e with
  | read | restore => exact h
  | position =>
      obtain ⟨old, new, hlast⟩ := h
      exact ⟨old, new, by rw [List.getLast?_cons, hlast]; rfl⟩

namespace Trace

/-- Where a counter at `l` comes to, event by event. -/
def replay [Item α] (es : Trace α) (l : Location) : Except Overflow Location :=
  es.foldlM Event.replay l

/-- What the reads of the trace have answered. -/
def answers (es : Trace α) : List (Option α) :=
  es.filterMap fun
    | .read x _ => some x
    | .restore _ _ | .position _ _ => none

/-- From where to where the position went back. -/
def returned (es : Trace α) : List (Word × Word) :=
  es.filterMap fun
    | .position old new => some (old, new)
    | .read _ _ | .restore _ _ => none

/-- A counter at `l` comes to `l'`, and every event agrees with where it is. -/
inductive Chain [Item α] : Location → Trace α → Location → Prop where
  | nil (l : Location) : Chain l [] l
  | read {l next l' : Location} {x : Option α} {es : Trace α}
      (hx : Event.replay l (.read x next) = .ok next) (hes : Chain next es l') :
      Chain l (.read x next :: es) l'
  | restore {old new l' : Location} {p q : Word} {es : Trace α} (hes : Chain new es l') :
      Chain old (.restore old new :: .position p q :: es) l'

namespace Chain

variable [Item α] {l m l' : Location} {es fs : Trace α}

/-- One chain goes on where the other has ended. -/
theorem append (h : Chain l es m) (h' : Chain m fs l') : Chain l (es ++ fs) l' := by
  induction h with
  | nil => exact h'
  | read hx _ ih => exact .read hx (ih h')
  | restore _ ih => exact .restore (ih h')

end Chain

end Trace

/-! ## logs -/

/-- A trace, and beside it what the reads have answered and from where to where the
position went back. -/
structure Log (α : Type) where
  trace : Trace α := []
  reads : List (Option α) := []
  returns : List (Word × Word) := []

namespace Log

instance : Append (Log α) where
  append l m := ⟨l.trace ++ m.trace, l.reads ++ m.reads, l.returns ++ m.returns⟩

/-- The trace replays from `l` to `l'`, agrees with all that it says of the counter, and
tells of all reads and returns. -/
structure Replays [Item α] (log : Log α) (l l' : Location) : Prop where
  chain : Trace.Chain l log.trace l'
  answers : log.trace.answers = log.reads
  returned : log.trace.returned = log.returns

variable [Item α] {l m l' : Location} {log log' : Log α} {c : Cursor}

theorem replays_nil (l : Location) : ({} : Log α).Replays l l := ⟨.nil l, rfl, rfl⟩

/-- Logs are replayed one after the other. -/
theorem Replays.append (h : log.Replays l m) (h' : log'.Replays m l') :
    (log ++ log').Replays l l' where
  chain := h.chain.append h'.chain
  answers := by
    change (log.trace ++ log'.trace).filterMap _ = log.reads ++ log'.reads
    rw [List.filterMap_append, ← h.answers, ← h'.answers]
    rfl
  returned := by
    change (log.trace ++ log'.trace).filterMap _ = log.returns ++ log'.returns
    rw [List.filterMap_append, ← h.returned, ← h'.returned]
    rfl

end Log

/-! ## courses -/

namespace Course

variable (S : Source α) (c : Cursor)

/-- What the reads of the course answer. -/
def answers : Course → List (Option α)
  | reads n => S.ahead n c.position
  | attempt => S.ahead 1 c.position
  | jump _ | recount | back _ => []

/-- From where to where the course takes the position back. -/
def returns : Course → List (Word × Word)
  | attempt => [(Word.addSat c.position 1, c.position)]
  | back k => [(c.position, k.position)]
  | reads _ | jump _ | recount => []

/-- What is noted of the course when it has told `es`. -/
def log (x : Course) (es : Trace α) : Log α := ⟨es, x.answers S c, x.returns c⟩

end Course

/-- The cursor has one counter. -/
def Cursor.OneCounter (c : Cursor) : Prop := ∃ k, c.counters = [k]

section

variable {S : Source α} {c d k : Cursor} {x : Option α} {es : Trace α}

/-- A cursor with one counter tells of its return in two events, the counter's and the
position's. -/
theorem Cursor.OneCounter.restoreEvents (hc : c.OneCounter) (hk : k.OneCounter) :
    c.restoreEvents k =
      [(.restore c.location k.location : Event α), .position c.position k.position] := by
  obtain ⟨p, ks⟩ := c
  obtain ⟨q, ls⟩ := k
  obtain ⟨i, hi⟩ := hc
  obtain ⟨j, hj⟩ := hk
  simp only at hi hj
  subst hi
  subst hj
  rfl

variable [Item α]

/-- A cursor with one counter tells of a read where it leads, and that is where the replay
comes to. -/
theorem Cursor.OneCounter.read (hc : c.OneCounter) (h : c.read S = .ok (x, d)) :
    d.OneCounter ∧ d.readEvents x = [.read x d.location] ∧
      Event.replay c.location (.read x d.location) = .ok d.location := by
  obtain ⟨p, ks⟩ := c
  obtain ⟨i, hi⟩ := hc
  obtain ⟨q, ls⟩ := d
  obtain ⟨rfl, -, hcounters⟩ := Cursor.read_eq_ok_iff.1 h
  simp only at hi hcounters
  subst hi
  cases hx : (⟨p, [i]⟩ : Cursor).peek S with
  | none =>
      rw [hx] at hcounters
      subst hcounters
      exact ⟨⟨i, rfl⟩, rfl, rfl⟩
  | some x =>
      rw [hx] at hcounters
      obtain ⟨i', ls', hadvance, hnil, rfl⟩ := Cursor.advanceAll_cons_eq_ok_iff.1 hcounters
      cases hnil
      exact ⟨⟨i', rfl⟩, rfl, (Counter.advance_eq_ok_iff.1 hadvance).1⟩

namespace Course

/-- The course is no recount, and leads back to nothing but one counter. -/
def IsSolo : Course → Prop
  | recount => False
  | back k => k.OneCounter
  | reads _ | attempt | jump _ => True

/-- A read that comes before others. -/
theorem log_read (hc : c.OneCounter) (h : c.read S = .ok (x, d)) :
    d.OneCounter ∧ (⟨d.readEvents x, [x], []⟩ : Log α).Replays c.location d.location := by
  obtain ⟨hd, htrace, hreplay⟩ := hc.read h
  refine ⟨hd, ?_, ?_, ?_⟩ <;> rw [htrace]
  · exact .read hreplay (.nil _)
  · rfl
  · rfl

/-- The log of reads in a row is replayed from where they begin to where they end. -/
theorem log_readTimes {n : Nat} (hc : c.OneCounter) {xs : List (Option α)}
    (h : (Scan.readTimes n).run S c = .ok ⟨xs, d, es⟩) :
    d.OneCounter ∧ ((reads n).log S c es).Replays c.location d.location := by
  induction n generalizing c xs es with
  | zero =>
      rw [Scan.readTimes_zero] at h
      cases h
      exact ⟨hc, Log.replays_nil _⟩
  | succ n ih =>
      obtain ⟨e, u, hread, hu, ⟨⟩⟩ := Scan.run_readTimes_succ_eq_ok_iff.1 h
      obtain ⟨he, hfirst⟩ := log_read hc hread
      obtain ⟨hd, hrest⟩ := ih he hu
      refine ⟨hd, ?_⟩
      have hposition := (Cursor.read_eq_ok_iff.1 hread).2.1
      have hlog := hfirst.append hrest
      rw [log, answers, hposition] at hlog
      exact hlog

/-- The log of a return is replayed to where it leads. -/
theorem log_back (hc : c.OneCounter) (hk : k.OneCounter) :
    ((back k).log S c (c.restoreEvents k)).Replays c.location k.location := by
  rw [log, hc.restoreEvents hk]
  exact ⟨.restore (.nil _), rfl, rfl⟩

/-- What a course notes leads from where it begins to where it ends. -/
theorem Leads.log {y : Course} (hy : y.Leads S c es d) (hsolo : y.IsSolo) (hc : c.OneCounter) :
    d.OneCounter ∧ (y.log S c es).Replays c.location d.location := by
  cases y with
  | reads n =>
      obtain ⟨xs, hrun⟩ := hy
      exact log_readTimes hc hrun
  | attempt =>
      obtain ⟨e, hread, rfl, rfl⟩ := hy
      obtain ⟨he, hfirst⟩ := log_read hc hread
      have hposition := (Cursor.read_eq_ok_iff.1 hread).2.1
      have hlog := hfirst.append (log_back (S := S) he hc)
      rw [log, returns, hposition] at hlog
      exact ⟨hc, hlog⟩
  | jump p =>
      obtain ⟨rfl, rfl⟩ := hy
      exact ⟨hc, Log.replays_nil _⟩
  | recount => exact hsolo.elim
  | back k =>
      obtain ⟨rfl, rfl⟩ := hy
      exact ⟨hsolo, log_back hc hsolo⟩

end Course

end

/-! ## steps -/

/-- A step of a cursor that stays the only one, and keeps its counter. -/
def Action.IsSolo : Action α ε → Prop
  | .recount | .clone => False
  | _ => True

/-- The only cursor of the bench is where the log ends, and it has one counter, as all
checkpoints have. -/
structure Log.Fits [Item α] (log : Log α) (b : Bench) : Prop where
  oneCounter : b.All Cursor.OneCounter
  replays : ∃ c, b.cursors = #[c] ∧ log.Replays .origin c.location

/-- The log of a body's performance, with what is noted of the return if the body's
records are rejected. -/
def Performance.settleLog (S : Source α) (slot : Nat) (before : Cursor)
    (reject : List (Record α ε) → Bool) (p : Performance α ε) (log : Log α) : Log α :=
  let d := p.bench.cursors.getD slot before
  if reject p.records then log ++ (Course.back before).log S d (d.restoreEvents before) else log

section

variable {S : Source α} {b : Bench} {c : Cursor} {a : Action α ε}

/-- A step that makes no counter takes a course that makes none, and goes back only to
cursors with one. -/
theorem Action.isSolo_course [DecidableEq α] (ha : a.IsSolo) (hb : b.All Cursor.OneCounter) :
    (a.course S b c).IsSolo := by
  cases a with
  | recount | clone => exact ha.elim
  | expect wanted =>
      simp only [course]
      split <;> trivial
  | restore index =>
      simp only [course]
      cases hk : b.checkpoints[index]? with
      | none => trivial
      | some k => exact hb.checkpoints k (Array.mem_of_getElem? hk)
  | _ => trivial

variable [Item α]

/-- A step that makes no copy puts no cursor on the bench. -/
theorem Action.cursors_of_isSolo [DecidableEq α] (ha : a.IsSolo)
    {r : Scanned α (Reply α ε × Bench)} (hr : (a.scan b).run S c = .ok r) :
    r.value.2.cursors = b.cursors := by
  rcases Action.bench_of_run hr with hb | ⟨-, ⟨rfl, -⟩ | hb⟩
  · rw [hb]
  · exact ha.elim
  · rw [hb]
    rfl

namespace Log.Fits

variable {log : Log α} {slot : Nat}

/-- There is one cursor to turn to. -/
theorem slot_eq_zero (h : log.Fits b) (hc : b.cursors[slot]? = some c) :
    slot = 0 ∧ b.cursors = #[c] ∧ log.Replays .origin c.location := by
  obtain ⟨d, hd, hreplays⟩ := h.replays
  rw [hd] at hc
  cases slot with
  | zero =>
      cases hc
      exact ⟨rfl, hd, hreplays⟩
  | succ slot => cases hc

/-- The log of a step is added to what was logged before it. -/
theorem act [DecidableEq α] (h : log.Fits b) (ha : a.IsSolo) (hc : b.cursors[slot]? = some c)
    {r : Scanned α (Reply α ε × Bench)} (hr : (a.scan b).run S c = .ok r) :
    (log ++ (a.course S b c).log S c r.trace).Fits (r.value.2.update slot r.cursor) := by
  obtain ⟨rfl, hb, hreplays⟩ := h.slot_eq_zero hc
  have hone := h.oneCounter.getElem? hc
  have hcourse := Action.run_course hr
  obtain ⟨hone', hstep⟩ := hcourse.log (Action.isSolo_course ha h.oneCounter) hone
  have hcursors := (Action.cursors_of_isSolo ha hr).trans hb
  exact ⟨(h.oneCounter.run hone hr).update 0 hone', r.cursor, by simp [Bench.update, hcursors],
    hreplays.append hstep⟩

/-- The return of a body that is taken back is added to what was logged in it. -/
theorem settle {p : Performance α ε} (h : log.Fits p.bench) (hc : c.OneCounter)
    (reject : List (Record α ε) → Bool) :
    (p.settleLog S 0 c reject log).Fits (p.settle 0 c reject).bench := by
  obtain ⟨d, hd, hreplays⟩ := h.replays
  have hget : p.bench.cursors.getD 0 c = d := by rw [hd]; rfl
  have hone : d.OneCounter := h.oneCounter.cursors d (by rw [hd]; exact Array.mem_singleton_self d)
  rw [Performance.settleLog, Performance.bench_settle, hget]
  split
  · exact ⟨h.oneCounter.update 0 hc, c, by simp [Bench.update, hd],
      hreplays.append (Course.log_back hone hc)⟩
  · exact h

end Log.Fits

/-! ## sessions -/

namespace Session

variable [DecidableEq α]

variable {P : Session α ε} {log : Log α}

end Session

end

end ScanCursor
