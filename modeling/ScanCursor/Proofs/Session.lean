import ScanCursor.Script.Basic

/-!
# ScanCursor.Proofs.Session

A session is a program over all the cursors of a bench.  A script is a fixed
list of steps of one cursor; a session may turn to any cursor at any time, also
inside a body, and what it does next may depend on all that was answered
before.

How a single step is carried out, and what the session is shown of a cursor, is
left to an `Interpreter`; `full` is the one that hides nothing.  `play` carries a
session out, `moments` lists the benches that it passes through: between any two
steps, inside bodies as well, and up to the step that is refused if there is
one.

`play_ofScript` says that every script is a session.
-/

namespace ScanCursor

/-- How the steps of a session are carried out, and what it is shown of a cursor. -/
structure Interpreter (α ε : Type) where
  /-- What a step does, with the bench before and after it. -/
  step : Action α ε → Bench → Scan α (Reply α ε × Bench)
  shown : Cursor → Cursor

/-- Every step as it is, and cursors shown as they are. -/
def Interpreter.full {α ε : Type} [DecidableEq α] [Item α] : Interpreter α ε where
  step a b := a.scan b
  shown c := c

/-- A program over the cursors of a bench.  It ends early if it turns to a
cursor that is not there. -/
inductive Session (α ε : Type) where
  | done
  /-- One step of the cursor in a slot. -/
  | act (slot : Nat) (a : Action α ε) (next : Record α ε → Session α ε)
  /-- A body; the cursor in a slot is taken back to where it was before if the
  body's records are rejected. -/
  | trying (slot : Nat) (reject : List (Record α ε) → Bool) (body : Session α ε)
      (next : Record α ε → Session α ε)

namespace Performance

variable {α ε : Type}

/-- What came of a step and of what followed it. -/
def after (record : Record α ε) (trace : Trace α) (p : Performance α ε) : Performance α ε where
  records := record :: p.records
  bench := p.bench
  trace := trace ++ p.trace

/-- A body's performance, with the cursor in the slot back at `before` if the
body's records are rejected. -/
def settle (slot : Nat) (before : Cursor) (reject : List (Record α ε) → Bool)
    (p : Performance α ε) : Performance α ε :=
  if reject p.records then
    { p with
      bench := p.bench.update slot before
      trace := p.trace ++ (p.bench.cursors.getD slot before).restoreEvents before }
  else p

@[simp] theorem records_after (record : Record α ε) (trace : Trace α) (p : Performance α ε) :
    (p.after record trace).records = record :: p.records := rfl

@[simp] theorem bench_after (record : Record α ε) (trace : Trace α) (p : Performance α ε) :
    (p.after record trace).bench = p.bench := rfl

@[simp] theorem records_settle (slot : Nat) (before : Cursor)
    (reject : List (Record α ε) → Bool) (p : Performance α ε) :
    (p.settle slot before reject).records = p.records := by
  unfold settle
  split <;> rfl

/-- A body that is kept leaves its bench; one that is taken back leaves it with the first
cursor where it was. -/
theorem bench_settle (slot : Nat) (before : Cursor) (reject : List (Record α ε) → Bool)
    (p : Performance α ε) :
    (p.settle slot before reject).bench =
      if reject p.records then p.bench.update slot before else p.bench := by
  unfold settle
  split <;> rfl

end Performance

namespace Session

variable {α ε : Type}

/-- The record of a body that was tried with the cursor in a slot. -/
def tried (I : Interpreter α ε) (slot : Nat) (before : Cursor) (p : Performance α ε) :
    Record α ε :=
  (.body p.records, I.shown (p.bench.cursors.getD slot before))

/-- The session carried out over a source, from a bench. -/
def play (I : Interpreter α ε) (S : Source α) :
    Session α ε → Bench → Except Overflow (Performance α ε)
  | .done, b => return ⟨[], b, []⟩
  | .act slot a next, b => do
    let some c := b.cursors[slot]? | return ⟨[], b, []⟩
    let r ← (I.step a b).run S c
    let record := (r.value.1, I.shown r.cursor)
    let rest ← (next record).play I S (r.value.2.update slot r.cursor)
    return rest.after record r.trace
  | .trying slot reject body next, b => do
    let some before := b.cursors[slot]? | return ⟨[], b, []⟩
    let p ← body.play I S b
    let p := p.settle slot before reject
    let rest ← (next (tried I slot before p)).play I S p.bench
    return rest.after (tried I slot before p) p.trace

/-- The benches that the session passes through. -/
def moments (I : Interpreter α ε) (S : Source α) : Session α ε → Bench → List Bench
  | .done, b => [b]
  | .act slot a next, b =>
    b :: match b.cursors[slot]? with
      | none => []
      | some c =>
        match (I.step a b).run S c with
        | .error _ => []
        | .ok r => (next (r.value.1, I.shown r.cursor)).moments I S (r.value.2.update slot r.cursor)
  | .trying slot reject body next, b =>
    match b.cursors[slot]? with
    | none => [b]
    | some before =>
      body.moments I S b ++
        match body.play I S b with
        | .error _ => []
        | .ok p =>
          let p := p.settle slot before reject
          (next (tried I slot before p)).moments I S p.bench

section

variable {I : Interpreter α ε} {S : Source α} {b : Bench} {slot : Nat} {c : Cursor}
  {a : Action α ε} {reject : List (Record α ε) → Bool} {body : Session α ε}
  {next : Record α ε → Session α ε} {p : Performance α ε}

/-- A step is carried out and recorded, then what follows its record. -/
theorem play_act (hc : b.cursors[slot]? = some c) :
    (act slot a next).play I S b = (do
      let r ← (I.step a b).run S c
      let rest ← (next (r.value.1, I.shown r.cursor)).play I S (r.value.2.update slot r.cursor)
      return rest.after (r.value.1, I.shown r.cursor) r.trace) := by
  rw [play, hc]

/-- A session that begins with a step is carried out if the step is and what follows its
record is. -/
theorem play_act_eq_ok_iff (hc : b.cursors[slot]? = some c) :
    (act slot a next).play I S b = .ok p ↔
      ∃ r rest, (I.step a b).run S c = .ok r ∧
        (next (r.value.1, I.shown r.cursor)).play I S (r.value.2.update slot r.cursor) = .ok rest ∧
        rest.after (r.value.1, I.shown r.cursor) r.trace = p := by
  simp only [play_act hc, bind_eq_ok_iff, pure, Except.pure, Except.ok.injEq, exists_and_left]

theorem play_trying (hc : b.cursors[slot]? = some c) :
    (trying slot reject body next).play I S b = (do
      let p ← body.play I S b
      let p := p.settle slot c reject
      let rest ← (next (tried I slot c p)).play I S p.bench
      return rest.after (tried I slot c p) p.trace) := by
  rw [play, hc]

/-- A session that begins with a body is carried out if the body is and what follows its
record is. -/
theorem play_trying_eq_ok_iff (hc : b.cursors[slot]? = some c) :
    (trying slot reject body next).play I S b = .ok p ↔
      ∃ q rest, body.play I S b = .ok q ∧
        (next (tried I slot c (q.settle slot c reject))).play I S
          (q.settle slot c reject).bench = .ok rest ∧
        rest.after (tried I slot c (q.settle slot c reject))
          (q.settle slot c reject).trace = p := by
  simp only [play_trying hc, bind_eq_ok_iff, pure, Except.pure, Except.ok.injEq, exists_and_left]

/-- The moments of a step and of what follows it. -/
theorem moments_act {r : Scanned α (Reply α ε × Bench)} (hc : b.cursors[slot]? = some c)
    (hr : (I.step a b).run S c = .ok r) :
    (act slot a next).moments I S b =
      b :: (next (r.value.1, I.shown r.cursor)).moments I S (r.value.2.update slot r.cursor) := by
  simp only [moments, hc, hr]

theorem moments_trying (hc : b.cursors[slot]? = some c) (hp : body.play I S b = .ok p) :
    (trying slot reject body next).moments I S b =
      body.moments I S b ++
        (next (tried I slot c (p.settle slot c reject))).moments I S
          (p.settle slot c reject).bench := by
  simp only [moments, hc, hp]

theorem play_act_missing (hc : b.cursors[slot]? = none) :
    (act slot a next).play I S b = .ok ⟨[], b, []⟩ := by
  rw [play, hc]
  rfl

theorem play_trying_missing (hc : b.cursors[slot]? = none) :
    (trying slot reject body next).play I S b = .ok ⟨[], b, []⟩ := by
  rw [play, hc]
  rfl

theorem moments_act_missing (hc : b.cursors[slot]? = none) :
    (act slot a next).moments I S b = [b] := by
  simp only [moments, hc]

theorem moments_trying_missing (hc : b.cursors[slot]? = none) :
    (trying slot reject body next).moments I S b = [b] := by
  simp only [moments, hc]

end

/-- Whether the session takes no other steps, whatever it is answered. -/
def Only (A : Action α ε → Prop) : Session α ε → Prop
  | .done => True
  | .act _ a next => A a ∧ ∀ record, (next record).Only A
  | .trying _ _ body next => body.Only A ∧ ∀ record, (next record).Only A

theorem only_true (P : Session α ε) : P.Only fun _ => True := by
  induction P with
  | done => trivial
  | act slot a next ih => exact ⟨trivial, ih⟩
  | trying slot reject body next ihb ihn => exact ⟨ihb, ihn⟩

/-! ## scripts -/

/-- A script as a session of one cursor. -/
def ofScript (slot : Nat) : Script α ε → Session α ε
  | .done => .done
  | .act a rest => .act slot a fun _ => ofScript slot rest
  | .trying reject body rest => .trying slot reject (ofScript slot body) fun _ => ofScript slot rest

end Session

section

variable {α ε : Type} [DecidableEq α] [Item α] {S : Source α} {b : Bench} {slot : Nat}

/-- A step does not look at the cursors that stand on the bench. -/
theorem Action.scan_update (h : slot < b.cursors.size) (a : Action α ε) (c : Cursor) :
    a.scan (b.update slot c) = Prod.map id (·.update slot c) <$> a.scan b := by
  cases a <;> simp [Action.scan, Bench.addCursor_update h, Bench.addCheckpoint_update]
  split <;> simp

/-- All that a step adds to the bench is a copy of its own cursor. -/
theorem Action.bench_of_run {a : Action α ε} {c : Cursor} {r : Scanned α (Reply α ε × Bench)}
    (h : (a.scan b).run S c = .ok r) :
    r.value.2 = b ∨
      r.cursor = c ∧ (a = .clone ∧ r.value.2 = b.addCursor c ∨ r.value.2 = b.addCheckpoint c) := by
  cases a with
  | clone =>
      rw [Action.scan, Scan.checkpoint, bind_pure_comp, Scan.run_map_eq_ok_iff] at h
      obtain ⟨s, hs, rfl⟩ := h
      cases hs
      exact .inr ⟨rfl, .inl ⟨rfl, rfl⟩⟩
  | checkpoint =>
      rw [Action.scan, Scan.checkpoint, bind_pure_comp, Scan.run_map_eq_ok_iff] at h
      obtain ⟨s, hs, rfl⟩ := h
      cases hs
      exact .inr ⟨rfl, .inr rfl⟩
  | restore index =>
      simp only [Action.scan, bind_pure_comp] at h
      split at h
      · obtain ⟨s, -, rfl⟩ := Scan.run_map_eq_ok_iff.1 h
        exact .inl rfl
      · cases h
        exact .inl rfl
  | _ =>
      simp only [Action.scan, bind_pure_comp] at h
      obtain ⟨s, -, rfl⟩ := Scan.run_map_eq_ok_iff.1 h
      exact .inl rfl

/-- No step takes a cursor off the bench. -/
theorem Action.size_le_of_run {a : Action α ε} {c : Cursor} {r : Scanned α (Reply α ε × Bench)}
    (h : (a.scan b).run S c = .ok r) : b.cursors.size ≤ r.value.2.cursors.size := by
  rcases Action.bench_of_run h with hb | ⟨-, ⟨-, hb⟩ | hb⟩ <;> simp [hb, Bench.addCheckpoint]

/-- No script takes a cursor off the bench. -/
theorem Script.size_le_of_run {s : Script α ε} {c : Cursor}
    {r : Scanned α (List (Record α ε) × Bench)} (h : (s.scan b).run S c = .ok r) :
    b.cursors.size ≤ r.value.2.cursors.size := by
  induction s generalizing b c r with
  | done =>
      cases h
      exact Nat.le_refl _
  | act a rest ih =>
      rw [Script.run_act] at h
      cases ha : (a.scan b).run S c with
      | error => rw [ha] at h; cases h
      | ok u =>
          rw [ha] at h
          cases ht : (rest.scan u.value.2).run S u.cursor with
          | error => simp [ht, bind, Except.bind] at h
          | ok t =>
              simp only [ht, bind, Except.bind] at h
              cases h
              have := ih ht
              exact Nat.le_trans (Action.size_le_of_run ha) this
  | trying reject body rest ihb ihr =>
      rw [run_trying] at h
      cases hb : (body.scan b).run S c with
      | error => rw [hb] at h; cases h
      | ok u =>
          simp only [hb, bind, Except.bind] at h
          split at h
          · cases h
          · next t ht =>
            cases h
            have := ihr ht
            exact Nat.le_trans (ihb hb) this

/-- A script does not look at the cursors that stand on the bench. -/
theorem Script.run_scan_update (h : slot < b.cursors.size) (s : Script α ε) (c d : Cursor) :
    (s.scan (b.update slot c)).run S d =
      ((s.scan b).run S d).map fun r =>
        ⟨(r.value.1, r.value.2.update slot c), r.cursor, r.trace⟩ := by
  induction s generalizing b d with
  | done => rfl
  | act a rest ih =>
      rw [Script.run_act, Script.run_act, Action.scan_update h, Scan.run_map]
      cases ha : (a.scan b).run S d with
      | error => rfl
      | ok r =>
          have hr : slot < r.value.2.cursors.size := Nat.lt_of_lt_of_le h (Action.size_le_of_run ha)
          simp only [Except.map, bind, Except.bind, Prod.map, id]
          rw [ih hr]
          cases (rest.scan r.value.2).run S r.cursor <;> rfl
  | trying reject body rest ihb ihr =>
      rw [run_trying, run_trying, ihb h]
      cases hb : (body.scan b).run S d with
      | error => rfl
      | ok r =>
          have hr : slot < r.value.2.cursors.size := Nat.lt_of_lt_of_le h (size_le_of_run hb)
          simp only [Except.map, bind, Except.bind]
          rw [ihr hr]
          cases (rest.scan r.value.2).run S (if reject r.value.1 then d else r.cursor) <;> rfl

namespace Session

/-- What a script does in a slot, it does as a session. -/
theorem play_ofScript_eq (hc : b.cursors[slot]? = some c) (s : Script α ε) :
    (ofScript slot s).play .full S b =
      ((s.scan b).run S c).map fun r => ⟨r.value.1, r.value.2.update slot r.cursor, r.trace⟩ := by
  have hslot : slot < b.cursors.size := (Array.getElem?_eq_some_iff.1 hc).1
  induction s generalizing b c with
  | done =>
      change Except.ok _ = Except.ok (Performance.mk _ (b.update slot c) _)
      rw [Bench.update_self hc]
  | act a rest ih =>
      rw [ofScript, play_act hc, Script.run_act]
      change (do let r ← (a.scan b).run S c; _) = _
      cases ha : (a.scan b).run S c with
      | error => rfl
      | ok r =>
          have hr : slot < r.value.2.cursors.size :=
            Nat.lt_of_lt_of_le hslot (Action.size_le_of_run ha)
          simp only [bind, Except.bind]
          rw [ih (Bench.getElem?_update_self hr _) (by simpa using hr), Script.run_scan_update hr]
          cases (rest.scan r.value.2).run S r.cursor <;>
            simp [Except.map, Performance.after, Interpreter.full, pure, Except.pure]
  | trying reject body rest ihb ihr =>
      rw [ofScript, play_trying hc, ihb hc hslot, Script.run_trying]
      cases hb : (body.scan b).run S c with
      | error => rfl
      | ok r =>
          have hr : slot < r.value.2.cursors.size :=
            Nat.lt_of_lt_of_le hslot (Script.size_le_of_run hb)
          -- Cursors that the body has added stand behind the slot, so the slot is the same.
          have hd (d : Cursor) := Bench.getElem?_update_self hr d
          have hr' (d : Cursor) : slot < (r.value.2.update slot d).cursors.size := by simpa using hr
          have hget (d : Cursor) : (r.value.2.update slot d).cursors.getD slot c = d := by
            simp [Bench.update, hr]
          simp only [Except.map, bind, Except.bind, Performance.settle, tried]
          cases hj : reject r.value.1
          · simp only [Bool.false_eq_true, if_false, hget]
            rw [ihr (hd _) (hr' _), Script.run_scan_update hr]
            cases (rest.scan r.value.2).run S r.cursor <;>
              simp [Except.map, Performance.after, Interpreter.full, pure, Except.pure]
          · simp only [if_true, hget, Bench.update_update]
            rw [ihr (hd _) (hr' _), Script.run_scan_update hr]
            cases (rest.scan r.value.2).run S c <;>
              simp [Except.map, Performance.after, Interpreter.full, pure, Except.pure]

/-- Every script is a session. -/
theorem play_ofScript (s : Script α ε) (b : Bench) (slot : Nat) :
    (ofScript slot s).play .full S b = b.perform S slot s := by
  unfold Bench.perform
  cases hc : b.cursors[slot]? with
  | some c => exact play_ofScript_eq hc s
  | none =>
      cases s <;> simp [ofScript, play, hc] <;> rfl

end Session
end
end ScanCursor
