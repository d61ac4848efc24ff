import Mathlib.Data.List.Forall2
import ScanCursor.Proofs.Aligned
import ScanCursor.Proofs.Course
import ScanCursor.Proofs.Session
import ScanCursor.Proofs.Simulation

/-!
# ScanCursor.Proofs.Lockstep

Two ways of carrying out one session, compared.  If single steps simulate one
another and show the session the same, so do whole sessions, bodies and returns
included: the records are equal, and the benches that the two pass through are
related one by one (`play_simulates`).  Where one side is refused, they are so up to there
(`moments_simulates`); and an interpreter that only refuses more than another one comes the
same way as far as it comes (`moments_prefix_of_restricts`).

What the two sides tell may be compared as well.  A relation between traces that
respects their composition (`Trace.Echoes`) holds of whole sessions if it holds of
single steps (`play_echoes`), and of single steps if it holds of single reads and
returns (`Course.echoes`).
-/

namespace ScanCursor

/-! ## related benches -/

/-- As many cursors and checkpoints, related one by one. -/
structure Bench.Related (R : Cursor → Cursor → Prop) (b b' : Bench) : Prop where
  cursors : Aligned R b.cursors b'.cursors
  checkpoints : Aligned R b.checkpoints b'.checkpoints

namespace Bench.Related

variable {R : Cursor → Cursor → Prop} {b b' : Bench} {c d : Cursor}

theorem single (h : R c d) : Bench.Related R (single c) (single d) :=
  ⟨Aligned.empty.push h, .empty⟩

theorem update (h : Bench.Related R b b') (slot : Nat) (hcd : R c d) :
    Bench.Related R (b.update slot c) (b'.update slot d) :=
  ⟨h.cursors.setIfInBounds hcd, h.checkpoints⟩

theorem addCursor (h : Bench.Related R b b') (hcd : R c d) :
    Bench.Related R (b.addCursor c) (b'.addCursor d) :=
  ⟨h.cursors.push hcd, h.checkpoints⟩

theorem addCheckpoint (h : Bench.Related R b b') (hcd : R c d) :
    Bench.Related R (b.addCheckpoint c) (b'.addCheckpoint d) :=
  ⟨h.cursors, h.checkpoints.push hcd⟩

end Bench.Related

/-! ## related steps -/

section

variable {α ε : Type} [DecidableEq α] [Item α] {S : Source α} {R : Cursor → Cursor → Prop}
  {b b' : Bench} {c d : Cursor}

/-- A step that neither changes counters by itself nor answers what they show. -/
def Action.IsPlain : Action α ε → Prop
  | .expect _ | .recount | .inner => False
  | _ => True

/-- A reply that does not come from counters. -/
def Reply.IsPlain : Reply α ε → Prop
  | .expected _ | .inner _ _ => False
  | _ => True

/-- Related cursors that find the same items answer plain steps alike. -/
theorem Action.simulates_plain (h : Scan.Abreast S S R)
    (hposition : ∀ ⦃c d⦄, R c d → d.position = c.position)
    (hjump : ∀ p ⦃c d⦄, R c d → R (c.jump p) (d.jump p)) (hb : Bench.Related R b b')
    {a : Action α ε} (ha : a.IsPlain) :
    Scan.Simulates S S R
      (fun v v' => v'.1 = v.1 ∧ v.1.IsPlain ∧ Bench.Related R v.2 v'.2) (a.scan b) (a.scan b') := by
  -- It is enough that the scans inside answer alike.
  have hreply {β : Type} {f : β → Reply α ε} {x y : Scan α β}
      (hx : Scan.Simulates S S R Eq x y) (hplain : ∀ v, (f v).IsPlain) :
      Scan.Simulates S S R (fun v v' => v'.1 = v.1 ∧ v.1.IsPlain ∧ Bench.Related R v.2 v'.2)
        (do return (f (← x), b)) (do return (f (← y), b')) := by
    rw [bind_pure_comp, bind_pure_comp]
    exact .map (hx.mono fun v v' hv => ⟨by rw [hv], hplain v, hb⟩)
  cases a with
  | expect | recount | inner => exact ha.elim
  | clone =>
      exact .bind (.look fun c d hcd => hcd) fun c d hcd =>
        .pure ⟨by rw [hb.cursors.size_eq], trivial, hb.addCursor hcd⟩
  | checkpoint =>
      exact .bind (.look fun c d hcd => hcd) fun c d hcd =>
        .pure ⟨by rw [hb.checkpoints.size_eq], trivial, hb.addCheckpoint hcd⟩
  | restore index =>
      simp only [Action.scan]
      cases hk : b.checkpoints[index]? with
      | none =>
          rw [hb.checkpoints.getElem?_eq_none_iff.2 hk]
          exact .pure ⟨rfl, trivial, hb⟩
      | some k =>
          obtain ⟨l, hl, hkl⟩ := hb.checkpoints.exists_of_getElem? hk
          rw [hl]
          exact .bind (.restore hkl) fun _ _ _ => .pure ⟨rfl, trivial, hb⟩
  | jump p => exact .bind (.move (hjump p)) fun _ _ _ => .pure ⟨rfl, trivial, hb⟩
  | lookup p =>
      exact .bind (V := fun r r' => r' = r ∧ r.IsPlain) (.look fun c d hcd => ⟨rfl, trivial⟩)
        fun r r' hr => .pure ⟨hr.1, hr.2, hb⟩
  | peek => exact hreply (Scan.simulates_peek h) fun _ => trivial
  | peekOr into eof => exact hreply (Scan.simulates_peekOr h into eof) fun _ => trivial
  | peekNth n =>
      refine hreply (.look fun c d hcd => ?_) fun _ => trivial
      rw [Cursor.peekNth, Cursor.peekNth, hposition hcd]
  | atEnd =>
      refine hreply (.look fun c d hcd => ?_) fun _ => trivial
      rw [Cursor.atEnd, Cursor.atEnd, h.peek hcd]
  | remaining =>
      refine hreply (.look fun c d hcd => ?_) fun _ => trivial
      rw [Cursor.remaining, Cursor.remaining, hposition hcd]
  | spanFrom start =>
      refine hreply (.look fun c d hcd => ?_) fun _ => trivial
      rw [Cursor.spanFrom, Cursor.spanFrom, hposition hcd]
  | read => exact hreply (Scan.simulates_read h) fun _ => trivial
  | readTimes n => exact hreply (Scan.simulates_readTimes h n) fun _ => trivial
  | readOr into eof => exact hreply (Scan.simulates_readOr h into eof) fun _ => trivial
  | readIf passes =>
      exact hreply (f := fun v : _ × Shown α => .accepted v.1 v.2.count)
        (Scan.simulates_readIf h _ _) fun _ => trivial
  | readWhile passes =>
      exact hreply (f := fun v : _ × Shown α => .counted v.1 v.2.count)
        (Scan.simulates_readWhile h _ _) fun _ => trivial

end

/-! ## related traces -/

section

variable {α ε : Type} {R : Cursor → Cursor → Prop} {T : Trace α → Trace α → Prop}

/-- A relation between traces that holds of the reads and the returns of related
cursors, and of what is composed of them. -/
structure Trace.Echoes (R : Cursor → Cursor → Prop) (T : Trace α → Trace α → Prop) : Prop where
  nil : T [] []
  append : ∀ ⦃es fs es' fs'⦄, T es fs → T es' fs' → T (es ++ es') (fs ++ fs')
  read : ∀ ⦃c d⦄, R c d → ∀ x, T (c.readEvents x) (d.readEvents x)
  restore : ∀ ⦃c d k l⦄, R c d → R k l → T (c.restoreEvents k) (d.restoreEvents l)

/-- The same course, back to related cursors if it is a return. -/
def Course.Related (R : Cursor → Cursor → Prop) : Course → Course → Prop
  | .back k, .back l => R k l
  | x, y => y = x

/-- On related benches a step takes the same course. -/
theorem Action.related_course [DecidableEq α] {S : Source α} {b b' : Bench} {c d : Cursor}
    (hb : Bench.Related R b b') (hposition : d.position = c.position) (a : Action α ε) :
    Course.Related R (a.course S b c) (a.course S b' d) := by
  cases a with
  | restore index =>
      simp only [course]
      cases hk : b.checkpoints[index]? with
      | none =>
          rw [hb.checkpoints.getElem?_eq_none_iff.2 hk]
          rfl
      | some k =>
          obtain ⟨l, hl, hkl⟩ := hb.checkpoints.exists_of_getElem? hk
          rw [hl]
          exact hkl
  | expect wanted =>
      simp only [course, hposition]
      split <;> rfl
  | _ =>
      simp only [course, hposition]
      rfl

variable [Item α] {S : Source α} {c d c' d' : Cursor} {es fs : Trace α}

/-- Reads in a row tell related things, read by read. -/
theorem Scan.echoes_readTimes (hT : Trace.Echoes R T) (h : Scan.Abreast S S R)
    (hposition : ∀ ⦃c d⦄, R c d → d.position = c.position) {n : Nat} (hcd : R c d)
    {xs ys : List (Option α)} (hc : (Scan.readTimes n).run S c = .ok ⟨xs, c', es⟩)
    (hd : (Scan.readTimes n).run S d = .ok ⟨ys, d', fs⟩) : T es fs := by
  induction n generalizing c d xs ys es fs with
  | zero =>
      rw [Scan.readTimes_zero] at hc hd
      cases hc
      cases hd
      exact hT.nil
  | succ n ih =>
      obtain ⟨c₁, u, hread, hu, ⟨⟩⟩ := Scan.run_readTimes_succ_eq_ok_iff.1 hc
      obtain ⟨d₁, v, hread', hv, ⟨⟩⟩ := Scan.run_readTimes_succ_eq_ok_iff.1 hd
      obtain ⟨d₂, hd₂, hcd'⟩ := h.read hcd hread
      rw [hposition hcd, hd₂] at hread'
      cases hread'
      rw [hposition hcd]
      exact hT.append (hT.read hcd' _) (ih hcd' hu hv)

/-- Related courses of related cursors tell related things. -/
theorem Course.echoes (hT : Trace.Echoes R T) (h : Scan.Abreast S S R)
    (hposition : ∀ ⦃c d⦄, R c d → d.position = c.position) {x y : Course}
    (hxy : Course.Related R x y) (hcd : R c d) (hc : x.Leads S c es c')
    (hd : y.Leads S d fs d') : T es fs := by
  cases x with
  | back k =>
      cases y with
      | back l =>
          obtain ⟨-, rfl⟩ := hc
          obtain ⟨-, rfl⟩ := hd
          exact hT.restore hcd hxy
      | _ => cases hxy
  | reads n =>
      cases hxy
      obtain ⟨xs, hc⟩ := hc
      obtain ⟨ys, hd⟩ := hd
      exact Scan.echoes_readTimes hT h hposition hcd hc hd
  | attempt =>
      cases hxy
      obtain ⟨e, hread, -, rfl⟩ := hc
      obtain ⟨f, hread', -, rfl⟩ := hd
      obtain ⟨f', hf', hef⟩ := h.read hcd hread
      rw [hposition hcd, hf'] at hread'
      cases hread'
      rw [hposition hcd]
      exact hT.append (hT.read hef _) (hT.restore hef hcd)
  | jump p =>
      cases hxy
      obtain ⟨-, rfl⟩ := hc
      obtain ⟨-, rfl⟩ := hd
      exact hT.nil
  | recount =>
      cases hxy
      obtain ⟨-, rfl⟩ := hc
      obtain ⟨-, rfl⟩ := hd
      exact hT.nil

end

/-! ## related sessions -/

section

variable {α ε : Type} {I J : Interpreter α ε} {S S' : Source α} {R : Cursor → Cursor → Prop}
  {A : Action α ε → Prop} {T : Trace α → Trace α → Prop}

/-- Bodies that went alike are both kept or both taken back, and leave related benches. -/
theorem Performance.related_settle {p q : Performance α ε} {c d : Cursor}
    (hrecords : q.records = p.records) (hb : Bench.Related R p.bench q.bench) (hR : R c d)
    (slot : Nat) (reject : List (Record α ε) → Bool) :
    Bench.Related R (p.settle slot c reject).bench (q.settle slot d reject).bench := by
  rw [Performance.bench_settle, Performance.bench_settle, hrecords]
  split
  · exact hb.update slot hR
  · exact hb

/-- Bodies that went alike tell related things, and so do the returns if they are taken
back. -/
theorem Performance.echoes_settle (hT : Trace.Echoes R T) {p q : Performance α ε} {c d : Cursor}
    (hrecords : q.records = p.records) (hb : Bench.Related R p.bench q.bench) (hR : R c d)
    (hpq : T p.trace q.trace) (slot : Nat) (reject : List (Record α ε) → Bool) :
    T (p.settle slot c reject).trace (q.settle slot d reject).trace := by
  rw [Performance.settle, Performance.settle, hrecords]
  split
  · exact hT.append hpq (hT.restore (hb.cursors.getD hR) hR)
  · exact hpq

namespace Session

/-- The same records, and related benches at the end and at every moment before. -/
structure Lockstep (I J : Interpreter α ε) (S S' : Source α) (R : Cursor → Cursor → Prop)
    (P : Session α ε) (b b' : Bench) (p q : Performance α ε) : Prop where
  play : P.play J S' b' = .ok q
  records : q.records = p.records
  bench : Bench.Related R p.bench q.bench
  moments : List.Forall₂ (Bench.Related R) (P.moments I S b) (P.moments J S' b')

/-- Bodies that went alike are recorded alike. -/
theorem tried_settle (hshown : ∀ ⦃c d⦄, R c d → J.shown d = I.shown c) {p q : Performance α ε}
    {c d : Cursor} {slot : Nat} {reject : List (Record α ε) → Bool}
    (hrecords : q.records = p.records)
    (hb : Bench.Related R (p.settle slot c reject).bench (q.settle slot d reject).bench)
    (hR : R c d) :
    tried J slot d (q.settle slot d reject) = tried I slot c (p.settle slot c reject) := by
  rw [tried, tried, Performance.records_settle, Performance.records_settle, hrecords,
    hshown (hb.cursors.getD hR)]

/-- If every step that may occur is answered alike over related benches and tells related
things, so is and does the whole session. -/
theorem play_echoes (hT : Trace.Echoes R T)
    (hstep : ∀ a, A a → ∀ ⦃b b'⦄, Bench.Related R b b' →
      Scan.Simulates S S' R (fun v v' => v'.1 = v.1 ∧ Bench.Related R v.2 v'.2)
        (I.step a b) (J.step a b'))
    (htold : ∀ a, A a → ∀ ⦃b b'⦄, Bench.Related R b b' → ∀ ⦃c d⦄, R c d → ∀ ⦃r t⦄,
      (I.step a b).run S c = .ok r → (J.step a b').run S' d = .ok t → T r.trace t.trace)
    (hshown : ∀ ⦃c d⦄, R c d → J.shown d = I.shown c) {P : Session α ε} (hP : P.Only A)
    {b b' : Bench} (hb : Bench.Related R b b') {p : Performance α ε}
    (hp : P.play I S b = .ok p) : ∃ q, Lockstep I J S S' R P b b' p q ∧ T p.trace q.trace := by
  -- The benches stay related, so both sides answer the same records and go on
  -- with the same session; an absent cursor is absent on both sides.
  induction P generalizing b b' p with
  | done =>
      cases hp
      exact ⟨_, ⟨rfl, rfl, hb, .cons hb .nil⟩, hT.nil⟩
  | act slot a next ih =>
      cases hc : b.cursors[slot]? with
      | none =>
          have hd := hb.cursors.getElem?_eq_none_iff.2 hc
          rw [play_act_missing hc] at hp
          cases hp
          refine ⟨_, ⟨play_act_missing hd, rfl, hb, ?_⟩, hT.nil⟩
          rw [moments_act_missing hc, moments_act_missing hd]
          exact .cons hb .nil
      | some c =>
          obtain ⟨d, hd, hR⟩ := hb.cursors.exists_of_getElem? hc
          obtain ⟨r, rest, hr, hrest, rfl⟩ := (play_act_eq_ok_iff hc).1 hp
          obtain ⟨r', hr', ⟨hreply, hbench⟩, hR'⟩ := hstep a hP.1 hb hR hr
          obtain ⟨q, hq, htrace⟩ := ih _ (hP.2 _) (hbench.update slot hR') hrest
          have hrecord : (r'.value.1, J.shown r'.cursor) = (r.value.1, I.shown r.cursor) := by
            rw [hreply, hshown hR']
          refine ⟨q.after (r.value.1, I.shown r.cursor) r'.trace, ⟨?_, ?_, hq.bench, ?_⟩,
            hT.append (htold a hP.1 hb hR hr hr') htrace⟩
          · rw [play_act_eq_ok_iff hd]
            exact ⟨r', q, hr', by rw [hrecord]; exact hq.play, by rw [hrecord]⟩
          · rw [Performance.records_after, Performance.records_after, hq.records]
          · rw [moments_act hc hr, moments_act hd hr', hrecord]
            exact .cons hb hq.moments
  | trying slot reject body next ihb ihn =>
      cases hc : b.cursors[slot]? with
      | none =>
          have hd := hb.cursors.getElem?_eq_none_iff.2 hc
          rw [play_trying_missing hc] at hp
          cases hp
          refine ⟨_, ⟨play_trying_missing hd, rfl, hb, ?_⟩, hT.nil⟩
          rw [moments_trying_missing hc, moments_trying_missing hd]
          exact .cons hb .nil
      | some c =>
          obtain ⟨d, hd, hR⟩ := hb.cursors.exists_of_getElem? hc
          obtain ⟨u, rest, hu, hrest, rfl⟩ := (play_trying_eq_ok_iff hc).1 hp
          obtain ⟨u', hu', hbody⟩ := ihb hP.1 hb hu
          have hsettle := Performance.related_settle hu'.records hu'.bench hR slot reject
          have hrecord := tried_settle hshown hu'.records hsettle hR
          have htold' :=
            Performance.echoes_settle hT hu'.records hu'.bench hR hbody slot reject
          obtain ⟨q, hq, htrace⟩ := ihn _ (hP.2 _) hsettle hrest
          refine ⟨q.after (tried I slot c (u.settle slot c reject))
            (u'.settle slot d reject).trace, ⟨?_, ?_, hq.bench, ?_⟩, hT.append htold' htrace⟩
          · rw [play_trying_eq_ok_iff hd]
            exact ⟨u', q, hu'.play, by rw [hrecord]; exact hq.play, by rw [hrecord]⟩
          · rw [Performance.records_after, Performance.records_after, hq.records]
          · rw [moments_trying hc hu, moments_trying hd hu'.play, hrecord]
            exact List.rel_append hu'.moments hq.moments

/-- If every step that may occur is answered alike over related benches, so is the whole
session. -/
theorem play_simulates
    (hstep : ∀ a, A a → ∀ ⦃b b'⦄, Bench.Related R b b' →
      Scan.Simulates S S' R (fun v v' => v'.1 = v.1 ∧ Bench.Related R v.2 v'.2)
        (I.step a b) (J.step a b'))
    (hshown : ∀ ⦃c d⦄, R c d → J.shown d = I.shown c) {P : Session α ε} (hP : P.Only A)
    {b b' : Bench} (hb : Bench.Related R b b') {p : Performance α ε}
    (hp : P.play I S b = .ok p) : ∃ q, Lockstep I J S S' R P b b' p q := by
  have hT : Trace.Echoes R fun (_ _ : Trace α) => True :=
    ⟨trivial, fun _ _ _ _ _ _ => trivial, fun _ _ _ _ => trivial, fun _ _ _ _ _ _ => trivial⟩
  obtain ⟨q, hq, -⟩ := play_echoes hT hstep (fun _ _ _ _ _ _ _ _ _ _ _ _ => trivial) hshown hP hb hp
  exact ⟨q, hq⟩

/-- A session that is refused on one side has been carried out alike up to there. -/
theorem moments_simulates
    (hstep : ∀ a, A a → ∀ ⦃b b'⦄, Bench.Related R b b' →
      Scan.Simulates S S' R (fun v v' => v'.1 = v.1 ∧ Bench.Related R v.2 v'.2)
        (I.step a b) (J.step a b'))
    (hshown : ∀ ⦃c d⦄, R c d → J.shown d = I.shown c) {P : Session α ε} (hP : P.Only A)
    {b b' : Bench} (hb : Bench.Related R b b') :
    ∃ bs, bs <+: P.moments J S' b' ∧ List.Forall₂ (Bench.Related R) (P.moments I S b) bs := by
  -- Up to a refusal this is `play_simulates`; from there on only the other side has moments.
  induction P generalizing b b' with
  | done => exact ⟨[b'], List.prefix_rfl, .cons hb .nil⟩
  | act slot a next ih =>
      cases hc : b.cursors[slot]? with
      | none =>
          have hd := hb.cursors.getElem?_eq_none_iff.2 hc
          rw [moments_act_missing hc, moments_act_missing hd]
          exact ⟨[b'], List.prefix_rfl, .cons hb .nil⟩
      | some c =>
          obtain ⟨d, hd, hR⟩ := hb.cursors.exists_of_getElem? hc
          cases hr : (I.step a b).run S c with
          | error o =>
              simp only [moments, hc, hd, hr]
              exact ⟨[b'], List.prefix_append [b'] _, .cons hb .nil⟩
          | ok r =>
              obtain ⟨r', hr', ⟨hreply, hbench⟩, hR'⟩ := hstep a hP.1 hb hR hr
              obtain ⟨bs, hprefix, hmoments⟩ := ih _ (hP.2 _) (hbench.update slot hR')
              rw [moments_act hc hr, moments_act hd hr', hreply, hshown hR']
              exact ⟨b' :: bs, List.cons_prefix_cons.2 ⟨rfl, hprefix⟩, .cons hb hmoments⟩
  | trying slot reject body next ihb ihn =>
      cases hc : b.cursors[slot]? with
      | none =>
          have hd := hb.cursors.getElem?_eq_none_iff.2 hc
          rw [moments_trying_missing hc, moments_trying_missing hd]
          exact ⟨[b'], List.prefix_rfl, .cons hb .nil⟩
      | some c =>
          obtain ⟨d, hd, hR⟩ := hb.cursors.exists_of_getElem? hc
          cases hu : body.play I S b with
          | error o =>
              obtain ⟨bs, hprefix, hmoments⟩ := ihb hP.1 hb
              simp only [moments, hc, hd, hu, List.append_nil]
              exact ⟨bs, hprefix.trans (List.prefix_append _ _), hmoments⟩
          | ok u =>
              obtain ⟨u', hu'⟩ := play_simulates hstep hshown hP.1 hb hu
              have hsettle := Performance.related_settle hu'.records hu'.bench hR slot reject
              have hrecord := tried_settle hshown hu'.records hsettle hR
              obtain ⟨bs, hprefix, hmoments⟩ := ihn _ (hP.2 _) hsettle
              rw [moments_trying hc hu, moments_trying hd hu'.play, hrecord]
              exact ⟨_, (List.prefix_append_right_inj _).2 hprefix,
                List.rel_append hu'.moments hmoments⟩

end Session

end

/-! ## refusing more -/

section

variable {α ε : Type} {I J : Interpreter α ε} {S : Source α} {b : Bench} {p : Performance α ε}

/-- What `I` does not refuse, `J` does in the same way. -/
structure Interpreter.Restricts (I J : Interpreter α ε) (S : Source α) : Prop where
  step : ∀ ⦃a b c r⦄, (I.step a b).run S c = .ok r → (J.step a b).run S c = .ok r
  shown : ∀ c, J.shown c = I.shown c

namespace Session

variable (h : I.Restricts J S)

include h

/-- Both record a body in the same way. -/
theorem tried_of_restricts (slot : Nat) (before : Cursor) (p : Performance α ε) :
    tried J slot before p = tried I slot before p := by
  rw [tried, tried, h.shown]

/-- A session that `I` does not refuse is carried out by `J` with the same moments. -/
theorem play_of_restricts {P : Session α ε} (hp : P.play I S b = .ok p) :
    P.play J S b = .ok p ∧ P.moments J S b = P.moments I S b := by
  induction P generalizing b p with
  | done => exact ⟨hp, rfl⟩
  | act slot a next ih =>
      cases hc : b.cursors[slot]? with
      | none =>
          rw [play_act_missing hc] at hp ⊢
          rw [moments_act_missing hc, moments_act_missing hc]
          exact ⟨hp, rfl⟩
      | some c =>
          obtain ⟨r, rest, hr, hrest, rfl⟩ := (play_act_eq_ok_iff hc).1 hp
          obtain ⟨hplay, hmoments⟩ := ih _ hrest
          have hr' := h.step hr
          rw [moments_act hc hr, moments_act hc hr', play_act_eq_ok_iff hc, h.shown, hmoments]
          exact ⟨⟨r, rest, hr', by rw [h.shown]; exact hplay, by rw [h.shown]⟩, rfl⟩
  | trying slot reject body next ihb ihn =>
      cases hc : b.cursors[slot]? with
      | none =>
          rw [play_trying_missing hc] at hp ⊢
          rw [moments_trying_missing hc, moments_trying_missing hc]
          exact ⟨hp, rfl⟩
      | some c =>
          obtain ⟨u, rest, hu, hrest, rfl⟩ := (play_trying_eq_ok_iff hc).1 hp
          obtain ⟨hbody, hbodyMoments⟩ := ihb hu
          obtain ⟨hplay, hmoments⟩ := ihn _ hrest
          have htried := tried_of_restricts h slot c (u.settle slot c reject)
          rw [moments_trying hc hu, moments_trying hc hbody, play_trying_eq_ok_iff hc, htried,
            hbodyMoments, hmoments]
          exact ⟨⟨u, rest, hbody, by rw [htried]; exact hplay, by rw [htried]⟩, rfl⟩

/-- A session that is refused earlier has come no other way. -/
theorem moments_prefix_of_restricts (P : Session α ε) (b : Bench) :
    P.moments I S b <+: P.moments J S b := by
  induction P generalizing b with
  | done => exact List.prefix_rfl
  | act slot a next ih =>
      cases hc : b.cursors[slot]? with
      | none => simp only [moments_act_missing hc, List.prefix_rfl]
      | some c =>
          cases hr : (I.step a b).run S c with
          | error o =>
              simp only [moments, hc, hr]
              exact List.prefix_append [b] _
          | ok r =>
              rw [moments_act hc hr, moments_act hc (h.step hr), h.shown]
              exact List.cons_prefix_cons.2 ⟨rfl, ih _ _⟩
  | trying slot reject body next ihb ihn =>
      cases hc : b.cursors[slot]? with
      | none => simp only [moments_trying_missing hc, List.prefix_rfl]
      | some c =>
          cases hu : body.play I S b with
          | error o =>
              simp only [moments, hc, hu, List.append_nil]
              exact (ihb b).trans (List.prefix_append _ _)
          | ok u =>
              obtain ⟨hbody, hmoments⟩ := play_of_restricts h hu
              rw [moments_trying hc hu, moments_trying hc hbody, tried_of_restricts h, hmoments]
              exact (List.prefix_append_right_inj _).2 (ihn _ _)

end Session

end

end ScanCursor
