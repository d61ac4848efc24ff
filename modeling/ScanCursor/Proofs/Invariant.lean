import ScanCursor.Proofs.Keeps
import ScanCursor.Proofs.Session

/-!
# ScanCursor.Proofs.Invariant

What a session keeps of the cursors of its bench.  If single steps keep a
property of cursors, then all cursors and all checkpoints have it at every
moment of a session, bodies and returns included (`Session.ends_play`,
`Session.all_moments`).
-/

namespace ScanCursor

variable {K : Cursor → Prop}

/-- Every cursor and every checkpoint has the property. -/
structure Bench.All (K : Cursor → Prop) (b : Bench) : Prop where
  cursors : ∀ c ∈ b.cursors, K c
  checkpoints : ∀ c ∈ b.checkpoints, K c

namespace Bench.All

variable {b : Bench} {c : Cursor}

/-- A bench with one cursor. -/
theorem single (hc : K c) : (single c).All K :=
  ⟨by simpa [Bench.single] using hc, by simp [Bench.single]⟩

/-- What follows of a cursor follows of all. -/
theorem mono {K' : Cursor → Prop} (hb : b.All K) (h : ∀ c, K c → K' c) : b.All K' :=
  ⟨fun c hc => h c (hb.cursors c hc), fun c hc => h c (hb.checkpoints c hc)⟩

/-- A cursor with `K` may come to stand in any slot. -/
theorem update (hb : b.All K) (slot : Nat) (hc : K c) : (b.update slot c).All K where
  cursors d hd := by
    rcases Array.mem_or_eq_of_mem_setIfInBounds hd with hd | rfl
    · exact hb.cursors d hd
    · exact hc
  checkpoints := hb.checkpoints

/-- A cursor with `K` may be added. -/
theorem addCursor (hb : b.All K) (hc : K c) : (b.addCursor c).All K where
  cursors d hd := by
    rcases Array.mem_push.1 hd with hd | rfl
    · exact hb.cursors d hd
    · exact hc
  checkpoints := hb.checkpoints

/-- A checkpoint with `K` may be added. -/
theorem addCheckpoint (hb : b.All K) (hc : K c) : (b.addCheckpoint c).All K where
  cursors := hb.cursors
  checkpoints d hd := by
    rcases Array.mem_push.1 hd with hd | rfl
    · exact hb.checkpoints d hd
    · exact hc

/-- Whatever cursor is found on the bench has `K`. -/
theorem getElem? (hb : b.All K) {slot : Nat} (hc : b.cursors[slot]? = some c) : K c :=
  hb.cursors c (Array.mem_of_getElem? hc)

/-- Settling a body puts back a cursor that had `K`, or none. -/
theorem settle {α ε : Type} {p : Performance α ε} (hp : p.bench.All K) (slot : Nat) (hc : K c)
    (reject : List (Record α ε) → Bool) : (p.settle slot c reject).bench.All K := by
  rw [Performance.bench_settle]
  split
  · exact hp.update slot hc
  · exact hp

end Bench.All

/-! ## steps -/

section

variable {α ε : Type} [DecidableEq α] [Item α] {S : Source α} {F : Prop} {b : Bench}

/-- A step keeps what reads keep, and what jumps and recounts keep if it is one. -/
theorem Action.keeps (hread : Scan.Keeps S F K (Scan.read : Scan α (Option α)))
    (hlimit : F ∨ S.get? Word.top = none) (hb : b.All K) (a : Action α ε)
    (hjump : ∀ p, a = .jump p → ∀ c, K c → K (c.jump p))
    (hrecount : a = .recount → ∀ c, K c → K c.recount) : (a.scan b).Keeps S F K := by
  cases a with
  | peek | peekOr | peekNth | atEnd | remaining | lookup | spanFrom | inner | clone | checkpoint =>
      exact .bind (.look _) fun _ => .pure _
  | read => exact .bind hread fun _ => .pure _
  | readTimes n => exact .bind (Scan.keeps_readTimes hread n) fun _ => .pure _
  | readOr into eof => exact .bind (Scan.keeps_readOr hread into eof) fun _ => .pure _
  | readIf passes => exact .bind (Scan.keeps_readIf hread _ _) fun _ => .pure _
  | readWhile passes => exact .bind (Scan.keeps_readWhile hread hlimit _ _) fun _ => .pure _
  | expect wanted => exact .bind (Scan.keeps_expect hread wanted) fun _ => .pure _
  | jump p => exact .bind (.move (hjump p rfl)) fun _ => .pure _
  | recount => exact .bind (.move (hrecount rfl)) fun _ => .pure _
  | restore index =>
      simp only [Action.scan]
      cases hk : b.checkpoints[index]? with
      | none => exact .pure _
      | some k =>
          exact .bind (.restore (hb.checkpoints k (Array.mem_of_getElem? hk))) fun _ => .pure _

/-- What a step adds to the bench is a copy of its cursor. -/
theorem Bench.All.run (hb : b.All K) {c : Cursor} (hc : K c) {a : Action α ε}
    {r : Scanned α (Reply α ε × Bench)} (hr : (a.scan b).run S c = .ok r) : r.value.2.All K := by
  rcases Action.bench_of_run hr with hr | ⟨-, ⟨-, hr⟩ | hr⟩
  · rw [hr]
    exact hb
  · rw [hr]
    exact hb.addCursor hc
  · rw [hr]
    exact hb.addCheckpoint hc

/-- A step whose scan keeps `K` of its cursor keeps it of the whole bench. -/
theorem Action.ends_scan {a : Action α ε} (ha : (a.scan b).Keeps S F K) (hb : b.All K)
    {c : Cursor} (hc : K c) :
    Ends F (fun r => K r.cursor ∧ r.value.2.All K) ((a.scan b).run S c) := by
  cases hr : (a.scan b).run S c with
  | error => exact (ha hc).of_eq_error hr
  | ok r => exact ⟨(ha hc).of_eq_ok hr, hb.run hc hr⟩

/-- What reads keep, every step of a session keeps, if the jumps and recounts that
it may make keep it too. -/
theorem Action.ends_step {A : Action α ε → Prop}
    (hread : Scan.Keeps S F K (Scan.read : Scan α (Option α)))
    (hlimit : F ∨ S.get? Word.top = none) (hjump : ∀ p, A (.jump p) → ∀ c, K c → K (c.jump p))
    (hrecount : A .recount → ∀ c, K c → K c.recount) (a : Action α ε) (ha : A a) (b : Bench)
    (hb : b.All K) (c : Cursor) (hc : K c) :
    Ends F (fun r => K r.cursor ∧ r.value.2.All K) ((Interpreter.full.step a b).run S c) := by
  have hkeeps : (a.scan b).Keeps S F K := by
    apply keeps hread hlimit hb
    · intro p hp
      exact hjump p (hp ▸ ha)
    · intro hr
      exact hrecount (hr ▸ ha)
  exact ends_scan hkeeps hb hc

end

/-! ## sessions -/

namespace Session

variable {α ε : Type} {I : Interpreter α ε} {S : Source α} {F : Prop} {A : Action α ε → Prop}
  (hstep : ∀ a, A a → ∀ b, b.All K → ∀ c, K c →
    Ends F (fun r => K r.cursor ∧ r.value.2.All K) ((I.step a b).run S c))
  {P : Session α ε} {b : Bench}

include hstep

/-- What single steps keep, whole sessions keep. -/
theorem ends_play (hP : P.Only A) (hb : b.All K) :
    Ends F (fun p => p.bench.All K) (P.play I S b) := by
  induction P generalizing b with
  | done => exact hb
  | act slot a next ih =>
      cases hc : b.cursors[slot]? with
      | none =>
          rw [play_act_missing hc]
          exact hb
      | some c =>
          rw [play_act hc]
          have hends := hstep a hP.1 b hb c (hb.getElem? hc)
          refine hends.bind fun r hr => ?_
          have hupdate := hr.2.update slot hr.1
          exact (ih _ (hP.2 _) hupdate).bind fun rest hrest => hrest
  | trying slot reject body next ihb ihn =>
      cases hc : b.cursors[slot]? with
      | none =>
          rw [play_trying_missing hc]
          exact hb
      | some c =>
          rw [play_trying hc]
          have hbody := ihb hP.1 hb
          refine hbody.bind fun p hp => ?_
          have hsettle := hp.settle slot (hb.getElem? hc) reject
          exact (ihn _ (hP.2 _) hsettle).bind fun rest hrest => hrest

/-- A refused step leaves the moments that came before it. -/
theorem all_moments (hP : P.Only A) (hb : b.All K) :
    ∀ b' ∈ P.moments I S b, b'.All K := by
  induction P generalizing b with
  | done =>
      intro b' hb'
      rw [List.mem_singleton.1 hb']
      exact hb
  | act slot a next ih =>
      intro b' hb'
      cases hc : b.cursors[slot]? with
      | none =>
          rw [moments_act_missing hc, List.mem_singleton] at hb'
          rw [hb']
          exact hb
      | some c =>
          have hends := hstep a hP.1 b hb c (hb.getElem? hc)
          cases hr : (I.step a b).run S c with
          | error =>
              simp only [moments, hc, hr, List.mem_singleton] at hb'
              rw [hb']
              exact hb
          | ok r =>
              obtain ⟨hcursor, hbench⟩ := hends.of_eq_ok hr
              rw [moments_act hc hr] at hb'
              rcases List.mem_cons.1 hb' with rfl | hb'
              · exact hb
              · exact ih _ (hP.2 _) (hbench.update slot hcursor) b' hb'
  | trying slot reject body next ihb ihn =>
      intro b' hb'
      cases hc : b.cursors[slot]? with
      | none =>
          rw [moments_trying_missing hc, List.mem_singleton] at hb'
          rw [hb']
          exact hb
      | some c =>
          have hends := ends_play hstep hP.1 hb
          cases hp : body.play I S b with
          | error =>
              -- the moments of the body, up to where it was refused, are all there are
              simp only [moments, hc, hp, List.append_nil] at hb'
              exact ihb hP.1 hb b' hb'
          | ok p =>
              rw [moments_trying hc hp] at hb'
              rcases List.mem_append.1 hb' with hb' | hb'
              · exact ihb hP.1 hb b' hb'
              · have hsettle := (hends.of_eq_ok hp).settle slot (hb.getElem? hc) reject
                exact ihn _ (hP.2 _) hsettle b' hb'

end Session

end ScanCursor
