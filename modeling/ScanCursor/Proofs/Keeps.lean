import ScanCursor.Scan.Judged
import ScanCursor.Scan.Speculation

/-!
# ScanCursor.Proofs.Keeps

What a scan keeps of its cursor.  `Keeps S F K x` says that from a cursor with
`K` the scan `x` ends with such a cursor, or is refused and `F` holds: with `F`
true a refusal is let pass, with `F` false there is none.

There is one rule for every way of composing scans.  The loop of `readWhile` is
refused only if it reads as many items as a word can count, and so never if
there is no item at the largest position.
-/

namespace ScanCursor

/-- It was refused and `F` holds, or it ended with a `V`. -/
def Ends {β : Type} (F : Prop) (V : β → Prop) : Except Overflow β → Prop
  | .ok r => V r
  | .error _ => F

namespace Ends

variable {β γ : Type} {F : Prop} {V V' : β → Prop} {W : γ → Prop} {x : Except Overflow β}

/-- What ended well ended with a `V`. -/
theorem of_eq_ok (h : Ends F V x) {r : β} (hr : x = .ok r) : V r := by
  subst hr
  exact h

/-- What was refused was let pass. -/
theorem of_eq_error (h : Ends F V x) {o : Overflow} (ho : x = .error o) : F := by
  subst ho
  exact h

/-- Where refusals are not let pass, there is none. -/
theorem exists_ok (h : Ends False V x) : ∃ r, x = .ok r ∧ V r := by
  cases x with
  | error => exact h.elim
  | ok r => exact ⟨r, rfl, h⟩

/-- The end may be told by less. -/
theorem mono (h : Ends F V x) (hV : ∀ r, V r → V' r) : Ends F V' x := by
  cases x with
  | error => exact h
  | ok r => exact hV r h

/-- One after the other, the second from whatever the first ended with. -/
theorem bind {f : β → Except Overflow γ} (h : Ends F V x) (hf : ∀ r, V r → Ends F W (f r)) :
    Ends F W (x >>= f) := by
  cases x with
  | error => exact h
  | ok r => exact hf r h

/-- Turning the result into another refuses nothing. -/
theorem map {f : β → γ} (h : Ends F (fun r => W (f r)) x) : Ends F W (x.map f) := by
  cases x with
  | error => exact h
  | ok r => exact h

end Ends

namespace Scan

variable {α β γ σ : Type} {S : Source α} {F : Prop} {K : Cursor → Prop}

/-- What follows a scan is known to start where the scan ended. -/
theorem ends_bind {x : Scan α β} {f : β → Scan α γ} {c : Cursor} {V : Scanned α β → Prop}
    {W : Cursor → Prop} (hx : Ends F V (x.run S c))
    (hf : ∀ r, V r → Ends F (fun t => W t.cursor) ((f r.value).run S r.cursor)) :
    Ends F (fun t => W t.cursor) ((x >>= f).run S c) := by
  rw [run_bind]
  cases hr : x.run S c with
  | error => exact hx.of_eq_error hr
  | ok r =>
      have ht := hf r (hx.of_eq_ok hr)
      cases hs : (f r.value).run S r.cursor with
      | error =>
          simp only [hs]
          exact ht.of_eq_error hs
      | ok t =>
          have hW := ht.of_eq_ok hs
          simp only [hs]
          exact hW

/-- From a cursor with `K`, `x` ends with one, or is refused and `F` holds. -/
def Keeps (S : Source α) (F : Prop) (K : Cursor → Prop) (x : Scan α β) : Prop :=
  ∀ ⦃c⦄, K c → Ends F (fun r => K r.cursor) (x.run S c)

namespace Keeps

variable {x : Scan α β}

/-- A value by itself leaves the cursor alone. -/
theorem pure (b : β) : Keeps S F K (Pure.pure b) := fun _ hc => hc

/-- Looking leaves the cursor alone. -/
theorem look (f : Source α → Cursor → β) : Keeps S F K (Scan.look f) := fun _ hc => hc

/-- One scan after another keeps what both keep. -/
theorem bind {f : β → Scan α γ} (hx : Keeps S F K x) (hf : ∀ b, Keeps S F K (f b)) :
    Keeps S F K (x >>= f) := by
  intro c hc
  exact ends_bind (hx hc) fun r hr => hf r.value hr

/-- Turning the value into another leaves the cursor alone. -/
theorem map {f : β → γ} (hx : Keeps S F K x) : Keeps S F K (f <$> x) := by
  intro c hc
  rw [run_map]
  exact Ends.map (W := fun r : Scanned α γ => K r.cursor) (hx hc)

/-- A move keeps what it keeps of each cursor. -/
theorem move {f : Cursor → Cursor} (h : ∀ c, K c → K (f c)) : Keeps S F K (Scan.move f) :=
  fun c hc => h c hc

/-- A return keeps what the earlier cursor has. -/
theorem restore {k : Cursor} (h : K k) : Keeps S F K (Scan.restore k) := fun _ _ => h

/-- A body that is taken back leaves the cursor as it was. -/
theorem rewindIf {reject : β → Bool} (hx : Keeps S F K x) :
    Keeps S F K (Scan.rewindIf reject x) := by
  intro c hc
  rw [run_rewindIf]
  refine Ends.map ((hx hc).mono fun r hr => ?_)
  split
  · exact hc
  · exact hr

/-- A loop keeps what each of its rounds keeps, and its limit. -/
theorem loop {step : σ → Scan α (σ ⊕ β)} {limit : σ → Scan α β}
    (hstep : ∀ s, Keeps S F K (step s)) (hlimit : ∀ s, Keeps S F K (limit s)) (rounds : Nat)
    (s : σ) : Keeps S F K (Scan.loop step limit rounds s) := by
  induction rounds generalizing s with
  | zero =>
      rw [loop_zero]
      exact hlimit s
  | succ rounds ih =>
      rw [loop_succ]
      refine bind (hstep s) fun u => ?_
      cases u with
      | inl s' => exact ih s'
      | inr b => exact pure b

end Keeps

/-! ## reads -/

/-- A read that may be refused keeps what it keeps where it is not. -/
theorem keeps_of_read [Item α] (h : ∀ c x c', K c → c.read S = .ok (x, c') → K c') :
    Keeps S True K (read : Scan α (Option α)) := by
  intro c hc
  cases hr : (read : Scan α (Option α)).run S c with
  | error => trivial
  | ok r => exact h c r.value r.cursor hc (run_read_eq_ok_iff.1 hr).1

/-- Where there is always room for a read, it is never refused. -/
theorem keeps_of_exists_read [Item α] (h : ∀ c, K c → ∃ x c', c.read S = .ok (x, c') ∧ K c') :
    Keeps S False K (read : Scan α (Option α)) := by
  intro c hc
  obtain ⟨x, c', hread, hc'⟩ := h c hc
  have hrun : (read : Scan α (Option α)).run S c = .ok ⟨x, c', c'.readEvents x⟩ :=
    run_read_eq_ok_iff.2 ⟨hread, rfl⟩
  rw [hrun]
  exact hc'

section

variable [Item α] (hread : Keeps S F K (read : Scan α (Option α)))

include hread

/-- A read with a sentinel is a read. -/
theorem keeps_readOr {ε : Type} (into : α → ε) (eof : ε) : Keeps S F K (readOr into eof) :=
  .bind hread fun _ => .pure _

/-- Reads in a row keep what one read keeps. -/
theorem keeps_readTimes (n : Nat) : Keeps S F K (readTimes n : Scan α (List (Option α))) :=
  .loop (fun _ => .map hread) (fun _ => .pure _) n []

/-- Expecting keeps what a read keeps, whether the read stands or is taken back. -/
theorem keeps_expect [DecidableEq α] (wanted : α) : Keeps S F K (expect wanted) :=
  .bind (.look _) fun _ => .rewindIf (.bind hread fun _ => .pure _)

/-- An item that is read was there, and leads one position on. -/
theorem ends_readIf (judge : Judge σ α) (memory : σ) {c : Cursor} (hc : K c) :
    Ends F (fun r => K r.cursor ∧ (r.value.1 = none ∨
      (c.peek S).isSome ∧ r.cursor.position = Word.addSat c.position 1))
      ((readIf judge memory).run S c) := by
  cases hx : c.peek S with
  | none =>
      rw [run_readIf_absent hx]
      exact ⟨hc, .inl rfl⟩
  | some x =>
      cases hj : (judge memory x).1 with
      | false =>
          rw [run_readIf_refused hx hj]
          exact ⟨hc, .inl rfl⟩
      | true =>
          rw [run_readIf_accepted hx hj]
          cases hr : (read : Scan α (Option α)).run S c with
          | error => exact (hread hc).of_eq_error hr
          | ok r =>
              have hposition := (Cursor.read_eq_ok_iff.1 (run_read_eq_ok_iff.1 hr).1).2.1
              exact ⟨(hread hc).of_eq_ok hr, .inr ⟨rfl, hposition⟩⟩

/-- A judged read keeps what a read keeps. -/
theorem keeps_readIf (judge : Judge σ α) (memory : σ) : Keeps S F K (readIf judge memory) :=
  fun _ hc => (ends_readIf hread judge memory hc).mono fun _ hr => hr.1

/-- There is a round for every position that is left, and one more. -/
theorem ends_readWhileWithin (judge : Judge σ α) {rounds : Nat} {c : Cursor} (hc : K c)
    (hrounds : F ∨ S.get? Word.top = none ∧ Word.top.toNat < c.position.toNat + rounds)
    (memory : σ) :
    Ends F (fun r => K r.cursor) ((readWhileWithin judge rounds memory).run S c) := by
  -- Every round that goes on has moved the cursor, so position and rounds left
  -- together stay above the largest position.
  induction rounds generalizing c memory with
  | zero =>
      rw [readWhileWithin_zero]
      rcases hrounds with hF | ⟨-, hlt⟩
      · exact hF
      · have := Word.toNat_le_top c.position
        omega
  | succ rounds ih =>
      rw [readWhileWithin_succ]
      refine ends_bind (ends_readIf hread judge memory hc) ?_
      rintro ⟨⟨x, memory'⟩, d, es⟩ ⟨hK, hitem⟩
      cases x with
      | none => exact hK
      | some x =>
          obtain ⟨hitem, hposition⟩ := hitem.resolve_left (by simp)
          have hrest : F ∨ S.get? Word.top = none ∧
              Word.top.toNat < d.position.toNat + rounds := by
            refine hrounds.imp_right fun ⟨htop, hlt⟩ => ⟨htop, ?_⟩
            have hne : c.position ≠ Word.top := by
              intro h
              rw [Cursor.peek, h, htop] at hitem
              cases hitem
            have hd : d.position.toNat = c.position.toNat + 1 := by
              rw [hposition, Word.toNat_addSat_one hne]
            omega
          exact Ends.map (W := fun t : Scanned α (Nat × σ) => K t.cursor) (ih hK hrest memory')

/-- A run is refused only if it goes on at the largest position. -/
theorem keeps_readWhile (hlimit : F ∨ S.get? Word.top = none) (judge : Judge σ α) (memory : σ) :
    Keeps S F K (readWhile judge memory) := by
  intro c hc
  refine ends_readWhileWithin hread judge hc (hlimit.imp_right fun htop => ⟨htop, ?_⟩) memory
  omega

end

end Scan

end ScanCursor
