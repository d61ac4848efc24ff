import ScanCursor.Scan.Judged
import ScanCursor.Scan.Speculation

/-!
# ScanCursor.Proofs.Simulation

Two scans compared.  `Simulates S S' R V x y` says that whenever `x` ends well
over `S`, so does `y` over `S'` from a related cursor, with related values and
cursors; `R` relates cursors and `V` values.

There is one rule for every way of composing scans.  Where related cursors find
the same items and move together (`Abreast`), all the composed reads follow.
-/

namespace ScanCursor.Scan

variable {α β β' γ γ' σ : Type}

/-- Where `x` ends well, `y` ends well from related cursors, in a related way. -/
def Simulates (S S' : Source α) (R : Cursor → Cursor → Prop) (V : β → γ → Prop)
    (x : Scan α β) (y : Scan α γ) : Prop :=
  ∀ ⦃c d r⦄, R c d → x.run S c = .ok r →
    ∃ t, y.run S' d = .ok t ∧ V r.value t.value ∧ R r.cursor t.cursor

/-- Related cursors find the same item, and a read keeps them related. -/
structure Abreast [Item α] (S S' : Source α) (R : Cursor → Cursor → Prop) : Prop where
  peek : ∀ ⦃c d⦄, R c d → d.peek S' = c.peek S
  read : ∀ ⦃c d x c'⦄, R c d → c.read S = .ok (x, c') → ∃ d', d.read S' = .ok (x, d') ∧ R c' d'

namespace Simulates

variable {S S' : Source α} {R : Cursor → Cursor → Prop} {V : β → γ → Prop} {W : β' → γ' → Prop}
  {x : Scan α β} {y : Scan α γ}

theorem pure {b : β} {b' : γ} (h : V b b') :
    Simulates S S' R V (Pure.pure b) (Pure.pure b') := by
  intro c d r hR hr
  cases hr
  exact ⟨⟨b', d, []⟩, rfl, h, hR⟩

/-- Related scans, then scans that are related for every two related values. -/
theorem bind {f : β → Scan α β'} {g : γ → Scan α γ'} (hxy : Simulates S S' R V x y)
    (hfg : ∀ b b', V b b' → Simulates S S' R W (f b) (g b')) :
    Simulates S S' R W (x >>= f) (y >>= g) := by
  intro c d r hR hr
  obtain ⟨u, v, hu, hv, rfl⟩ := run_bind_eq_ok_iff.1 hr
  obtain ⟨u', hu', hV, hR'⟩ := hxy hR hu
  obtain ⟨v', hv', hW, hR''⟩ := hfg _ _ hV hR' hv
  exact ⟨_, run_bind_eq_ok_iff.2 ⟨u', v', hu', hv', rfl⟩, hW, hR''⟩

theorem map {f : β → β'} {g : γ → γ'}
    (hxy : Simulates S S' R (fun b b' => W (f b) (g b')) x y) :
    Simulates S S' R W (f <$> x) (g <$> y) := by
  intro c d r hR hr
  obtain ⟨u, hu, rfl⟩ := run_map_eq_ok_iff.1 hr
  obtain ⟨u', hu', hW, hR'⟩ := hxy hR hu
  exact ⟨_, run_map_eq_ok_iff.2 ⟨u', hu', rfl⟩, hW, hR'⟩

/-- A value may be changed on the left, if it is related after that. -/
theorem map_left {f : β → β'} {V : β' → γ → Prop}
    (hxy : Simulates S S' R (fun b b' => V (f b) b') x y) : Simulates S S' R V (f <$> x) y := by
  rw [← id_map y]
  exact hxy.map

/-- A value may be changed on the right, if it is related after that. -/
theorem map_right {g : γ → γ'} {V : β → γ' → Prop}
    (hxy : Simulates S S' R (fun b b' => V b (g b')) x y) : Simulates S S' R V x (g <$> y) := by
  rw [← id_map x]
  exact hxy.map

theorem mono {V' : β → γ → Prop} (hxy : Simulates S S' R V x y) (h : ∀ b b', V b b' → V' b b') :
    Simulates S S' R V' x y := by
  intro c d r hR hr
  obtain ⟨t, ht, hV, hR'⟩ := hxy hR hr
  exact ⟨t, ht, h _ _ hV, hR'⟩

theorem look {f : Source α → Cursor → β} {g : Source α → Cursor → γ}
    (h : ∀ c d, R c d → V (f S c) (g S' d)) : Simulates S S' R V (Scan.look f) (Scan.look g) := by
  intro c d r hR hr
  cases hr
  exact ⟨_, run_look g S' d, h c d hR, hR⟩

/-- What `x` looks at first need not be looked at by `y`. -/
theorem look_bind {f : Source α → Cursor → β'} {g : β' → Scan α β}
    (h : ∀ b, Simulates S S' R V (g b) y) : Simulates S S' R V (Scan.look f >>= g) y := by
  intro c d r hR hr
  obtain ⟨u, v, hu, hv, rfl⟩ := run_bind_eq_ok_iff.1 hr
  cases hu
  obtain ⟨t, ht, hV, hR'⟩ := h _ hR hv
  exact ⟨t, ht, hV, hR'⟩

theorem move {f g : Cursor → Cursor} (h : ∀ c d, R c d → R (f c) (g d)) :
    Simulates S S' R Eq (Scan.move f) (Scan.move g) := by
  intro c d r hR hr
  cases hr
  exact ⟨_, run_move g S' d, rfl, h c d hR⟩

theorem restore {k l : Cursor} (h : R k l) :
    Simulates S S' R Eq (Scan.restore k) (Scan.restore l) := by
  intro c d r hR hr
  cases hr
  exact ⟨_, run_restore l S' d, rfl, h⟩

/-- What is refused has nothing to answer for. -/
theorem overflow {o : Overflow} : Simulates S S' R V (Scan.overflow o) y := by
  intro c d r hR hr
  cases hr

/-- Bodies that are rejected together may be tried. -/
theorem rewindIf {reject : β → Bool} {reject' : γ → Bool} (hxy : Simulates S S' R V x y)
    (hreject : ∀ b b', V b b' → reject' b' = reject b) :
    Simulates S S' R V (Scan.rewindIf reject x) (Scan.rewindIf reject' y) := by
  intro c d r hR hr
  rw [run_rewindIf] at hr
  cases hx : x.run S c with
  | error => rw [hx] at hr; cases hr
  | ok u =>
      obtain ⟨u', hu', hV, hR'⟩ := hxy hR hx
      rw [hx] at hr
      cases hr
      rw [run_rewindIf, hu']
      have hj := hreject _ _ hV
      cases hu : reject u.value <;> rw [hu] at hj
      · exact ⟨u', by simp [Except.map, hj], by simpa [hu] using hV, by simpa [hu] using hR'⟩
      · exact ⟨⟨u'.value, d, u'.trace ++ u'.cursor.restoreEvents d⟩, by simp [Except.map, hj],
          by simpa [hu] using hV, by simpa [hu] using hR⟩

/-- Rounds that go on together make loops that end together. -/
theorem loop {step step' : σ → Scan α (σ ⊕ β)} {limit limit' : σ → Scan α β}
    (hstep : ∀ s, Simulates S S' R Eq (step s) (step' s))
    (hlimit : ∀ s, Simulates S S' R Eq (limit s) (limit' s)) (rounds : Nat) (s : σ) :
    Simulates S S' R Eq (Scan.loop step limit rounds s) (Scan.loop step' limit' rounds s) := by
  induction rounds generalizing s with
  | zero =>
      rw [loop_zero, loop_zero]
      exact hlimit s
  | succ rounds ih =>
      rw [loop_succ, loop_succ]
      refine bind (hstep s) fun u u' hu => ?_
      subst hu
      cases u with
      | inl s' => exact ih s'
      | inr b => exact pure rfl

end Simulates

/-! ## reads -/

section

variable [Item α] {S S' : Source α} {R : Cursor → Cursor → Prop}

theorem simulates_peek (h : Abreast S S' R) : Simulates S S' R Eq peek peek :=
  .look fun _ _ hR => (h.peek hR).symm

/-- Related cursors read the same item. -/
theorem simulates_read (h : Abreast S S' R) : Simulates S S' R Eq read read := by
  intro c d r hR hr
  obtain ⟨hread, -⟩ := run_read_eq_ok_iff.1 hr
  obtain ⟨d', hd, hR'⟩ := h.read hR hread
  exact ⟨⟨r.value, d', d'.readEvents r.value⟩, run_read_eq_ok_iff.2 ⟨hd, rfl⟩, rfl, hR'⟩

theorem simulates_peekOr {ε : Type} (h : Abreast S S' R) (into : α → ε) (eof : ε) :
    Simulates S S' R Eq (peekOr into eof) (peekOr into eof) :=
  .bind (simulates_peek h) fun x y hxy => .pure (by rw [hxy])

/-- Related cursors read the same, whatever stands for no item. -/
theorem simulates_readOr {ε : Type} (h : Abreast S S' R) (into : α → ε) (eof : ε) :
    Simulates S S' R Eq (readOr into eof) (readOr into eof) :=
  .bind (simulates_read h) fun x y hxy => .pure (by rw [hxy])

/-- Related cursors read the same items in a row. -/
theorem simulates_readTimes (h : Abreast S S' R) (n : Nat) :
    Simulates S S' R Eq (readTimes n) (readTimes n) := by
  refine .loop (fun xs => .map ?_) (fun xs => .pure rfl) n []
  exact (simulates_read h).mono fun x y hxy => by rw [hxy]

/-- The judge is shown the same items and comes to the same memory. -/
theorem simulates_readIf (h : Abreast S S' R) (judge : Judge σ α) (memory : σ) :
    Simulates S S' R Eq (readIf judge memory) (readIf judge memory) := by
  refine .bind (simulates_peek h) fun x y hxy => ?_
  subst hxy
  cases x with
  | none => exact .pure rfl
  | some x =>
      rcases hj : judge memory x with ⟨yes, memory'⟩
      simp only [hj]
      cases yes with
      | false => exact .pure rfl
      | true => exact .bind (simulates_read h) fun y z hyz => .pure (by rw [hyz])

/-- Related cursors show a judge the same items, and stop together. -/
theorem simulates_readWhile (h : Abreast S S' R) (judge : Judge σ α) (memory : σ) :
    Simulates S S' R Eq (readWhile judge memory) (readWhile judge memory) := by
  unfold readWhile readWhileWithin
  refine .loop (fun s => .map ?_) (fun s => .overflow) _ (0, memory)
  exact (simulates_readIf h judge s.2).mono fun x y hxy => by rw [hxy]

/-- A wanted item is found, or complained about, where the location is the same. -/
theorem simulates_expect_eq [DecidableEq α] (h : Abreast S S' R)
    (hlocation : ∀ ⦃c d⦄, R c d → d.location = c.location) (wanted : α) :
    Simulates S S' R Eq (expect wanted) (expect wanted) := by
  refine .bind (.look fun c d hcd => (hlocation hcd).symm) fun l l' hl => ?_
  subst hl
  refine .rewindIf (.bind (simulates_read h) fun x y hxy => ?_) fun r r' hr => by rw [hr]
  subst hxy
  exact .pure rfl

/-- The wanted item, expected or tried, is found on both sides or on neither. -/
theorem simulates_expect [DecidableEq α] (h : Abreast S S' R) (wanted : α) :
    Simulates S S' R (fun r found => r.toOption = found.filter (· = wanted)) (expect wanted)
      (rewindIf (fun found => found ≠ some wanted) read) := by
  rw [expect_eq]
  refine .look_bind fun l => ?_
  rw [bind_pure_comp]
  refine .map_left ?_
  refine ((simulates_read h).rewindIf fun x y hxy => by rw [hxy]).mono fun x y hxy => ?_
  subst hxy
  cases x with
  | none => simp [Except.toOption]
  | some x => by_cases hx : x = wanted <;> simp [Option.filter_some, hx, Except.toOption]

end

end ScanCursor.Scan
