/-!
# ScanCursor.Word

Positions, lengths, rows and columns are 64-bit words.  Two kinds of
arithmetic are done on them:

* *saturating* — a sum that does not fit is held at the largest word, a
  difference below zero at `0` (`addSat`, `subSat`);
* *checked* — a result that does not fit is refused with the `Overflow` that
  names the operation (`succ`).

Every operation has one law that carries it to `Nat`
(`toNat_addSat`, `toNat_subSat`, `toNat_succ`), after which `omega` decides the rest.
-/

namespace ScanCursor

/-- A 64-bit unsigned number. -/
abbrev Word := UInt64

/-- A checked operation whose exact result does not fit into its word. -/
inductive Overflow where
  | add
  | subtract
  deriving DecidableEq

/-- The wording of the refusal. -/
def Overflow.message : Overflow → String
  | .add => "attempt to add with overflow"
  | .subtract => "attempt to subtract with overflow"

/-- What follows a checked operation is reached only past the operation. -/
theorem bind_eq_ok_iff {β γ : Type} {x : Except Overflow β} {f : β → Except Overflow γ} {c : γ} :
    (x >>= f) = .ok c ↔ ∃ b, x = .ok b ∧ f b = .ok c := by
  cases x <;> simp [bind, Except.bind]

/-- What follows a checked operation is refused with it, or in its own right. -/
theorem bind_eq_error_iff {β γ : Type} {x : Except Overflow β} {f : β → Except Overflow γ}
    {o : Overflow} : (x >>= f) = .error o ↔ x = .error o ∨ ∃ b, x = .ok b ∧ f b = .error o := by
  cases x <;> simp [bind, Except.bind]

/-- What is made of a result is there exactly if the result is. -/
theorem map_eq_ok_iff {β γ : Type} {x : Except Overflow β} {f : β → γ} {c : γ} :
    x.map f = .ok c ↔ ∃ b, x = .ok b ∧ f b = c := by
  cases x <;> simp [Except.map]

/-- What is made of a result is refused exactly if the result is. -/
theorem map_eq_error_iff {β γ : Type} {x : Except Overflow β} {f : β → γ} {o : Overflow} :
    x.map f = .error o ↔ x = .error o := by
  cases x <;> simp [Except.map]

/-- A result that is there was not refused. -/
theorem eq_ok_of_toOption {β : Type} {x : Except Overflow β} {b : β} (h : x.toOption = some b) :
    x = .ok b := by
  cases x with
  | error => cases h
  | ok c => rw [Option.some.inj h]

namespace Word

/-- The largest word. -/
def top : Word := 18446744073709551615

/-- The largest word as a number, for `omega`. -/
theorem toNat_top : top.toNat = 18446744073709551615 := rfl

/-- No word is larger than `top`. -/
theorem toNat_le_top (w : Word) : w.toNat ≤ top.toNat := by
  have := w.toNat_lt
  rw [toNat_top]
  omega

/-- The smaller of two words is the smaller of their numbers. -/
theorem toNat_min (a b : Word) : (min a b).toNat = min a.toNat b.toNat := by
  change (if a ≤ b then a else b).toNat = _
  split
  · next h => rw [Nat.min_eq_left (UInt64.le_iff_toNat_le.1 h)]
  · next h => rw [Nat.min_eq_right (Nat.le_of_not_le fun hle => h (UInt64.le_iff_toNat_le.2 hle))]

/-- The larger of two words is the larger of their numbers. -/
theorem toNat_max (a b : Word) : (max a b).toNat = max a.toNat b.toNat := by
  change (if a ≤ b then b else a).toNat = _
  split
  · next h => rw [Nat.max_eq_right (UInt64.le_iff_toNat_le.1 h)]
  · next h => rw [Nat.max_eq_left (Nat.le_of_not_le fun hle => h (UInt64.le_iff_toNat_le.2 hle))]

/-! ## saturating arithmetic -/

/-- The word nearest to a natural number. -/
def ofNatSat (n : Nat) : Word :=
  if n ≤ top.toNat then UInt64.ofNat n else top

/-- The sum, held at `top` when it does not fit. -/
def addSat (a b : Word) : Word :=
  if b ≤ top - a then a + b else top

/-- The difference, held at `0` when it is negative. -/
def subSat (a b : Word) : Word :=
  if b ≤ a then a - b else 0

/-- A number is held at the largest word, and otherwise kept. -/
@[simp] theorem toNat_ofNatSat (n : Nat) : (ofNatSat n).toNat = min n 18446744073709551615 := by
  unfold ofNatSat
  have h := toNat_top
  split
  · rw [UInt64.toNat_ofNat']
    omega
  · omega

/-- The number of a word always fits. -/
theorem ofNatSat_toNat (w : Word) : ofNatSat w.toNat = w := by
  apply UInt64.toNat.inj
  have := w.toNat_lt
  rw [toNat_ofNatSat]
  omega

/-- A saturating sum in numbers. -/
@[simp] theorem toNat_addSat (a b : Word) :
    (addSat a b).toNat = min (a.toNat + b.toNat) 18446744073709551615 := by
  have ha := a.toNat_lt
  have hb := b.toNat_lt
  have ht := toNat_top
  have hsub : (top - a).toNat = top.toNat - a.toNat :=
    UInt64.toNat_sub_of_le _ _ (UInt64.le_iff_toNat_le.2 (toNat_le_top a))
  unfold addSat
  split
  · next h =>
    rw [UInt64.le_iff_toNat_le, hsub] at h
    rw [UInt64.toNat_add]
    omega
  · next h =>
    rw [UInt64.le_iff_toNat_le, hsub] at h
    omega

/-- A saturating difference in numbers, where differences are truncated as well. -/
@[simp] theorem toNat_subSat (a b : Word) : (subSat a b).toNat = a.toNat - b.toNat := by
  unfold subSat
  split
  · next h => exact UInt64.toNat_sub_of_le _ _ h
  · next h =>
    rw [UInt64.le_iff_toNat_le] at h
    simp only [UInt64.toNat_zero]
    omega

@[simp] theorem addSat_zero (a : Word) : addSat a 0 = a := by
  apply UInt64.toNat.inj
  have := a.toNat_lt
  simp
  omega

/-- A saturating sum is never below its first part. -/
theorem le_addSat (a b : Word) : a ≤ addSat a b := by
  have := a.toNat_lt
  rw [UInt64.le_iff_toNat_le, toNat_addSat]
  omega

/-- Below the largest word one more is one more. -/
theorem toNat_addSat_one {a : Word} (h : a ≠ top) : (addSat a 1).toNat = a.toNat + 1 := by
  have hne : a.toNat ≠ top.toNat := fun h' => h (UInt64.toNat.inj h')
  have hlt := a.toNat_lt
  rw [toNat_top] at hne
  rw [toNat_addSat, UInt64.toNat_one]
  omega

/-- Two words may be added in either order, whichever of the sums is held. -/
theorem addSat_right_comm (a b c : Word) : addSat (addSat a b) c = addSat (addSat a c) b := by
  apply UInt64.toNat.inj
  simp only [toNat_addSat]
  omega

/-- What is held at the largest word stays there. -/
theorem addSat_top (b : Word) : addSat top b = top := by
  apply UInt64.toNat.inj
  rw [toNat_addSat, toNat_top]
  omega

/-! ## checked arithmetic -/

/-- The next word; `top` has none. -/
def succ (a : Word) : Except Overflow Word :=
  if a = top then .error .add else .ok (a + 1)

/-- The next word, where there is one, is one more. -/
theorem succ_eq_ok_iff {a b : Word} : succ a = .ok b ↔ b.toNat = a.toNat + 1 := by
  have ha := a.toNat_lt
  have hb := b.toNat_lt
  have ht := toNat_top
  unfold succ
  split
  · next h =>
    subst h
    simp
    omega
  · next h =>
    have hne : a.toNat ≠ top.toNat := fun e => h (UInt64.toNat.inj e)
    have hadd : (a + 1).toNat = a.toNat + 1 := by
      rw [UInt64.toNat_add]
      simp
      omega
    constructor
    · intro e
      rw [← Except.ok.inj e, hadd]
    · intro e
      rw [UInt64.toNat.inj (hadd.trans e.symm)]

/-- Below the largest word there is a next one. -/
theorem exists_succ {a : Word} (h : a.toNat < top.toNat) : ∃ b, succ a = .ok b := by
  rw [toNat_top] at h
  have hlt : a.toNat + 1 < 18446744073709551616 := by omega
  exact ⟨UInt64.ofNat (a.toNat + 1), succ_eq_ok_iff.2 (UInt64.toNat_ofNat_of_lt' hlt)⟩

/-- Only the largest word has no next one. -/
theorem succ_eq_error_iff {a : Word} {o : Overflow} : succ a = .error o ↔ a = top ∧ o = .add := by
  unfold succ
  split <;> simp_all [eq_comm]

end Word

end ScanCursor
