/-!
# ScanCursor.Proofs.Aligned

Two arrays of one length whose entries are related one by one, and what is done
to both of them at once.
-/

namespace ScanCursor

variable {α β : Type}

/-- As many entries on both sides, related one by one. -/
structure Aligned (R : α → β → Prop) (xs : Array α) (ys : Array β) : Prop where
  size_eq : ys.size = xs.size
  rel : ∀ ⦃i : Nat⦄ ⦃c : α⦄ ⦃d : β⦄, xs[i]? = some c → ys[i]? = some d → R c d

namespace Aligned

variable {R : α → β → Prop} {xs : Array α} {ys : Array β} {c : α} {d : β} {i : Nat}

/-- Two empty arrays have no entries to relate. -/
theorem empty : Aligned R #[] #[] := ⟨rfl, by simp⟩

/-- Both sides end at the same place. -/
theorem getElem?_eq_none_iff (h : Aligned R xs ys) : ys[i]? = none ↔ xs[i]? = none := by
  rw [Array.getElem?_eq_none_iff, Array.getElem?_eq_none_iff, h.size_eq]

/-- Nothing stands alone on the left. -/
theorem exists_of_getElem? (h : Aligned R xs ys) (hc : xs[i]? = some c) :
    ∃ d, ys[i]? = some d ∧ R c d := by
  cases hd : ys[i]? with
  | none => rw [h.getElem?_eq_none_iff.1 hd] at hc; cases hc
  | some d => exact ⟨d, rfl, h.rel hc hd⟩

/-- Nothing stands alone on the right either. -/
theorem exists_of_mem (h : Aligned R xs ys) (hd : d ∈ ys) : ∃ c ∈ xs, R c d := by
  obtain ⟨i, hi, rfl⟩ := Array.mem_iff_getElem.1 hd
  have hi' : i < xs.size := by rw [← h.size_eq]; exact hi
  exact ⟨xs[i], Array.getElem_mem hi',
    h.rel (Array.getElem?_eq_getElem hi') (Array.getElem?_eq_getElem hi)⟩

/-- A relation may be weakened by what is known of the entries on the right. -/
theorem mono_of_mem {R' : α → β → Prop} (h : Aligned R xs ys)
    (hR : ∀ c d, d ∈ ys → R c d → R' c d) : Aligned R' xs ys where
  size_eq := h.size_eq
  rel _ c d hc hd := hR c d (Array.mem_of_getElem? hd) (h.rel hc hd)

/-- Entries are related, and so are the ones given for want of an entry. -/
theorem getD (h : Aligned R xs ys) (hcd : R c d) : R (xs.getD i c) (ys.getD i d) := by
  rw [Array.getD_eq_getD_getElem?, Array.getD_eq_getD_getElem?]
  cases hx : xs[i]? with
  | none => rw [h.getElem?_eq_none_iff.2 hx]; exact hcd
  | some k =>
      obtain ⟨l, hl, hkl⟩ := h.exists_of_getElem? hx
      rw [hl]
      exact hkl

/-- One more entry on both sides. -/
theorem push (h : Aligned R xs ys) (hcd : R c d) : Aligned R (xs.push c) (ys.push d) where
  size_eq := by simp [h.size_eq]
  rel j k l hk hl := by
    rw [Array.getElem?_push] at hk hl
    rw [h.size_eq] at hl
    split at hk
    · next hj =>
      rw [if_pos hj] at hl
      cases hk
      cases hl
      exact hcd
    · next hj =>
      rw [if_neg hj] at hl
      exact h.rel hk hl

/-- Another entry in the same place on both sides, or in none. -/
theorem setIfInBounds (h : Aligned R xs ys) (hcd : R c d) :
    Aligned R (xs.setIfInBounds i c) (ys.setIfInBounds i d) where
  size_eq := by simp [h.size_eq]
  rel j k l hk hl := by
    rw [Array.getElem?_setIfInBounds] at hk hl
    rw [h.size_eq] at hl
    by_cases hij : i = j
    · by_cases hi : i < xs.size
      · rw [if_pos hij, if_pos hi] at hk hl
        cases hk
        cases hl
        exact hcd
      · rw [if_pos hij, if_neg hi] at hk
        cases hk
    · rw [if_neg hij] at hk hl
      exact h.rel hk hl

end Aligned

end ScanCursor
