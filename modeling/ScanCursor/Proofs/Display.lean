import ScanCursor.Diagnostic

/-!
# ScanCursor.Proofs.Display

What is displayed can be read back.

A number can be read off its digits (`toDigits_inj`).  There is no colon among them, so a
location ends where the second colon begins (`Location.display_append_inj`), and whatever
the text of a diagnostic holds, both can be told from what is displayed
(`Diagnostic.display_inj`).
-/

namespace ScanCursor

/-! ## marks and digits -/

/-- Two lists that are cut at the first of some mark have the same parts. -/
theorem eq_and_eq_of_append_mark {α : Type} {m : α} {xs ys rs ss : List α} (hx : m ∉ xs)
    (hy : m ∉ ys) (h : xs ++ m :: rs = ys ++ m :: ss) : xs = ys ∧ rs = ss := by
  induction xs generalizing ys with
  | nil =>
      cases ys with
      | nil => exact ⟨rfl, (List.cons.inj h).2⟩
      | cons y ys => exact absurd (List.cons.inj h).1 fun e => hy (e ▸ List.mem_cons_self)
  | cons x xs ih =>
      cases ys with
      | nil => exact absurd (List.cons.inj h).1.symm fun e => hx (e ▸ List.mem_cons_self)
      | cons y ys =>
          obtain ⟨rfl, htail⟩ := List.cons.inj h
          obtain ⟨rfl, hrest⟩ := ih (fun hm => hx (List.mem_cons_of_mem _ hm))
            (fun hm => hy (List.mem_cons_of_mem _ hm)) htail
          exact ⟨rfl, hrest⟩

/-- Digits up to base 16 are letters or numerals. -/
theorem isAlphanum_digitChar : ∀ d < 16, (Nat.digitChar d).isAlphanum := by decide

/-- No two digits up to base 16 are written alike. -/
theorem digitChar_inj : ∀ d < 16, ∀ e < 16, Nat.digitChar d = Nat.digitChar e → d = e := by
  decide

section

variable {b : Nat} (hb : 1 < b) (hb' : b ≤ 16)

include hb hb'

/-- Numbers are written with digits and letters only. -/
theorem isAlphanum_of_mem_toDigits {n : Nat} {c : Char} (h : c ∈ Nat.toDigits b n) :
    c.isAlphanum := by
  induction n using Nat.base_induction b hb with
  | single m hm =>
      rw [Nat.toDigits_of_lt_base hm, List.mem_singleton] at h
      rw [h]
      exact isAlphanum_digitChar m (by omega)
  | digit m k hk hm ih =>
      rw [← Nat.toDigits_append_toDigits hb hm hk, List.mem_append,
        Nat.toDigits_of_lt_base hk, List.mem_singleton] at h
      rcases h with h | h
      · exact ih h
      · rw [h]
        exact isAlphanum_digitChar k (by omega)

/-- A mark that is neither digit nor letter stands in no number. -/
theorem notMem_toDigits {c : Char} (hc : ¬ c.isAlphanum) (n : Nat) : c ∉ Nat.toDigits b n :=
  fun hmem => hc (isAlphanum_of_mem_toDigits hb hb' hmem)

/-- A number can be read off its digits. -/
theorem toDigits_inj {m n : Nat} (h : Nat.toDigits b m = Nat.toDigits b n) : m = n := by
  induction m using Nat.strongRecOn generalizing n with
  | ind m ih =>
      -- what is below the base has one digit, and what is not has a digit before the last one
      rcases Nat.lt_or_ge m b with hm | hm <;> rcases Nat.lt_or_ge n b with hn | hn
      · rw [Nat.toDigits_of_lt_base hm, Nat.toDigits_of_lt_base hn] at h
        exact digitChar_inj m (by omega) n (by omega) (List.singleton_inj.1 h)
      · rw [Nat.toDigits_of_lt_base hm, Nat.toDigits_of_base_le hb hn] at h
        exact absurd (congrArg List.length h) (by simp [Nat.toDigits_ne_nil])
      · rw [Nat.toDigits_of_base_le hb hm, Nat.toDigits_of_lt_base hn] at h
        exact absurd (congrArg List.length h) (by simp [Nat.toDigits_ne_nil])
      · rw [Nat.toDigits_of_base_le hb hm, Nat.toDigits_of_base_le hb hn] at h
        obtain ⟨hinit, hlast⟩ := List.append_inj' h rfl
        have hm' : m % b < b := Nat.mod_lt m (by omega)
        have hn' : n % b < b := Nat.mod_lt n (by omega)
        have hquotient : m / b = n / b := ih (m / b) (Nat.div_lt_self (by omega) hb) hinit
        have hremainder : m % b = n % b :=
          digitChar_inj (m % b) (by omega) (n % b) (by omega) (List.singleton_inj.1 hlast)
        calc m = b * (m / b) + m % b := (Nat.div_add_mod m b).symm
          _ = b * (n / b) + n % b := by rw [hquotient, hremainder]
          _ = n := Nat.div_add_mod n b

end

/-! ## locations -/

namespace Location

/-- The display of a location, cut at its mark. -/
theorem toList_display (l : Location) :
    l.display.toList = Nat.toDigits 10 l.row.toNat ++ ':' :: Nat.toDigits 10 l.column.toNat := by
  simp [display]

/-- The mark of a location is not a numeral. -/
theorem colon_notMem_toDigits (n : Nat) : ':' ∉ Nat.toDigits 10 n :=
  notMem_toDigits (by decide) (by decide) (by decide) n

/-- A location can be read off a text that goes on with a colon after it. -/
theorem display_append_inj {l l' : Location} {rs rs' : List Char}
    (h : l.display.toList ++ ':' :: rs = l'.display.toList ++ ':' :: rs') : l = l' ∧ rs = rs' := by
  rw [toList_display, toList_display, List.append_assoc, List.append_assoc, List.cons_append,
    List.cons_append] at h
  obtain ⟨hrow, hafter⟩ :=
    eq_and_eq_of_append_mark (colon_notMem_toDigits _) (colon_notMem_toDigits _) h
  obtain ⟨hcolumn, hrest⟩ :=
    eq_and_eq_of_append_mark (colon_notMem_toDigits _) (colon_notMem_toDigits _) hafter
  have hrow' : l.row = l'.row :=
    UInt64.toNat.inj (toDigits_inj (by decide) (by decide) hrow)
  have hcolumn' : l.column = l'.column :=
    UInt64.toNat.inj (toDigits_inj (by decide) (by decide) hcolumn)
  cases l
  cases l'
  cases hrow'
  cases hcolumn'
  exact ⟨rfl, hrest⟩

end Location

/-! ## diagnostics -/

namespace Diagnostic

/-- The display of a diagnostic, cut at its first mark. -/
theorem toList_display (d : Diagnostic) :
    d.display.toList = d.location.display.toList ++ ([':', ' '] ++ d.text.toList) := by
  simp [display]

/-- The location and the text can be read off what is displayed. -/
theorem display_inj {x y : Diagnostic} (h : x.display = y.display) :
    x.location = y.location ∧ x.text = y.text := by
  have hlist := congrArg String.toList h
  rw [toList_display, toList_display] at hlist
  obtain ⟨hlocation, htext⟩ := Location.display_append_inj hlist
  exact ⟨hlocation, String.toList_inj.1 (List.cons.inj htext).2⟩

end Diagnostic

end ScanCursor
