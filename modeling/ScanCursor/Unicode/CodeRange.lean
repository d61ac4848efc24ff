/-!
# ScanCursor.Unicode.CodeRange

A property of characters is a table of code points: closed ranges, written in
ascending order.  A code point is in the table if it lies in one of the ranges.

Membership is decided by `covers`, which stops at the first range that reaches
the code point, so a small code point is found early.  That it may stop there
rests on the order of the ranges (`covers_iff`), which every table comes with.
-/

namespace ScanCursor.Unicode

/-- The code points from the first up to and including the second. -/
abbrev CodeRange := Nat × Nat

/-- No range is reversed, and each ends before the next one begins. -/
def Ascending : List CodeRange → Prop
  | [] => True
  | [r] => r.1 ≤ r.2
  | r :: s :: rs => r.1 ≤ r.2 ∧ r.2 < s.1 ∧ Ascending (s :: rs)

instance : DecidablePred Ascending := go
where
  go : (rs : List CodeRange) → Decidable (Ascending rs)
    | [] => .isTrue trivial
    | [r] => inferInstanceAs (Decidable (r.1 ≤ r.2))
    | r :: s :: rs =>
      haveI := go (s :: rs)
      inferInstanceAs (Decidable (r.1 ≤ r.2 ∧ r.2 < s.1 ∧ Ascending (s :: rs)))

/-- Whether a code point lies in one of the ranges, which ascend. -/
def covers : List CodeRange → Nat → Bool
  | [], _ => false
  | r :: rs, n => if n ≤ r.2 then r.1 ≤ n else covers rs n

/-- What is left of an ascending list without its first range. -/
theorem Ascending.tail {r : CodeRange} {rs : List CodeRange} (h : Ascending (r :: rs)) :
    Ascending rs := by
  cases rs with
  | nil => trivial
  | cons s rs => exact h.2.2

/-- In an ascending list the first range ends before all others begin. -/
theorem Ascending.lt_of_mem {r s : CodeRange} {rs : List CodeRange} (h : Ascending (r :: rs))
    (hs : s ∈ rs) : r.2 < s.1 := by
  induction rs generalizing r with
  | nil => cases hs
  | cons q rs ih =>
    cases hs with
    | head => exact h.2.1
    | tail _ hs =>
      have hq : q.1 ≤ q.2 := by
        cases rs with
        | nil => exact h.2.2
        | cons => exact h.2.2.1
      exact Nat.lt_trans (Nat.lt_of_lt_of_le h.2.1 hq) (ih h.2.2 hs)

/-- In an ascending list the search misses no range: none of those behind the first one
that reaches the code point begins early enough to hold it. -/
theorem covers_iff {rs : List CodeRange} (h : Ascending rs) {n : Nat} :
    covers rs n ↔ ∃ r ∈ rs, r.1 ≤ n ∧ n ≤ r.2 := by
  induction rs with
  | nil => simp [covers]
  | cons r rs ih =>
    unfold covers
    split
    · next hle =>
      constructor
      · intro hc
        exact ⟨r, List.mem_cons_self, by simpa using hc, hle⟩
      · rintro ⟨s, hs, h1, h2⟩
        cases hs with
        | head => simpa using h1
        | tail _ hs =>
          have := h.lt_of_mem hs
          omega
    · next hgt =>
      rw [ih h.tail]
      constructor
      · rintro ⟨s, hs, hn⟩
        exact ⟨s, List.mem_cons_of_mem _ hs, hn⟩
      · rintro ⟨s, hs, hn⟩
        cases hs with
        | head => exact absurd hn.2 hgt
        | tail _ hs => exact ⟨s, hs, hn⟩

/-- A set of code points, as ranges in ascending order. -/
structure CodeTable where
  ranges : List CodeRange
  ascending : Ascending ranges := by decide +kernel

namespace CodeTable

instance : Membership Nat CodeTable where
  mem t n := ∃ r ∈ t.ranges, r.1 ≤ n ∧ n ≤ r.2

instance (t : CodeTable) : DecidablePred (· ∈ t) := fun _ =>
  decidable_of_iff _ (covers_iff t.ascending)

/-- How many code points the table holds. -/
def size (t : CodeTable) : Nat :=
  t.ranges.foldl (fun n r => n + (r.2 + 1 - r.1)) 0

end CodeTable

end ScanCursor.Unicode
