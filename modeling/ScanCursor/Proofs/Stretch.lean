import ScanCursor.Source

/-!
# ScanCursor.Proofs.Stretch

What lies between two positions of a source of characters.

* `stretch s p` lists the positions from `s` up to and not including `p`;
* `feeds` are those that hold a line feed, and `rows` is how many they are;
* `columns` is how many hold an item after every line feed, and `latest` the last
  one that holds an item.

Each of them has one equation for a stretch that is one position longer.
-/

namespace ScanCursor

/-- The positions from `s` up to and not including `p`. -/
def stretch (s p : Word) : List Word :=
  (List.range' s.toNat (p.toNat - s.toNat)).map UInt64.ofNat

/-- A stretch goes from its start up to, and without, its end. -/
theorem mem_stretch {s p q : Word} : q ∈ stretch s p ↔ s ≤ q ∧ q < p := by
  have hp := p.toNat_lt
  have hq := q.toNat_lt
  rw [stretch, List.mem_map, UInt64.le_iff_toNat_le, UInt64.lt_iff_toNat_lt]
  constructor
  · rintro ⟨n, hn, rfl⟩
    rw [List.mem_range'_1] at hn
    rw [UInt64.toNat_ofNat']
    omega
  · rintro ⟨hsq, hqp⟩
    exact ⟨q.toNat, List.mem_range'_1.2 (by omega), UInt64.ofNat_toNat⟩

/-- Every position is listed once, in ascending order. -/
theorem pairwise_stretch (s p : Word) : (stretch s p).Pairwise (· < ·) := by
  have hp := p.toNat_lt
  rw [stretch, List.pairwise_map]
  refine (List.pairwise_lt_range' _).imp_of_mem fun {m n} hm hn hmn => ?_
  rw [List.mem_range'_1] at hm hn
  rw [UInt64.lt_iff_toNat_lt, UInt64.toNat_ofNat', UInt64.toNat_ofNat']
  omega

/-- There are as many positions in a stretch as lie between its ends. -/
theorem length_stretch (s p : Word) : (stretch s p).length = p.toNat - s.toNat := by
  rw [stretch, List.length_map, List.length_range']

theorem stretch_self (s : Word) : stretch s s = [] := by
  rw [← List.length_eq_zero_iff, length_stretch, Nat.sub_self]

/-- One position further, the stretch has that position more. -/
theorem stretch_succ {s p p' : Word} (h : s ≤ p) (hp : p'.toNat = p.toNat + 1) :
    stretch s p' = stretch s p ++ [p] := by
  rw [UInt64.le_iff_toNat_le] at h
  have hlength : p'.toNat - s.toNat = p.toNat - s.toNat + 1 := by omega
  have hlast : s.toNat + (p.toNat - s.toNat) = p.toNat := by omega
  rw [stretch, stretch, hlength, List.range'_1_concat, List.map_append, hlast, List.map_singleton,
    UInt64.ofNat_toNat]

namespace Source

variable (S : Source Char) (s p : Word)

/-- The positions of the stretch that hold a line feed. -/
def feeds : List Word := (stretch s p).filter fun q => S.get? q = some '\n'

/-- How many positions of the stretch hold a line feed. -/
def rows : Nat := (feeds S s p).length

/-- How many positions of the stretch hold an item and lie after every line feed
of the stretch. -/
def columns : Nat :=
  (stretch s p).countP fun q => (S.get? q).isSome && (feeds S s p).all (· < q)

/-- The last position of the stretch that holds an item. -/
def latest : Option Word := ((stretch s p).filter fun q => (S.get? q).isSome).getLast?

theorem latest_eq_some_iff {S : Source Char} {s p q : Word} :
    S.latest s p = some q ↔
      q ∈ stretch s p ∧ (S.get? q).isSome ∧ ∀ r ∈ stretch s p, (S.get? r).isSome → r ≤ q := by
  have hsorted := (pairwise_stretch s p).filter fun q => (S.get? q).isSome
  rw [latest, List.getLast?_eq_some_iff]
  constructor
  · rintro ⟨before, hlist⟩
    have hq : q ∈ (stretch s p).filter fun q => (S.get? q).isSome := by rw [hlist]; simp
    rw [List.mem_filter] at hq
    refine ⟨hq.1, hq.2, fun r hr hitem => ?_⟩
    have hr' : r ∈ before ++ [q] := by
      rw [← hlist]
      exact List.mem_filter.2 ⟨hr, hitem⟩
    rw [hlist, List.pairwise_append] at hsorted
    rcases List.mem_append.1 hr' with hr' | hr'
    · exact UInt64.le_of_lt (hsorted.2.2 r hr' q (List.mem_singleton_self q))
    · rw [List.mem_singleton.1 hr']
      exact UInt64.le_refl q
  · rintro ⟨hq, hitem, hlatest⟩
    have hmem : q ∈ (stretch s p).filter fun q => (S.get? q).isSome :=
      List.mem_filter.2 ⟨hq, hitem⟩
    -- The last item `z` of the stretch is no later than `q`, and no item comes after it.
    obtain ⟨before, z, hlist⟩ :=
      (List.eq_nil_or_concat _).resolve_left (List.ne_nil_of_mem hmem)
    rw [List.concat_eq_append] at hlist
    have hz : z ∈ (stretch s p).filter fun q => (S.get? q).isSome := by rw [hlist]; simp
    have hzq : z ≤ q := hlatest z (List.mem_filter.1 hz).1 (List.mem_filter.1 hz).2
    rw [hlist, List.pairwise_append] at hsorted
    rw [hlist] at hmem ⊢
    rcases List.mem_append.1 hmem with hbefore | hlast
    · have hqz := hsorted.2.2 q hbefore z (List.mem_singleton_self z)
      exact absurd hzq (UInt64.not_le.2 hqz)
    · exact ⟨before, by rw [List.mem_singleton.1 hlast]⟩

/-! ## before the first item -/

@[simp] theorem rows_self : S.rows s s = 0 := by rw [rows, feeds, stretch_self]; rfl

@[simp] theorem columns_self : S.columns s s = 0 := by rw [columns, stretch_self, List.countP_nil]

@[simp] theorem latest_self : S.latest s s = none := by rw [latest, stretch_self]; rfl

/-! ## one position further -/

variable {S s p} {p' : Word}

/-- A line feed is one more. -/
theorem feeds_succ_of_feed (h : s ≤ p) (hp : p'.toNat = p.toNat + 1) (hx : S.get? p = some '\n') :
    S.feeds s p' = S.feeds s p ++ [p] := by
  rw [feeds, stretch_succ h hp, List.filter_append, List.filter_cons_of_pos (by simpa using hx),
    List.filter_nil, feeds]

/-- No other item, nor none, is a line feed. -/
theorem feeds_succ (h : s ≤ p) (hp : p'.toNat = p.toNat + 1) (hx : S.get? p ≠ some '\n') :
    S.feeds s p' = S.feeds s p := by
  rw [feeds, stretch_succ h hp, List.filter_append, List.filter_cons_of_neg (by simpa using hx),
    List.filter_nil, List.append_nil, feeds]

/-- Past a line feed there is one row more. -/
theorem rows_succ_of_feed (h : s ≤ p) (hp : p'.toNat = p.toNat + 1) (hx : S.get? p = some '\n') :
    S.rows s p' = S.rows s p + 1 := by
  rw [rows, feeds_succ_of_feed h hp hx, List.length_append, rows, List.length_singleton]

theorem rows_succ (h : s ≤ p) (hp : p'.toNat = p.toNat + 1) (hx : S.get? p ≠ some '\n') :
    S.rows s p' = S.rows s p := by
  rw [rows, feeds_succ h hp hx, rows]

/-- Right after a line feed there is nothing after every line feed. -/
theorem columns_succ_of_feed (h : s ≤ p) (hp : p'.toNat = p.toNat + 1)
    (hx : S.get? p = some '\n') : S.columns s p' = 0 := by
  rw [columns, List.countP_eq_zero, feeds_succ_of_feed h hp hx]
  intro q hq hlast
  rw [Bool.and_eq_true, List.all_eq_true] at hlast
  have hpq : p < q := of_decide_eq_true (hlast.2 p (by simp))
  have hqp : q < p' := (mem_stretch.1 hq).2
  rw [UInt64.lt_iff_toNat_lt] at hpq hqp
  omega

/-- Past any other item there is one column more, and past none there is not. -/
theorem columns_succ (h : s ≤ p) (hp : p'.toNat = p.toNat + 1) (hx : S.get? p ≠ some '\n') :
    S.columns s p' = S.columns s p + if (S.get? p).isSome then 1 else 0 := by
  have hbefore : (S.feeds s p).all (· < p) := by
    rw [List.all_eq_true]
    intro r hr
    exact decide_eq_true (mem_stretch.1 (List.mem_filter.1 hr).1).2
  rw [columns, feeds_succ h hp hx, stretch_succ h hp, List.countP_append, List.countP_singleton,
    hbefore, Bool.and_true, columns]

/-- The latest item is the last one passed. -/
theorem latest_succ (h : s ≤ p) (hp : p'.toNat = p.toNat + 1) :
    S.latest s p' = if (S.get? p).isSome then some p else S.latest s p := by
  rw [latest, stretch_succ h hp, List.filter_append]
  by_cases hx : (S.get? p).isSome
  · rw [if_pos hx, List.filter_cons_of_pos (by simpa using hx), List.filter_nil,
      List.getLast?_concat]
  · rw [if_neg hx, List.filter_cons_of_neg (by simpa using hx), List.filter_nil, List.append_nil,
      latest]

/-! ## bounds -/

theorem rows_le (S : Source Char) (s p : Word) : S.rows s p ≤ p.toNat - s.toNat := by
  rw [← length_stretch]
  exact List.length_filter_le _ _

theorem columns_le (S : Source Char) (s p : Word) : S.columns s p ≤ p.toNat - s.toNat := by
  rw [← length_stretch]
  exact List.countP_le_length

/-! ## items -/

section

variable {α : Type}

/-- How many positions of the stretch hold an item. -/
def held (S : Source α) (s p : Word) : Nat := (stretch s p).countP fun q => (S.get? q).isSome

/-- Past an item one more is held. -/
theorem held_succ {S : Source α} (h : s ≤ p) (hp : p'.toNat = p.toNat + 1) :
    S.held s p' = S.held s p + (S.get? p).isSome.toNat := by
  rw [held, stretch_succ h hp, List.countP_append, List.countP_singleton, held]
  cases S.get? p <;> rfl

theorem held_le (S : Source α) (s p : Word) : S.held s p ≤ p.toNat - s.toNat := by
  rw [← length_stretch]
  exact List.countP_le_length

/-- Of numbers from `a` on no more pass than are below `n`, if only such numbers do. -/
theorem countP_range'_le {f : Nat → Bool} {n a m : Nat}
    (h : ∀ i ∈ List.range' a m, f i → i < n) : (List.range' a m).countP f ≤ n - a := by
  induction m generalizing a with
  | zero => simp
  | succ m ih =>
      rw [List.range'_succ] at h ⊢
      have hrest := ih fun i hi => h i (List.mem_cons_of_mem a hi)
      rw [List.countP_cons]
      split
      · next ha =>
        have hlt := h a List.mem_cons_self ha
        omega
      · omega

/-- Where all items are below `n` there are at most `n` of them. -/
theorem held_le_of_forall_lt {S : Source α} {n : Nat}
    (h : ∀ q, (S.get? q).isSome → q.toNat < n) (s p : Word) : S.held s p ≤ n := by
  have hp := p.toNat_lt
  have hbelow : ∀ i ∈ List.range' s.toNat (p.toNat - s.toNat),
      (S.get? (UInt64.ofNat i)).isSome → i < n := by
    intro i hi hitem
    rw [List.mem_range'_1] at hi
    have hword : (UInt64.ofNat i).toNat = i := by
      rw [UInt64.toNat_ofNat']
      omega
    rw [← hword]
    exact h _ hitem
  rw [held, stretch, List.countP_map]
  exact Nat.le_trans (countP_range'_le hbelow) (Nat.sub_le n s.toNat)

end

end Source

end ScanCursor
