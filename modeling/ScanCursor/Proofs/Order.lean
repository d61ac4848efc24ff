import ScanCursor.Proofs.Lines
import ScanCursor.Proofs.Place

/-!
# ScanCursor.Proofs.Order

The order of locations is the order of positions.

Where items fill exactly the positions below the size, the location that is counted for
a position grows with the position, and stays what it is past the end
(`Source.rank_lt_iff`).  Two cursors that have come from one fresh cursor by scanning,
each by its own way, are where the counts say, so their locations compare as their
positions do, each taken no further than the end (`Session.compare_location`).
-/

namespace ScanCursor

/-- Along the positions from `p` on, one after the other. -/
theorem Word.le_induction {motive : Word → Prop} {p : Word} (base : motive p)
    (step : ∀ r r', p ≤ r → r'.toNat = r.toNat + 1 → motive r → motive r') {q : Word}
    (h : p ≤ q) : motive q := by
  rw [UInt64.le_iff_toNat_le] at h
  obtain ⟨n, hn⟩ := Nat.exists_eq_add_of_le h
  induction n generalizing q with
  | zero => rwa [UInt64.toNat.inj hn]
  | succ n ih =>
      have hq := q.toNat_lt
      have hr : (UInt64.ofNat (p.toNat + n)).toNat = p.toNat + n := by
        rw [UInt64.toNat_ofNat']
        omega
      have hpr : p ≤ UInt64.ofNat (p.toNat + n) := by
        rw [UInt64.le_iff_toNat_le]
        omega
      exact step _ q hpr (by omega) (ih (UInt64.le_iff_toNat_le.1 hpr) hr)

/-! ## ranks of positions -/

/-- Numbers in the same order compare alike. -/
theorem compareOfLessAndEq_congr {α β : Type} [LT α] [DecidableLT α] [DecidableEq α] [LT β]
    [DecidableLT β] [DecidableEq β] {a b : α} {x y : β} (hlt : a < b ↔ x < y)
    (heq : a = b ↔ x = y) : compareOfLessAndEq a b = compareOfLessAndEq x y := by
  simp only [compareOfLessAndEq, hlt, heq]

namespace Source

/-- The rank of the location that is counted from `s` to `p`. -/
def rank (S : Source Char) (s p : Word) : Nat :=
  S.rows s p * 18446744073709551616 + S.columns s p

variable {S : Source Char} {s p p' q : Word}

/-- The rank grows past an item. -/
theorem rank_succ_of_item (h : s ≤ p) (hp : p'.toNat = p.toNat + 1) (hx : (S.get? p).isSome) :
    S.rank s p < S.rank s p' := by
  have hcolumns := S.columns_le s p
  have hlt := p.toNat_lt
  unfold rank
  by_cases hfeed : S.get? p = some '\n'
  · rw [rows_succ_of_feed h hp hfeed, columns_succ_of_feed h hp hfeed]
    omega
  · rw [rows_succ h hp hfeed, columns_succ h hp hfeed, if_pos hx]
    omega

/-- The rank stays where there is no item. -/
theorem rank_succ (h : s ≤ p) (hp : p'.toNat = p.toNat + 1) (hx : S.get? p = none) :
    S.rank s p' = S.rank s p := by
  have hne : S.get? p ≠ some '\n' := by simp [hx]
  rw [rank, rank, rows_succ h hp hne, columns_succ h hp hne, hx]
  rfl

/-- The rank never falls. -/
theorem rank_le (h : s ≤ p) (hpq : p ≤ q) : S.rank s p ≤ S.rank s q := by
  refine Word.le_induction (motive := fun r => S.rank s p ≤ S.rank s r) (Nat.le_refl _)
    (fun r r' hpr hr ih => ?_) hpq
  have hsr := UInt64.le_trans h hpr
  cases hx : S.get? r with
  | none => rwa [rank_succ hsr hr hx]
  | some x => exact Nat.le_trans ih (Nat.le_of_lt (rank_succ_of_item hsr hr (by rw [hx]; rfl)))

section

variable (hS : ∀ p, (S.get? p).isSome ↔ p < S.size)

include hS

/-- Past a position before the end the rank has grown. -/
theorem rank_lt (h : s ≤ p) (hpq : p < q) (hp : p < S.size) : S.rank s p < S.rank s q := by
  have hq := q.toNat_lt
  rw [UInt64.lt_iff_toNat_lt] at hpq
  obtain ⟨p', hp'⟩ : ∃ p' : Word, p'.toNat = p.toNat + 1 :=
    ⟨UInt64.ofNat (p.toNat + 1), by rw [UInt64.toNat_ofNat']; omega⟩
  have hsp' : s ≤ p' := by
    rw [UInt64.le_iff_toNat_le] at h ⊢
    omega
  have hp'q : p' ≤ q := by
    rw [UInt64.le_iff_toNat_le]
    omega
  calc
    S.rank s p < S.rank s p' := rank_succ_of_item h hp' ((hS p).2 hp)
    _ ≤ S.rank s q := rank_le hsp' hp'q

/-- Past the end the rank stays. -/
theorem rank_eq (h : s ≤ p) (hpq : p ≤ q) (hp : S.size ≤ p) : S.rank s q = S.rank s p := by
  refine Word.le_induction (motive := fun r => S.rank s r = S.rank s p) rfl
    (fun r r' hpr hr ih => ?_) hpq
  have hend : ¬ r < S.size := UInt64.not_lt.2 (UInt64.le_trans hp hpr)
  have hx : S.get? r = none := by
    rw [← Option.not_isSome_iff_eq_none, hS]
    exact hend
  rw [rank_succ (UInt64.le_trans h hpr) hr hx, ih]

/-- Ranks are in the order of the positions, taken no further than the end. -/
theorem rank_lt_iff (hp : s ≤ p) (hq : s ≤ q) :
    S.rank s p < S.rank s q ↔ min p S.size < min q S.size := by
  rw [UInt64.lt_iff_toNat_lt, Word.toNat_min, Word.toNat_min]
  constructor
  · intro hlt
    have hpq : p.toNat < q.toNat := Nat.lt_of_not_le fun hle => by
      have hrank := rank_le (S := S) hq (UInt64.le_iff_toNat_le.2 hle)
      omega
    have hend : p.toNat < S.size.toNat := Nat.lt_of_not_le fun hle => by
      have hle' : p ≤ q := UInt64.le_iff_toNat_le.2 (Nat.le_of_lt hpq)
      have hrank := rank_eq hS hp hle' (UInt64.le_iff_toNat_le.2 hle)
      omega
    omega
  · intro hlt
    exact rank_lt hS hp (UInt64.lt_iff_toNat_lt.2 (by omega)) (UInt64.lt_iff_toNat_lt.2 (by omega))

/-- Equal ranks are those of equal positions, taken no further than the end. -/
theorem rank_inj (hp : s ≤ p) (hq : s ≤ q) :
    S.rank s p = S.rank s q ↔ min p S.size = min q S.size := by
  have hpq := rank_lt_iff hS hp hq
  have hqp := rank_lt_iff hS hq hp
  rw [UInt64.lt_iff_toNat_lt] at hpq hqp
  rw [← UInt64.toNat_inj]
  omega

end

end Source

/-! ## locations -/

/-- A location that counts the items up to a position has that position's rank. -/
theorem Location.Counts.rank_eq {S : Source Char} {s p : Word} {l : Location}
    (h : l.Counts S s p) : l.rank = S.rank s p := by
  rw [Location.rank, Source.rank, h.row, h.column]

namespace Cursor.Located

variable {S : Source Char} {s : Word} {c d : Cursor}

/-- A located cursor's location has the rank of its position. -/
theorem rank_eq (hc : c.Located S s) : c.location.rank = S.rank s c.position := by
  obtain ⟨-, k, hk, hcounts⟩ := hc
  rw [location, hk]
  exact hcounts.next.rank_eq

variable (hS : ∀ p, (S.get? p).isSome ↔ p < S.size)

include hS

/-- Located cursors share a location just where their positions are equal, taken no further
than the end. -/
theorem location_inj (hc : c.Located S s) (hd : d.Located S s) :
    c.location = d.location ↔ min c.position S.size = min d.position S.size := by
  rw [← Location.rank_inj, hc.rank_eq, hd.rank_eq, Source.rank_inj hS hc.start_le hd.start_le]

/-- Located cursors compare as their positions do, up to the end. -/
theorem compare_eq (hc : c.Located S s) (hd : d.Located S s) :
    compare c.location d.location = compare (min c.position S.size) (min d.position S.size) := by
  apply compareOfLessAndEq_congr
  · rw [Location.lt_iff_rank_lt, hc.rank_eq, hd.rank_eq,
      Source.rank_lt_iff hS hc.start_le hd.start_le]
  · exact hc.location_inj hS hd

/-- Up to the end no two positions have one location. -/
theorem position_eq (hc : c.Located S s) (hd : d.Located S s) (hcs : c.position ≤ S.size)
    (hds : d.position ≤ S.size) (h : c.location = d.location) : c.position = d.position := by
  rw [hc.location_inj hS hd, ← UInt64.toNat_inj, Word.toNat_min, Word.toNat_min] at h
  rw [UInt64.le_iff_toNat_le] at hcs hds
  apply UInt64.toNat.inj
  omega

end Cursor.Located

/-! ## one scan forward -/

/-- The reply of a read that found an item. -/
def Reply.isPresent {α ε : Type} : Reply α ε → Bool
  | .item x => x.isSome
  | _ => false

namespace Session

section

variable {α ε : Type}

/-- So many reads in a row, each a step of its own. -/
def forward : Nat → Session α ε
  | 0 => done
  | n + 1 => act 0 .read fun _ => forward n

theorem only_forward {A : Action α ε → Prop} (hread : A .read) (n : Nat) :
    (forward n).Only A := by
  induction n with
  | zero => trivial
  | succ n ih => exact ⟨hread, fun _ => ih⟩

variable [DecidableEq α] [Item α] {S : Source α} {b : Bench} {c : Cursor} {k : Counter}

/-- Every item that is found is recorded where the counter was, and the counter goes on
from there. -/
theorem records_forward {n : Nat} (hc : b.cursors[0]? = some c) (hk : c.counters = [k])
    {p : Performance α ε} (hp : (forward n).play .full S b = .ok p) :
    ∃ ls : List Location,
      (p.records.filter fun r => r.1.isPresent).map (fun r => r.2.latest) = ls.map some ∧
        ls.Pairwise (· < ·) ∧ ∀ l ∈ ls, k.next.rank ≤ l.rank := by
  induction n generalizing b c k p with
  | zero =>
      cases hp
      exact ⟨[], rfl, .nil, by simp⟩
  | succ n ih =>
      obtain ⟨r, rest, hr, hrest, rfl⟩ := (play_act_eq_ok_iff hc).1 hp
      have hslot := (Array.getElem?_eq_some_iff.1 hc).1
      change (Action.read.scan b).run S c = .ok r at hr
      rw [Action.scan, bind_pure_comp, Scan.run_map_eq_ok_iff] at hr
      obtain ⟨t, ht, rfl⟩ := hr
      obtain ⟨hvalue, -, hcounters⟩ := Cursor.read_eq_ok_iff.1 (Scan.run_read_eq_ok_iff.1 ht).1
      have hc' := Bench.getElem?_update_self hslot t.cursor
      rw [hk] at hcounters
      cases hx : c.peek S with
      | none =>
          rw [hx] at hvalue hcounters
          obtain ⟨ls, hls, hsorted, hle⟩ := ih hc' hcounters hrest
          refine ⟨ls, ?_, hsorted, hle⟩
          rw [Performance.records_after,
            List.filter_cons_of_neg (by simp [hvalue, Reply.isPresent]), hls]
      | some x =>
          rw [hx] at hvalue hcounters
          obtain ⟨k', ks, hadvance, hnil, hk'⟩ := Cursor.advanceAll_cons_eq_ok_iff.1 hcounters
          cases hnil
          obtain ⟨hnext, hlast⟩ := Counter.advance_eq_ok_iff.1 hadvance
          have hlt := Location.lt_iff_rank_lt.1 (Location.lt_of_after_eq_ok hnext)
          obtain ⟨ls, hls, hsorted, hle⟩ := ih hc' hk' hrest
          have hlatest : t.cursor.latest = some k.next := by
            rw [Cursor.latest, hk', List.head?_cons, Option.bind_some, hlast]
          -- The read records where the counter was, and all later ones are past that.
          refine ⟨k.next :: ls, ?_, ?_, ?_⟩
          · rw [Performance.records_after,
              List.filter_cons_of_pos (by simp [hvalue, Reply.isPresent]), List.map_cons,
              List.map_cons, hls]
            exact congrArg (· :: ls.map some) hlatest
          · refine List.pairwise_cons.2 ⟨fun l hl => ?_, hsorted⟩
            exact Location.lt_iff_rank_lt.2 (Nat.lt_of_lt_of_le hlt (hle l hl))
          · intro l hl
            rcases List.mem_cons.1 hl with rfl | hl
            · exact Nat.le_refl _
            · exact Nat.le_of_lt (Nat.lt_of_lt_of_le hlt (hle l hl))

end

/-- Where items fill exactly the positions below the size, cursors that were reached from
one fresh cursor by scanning, whatever each of them tried, copied and went back to, are
in the order of their positions, taken no further than the end; so positions up to the
end do not share a location.  What one scan forward records of the items that it finds
grows from item to item. -/
theorem compare_location {ε : Type} {S : Source Char}
    (hS : ∀ p, (S.get? p).isSome ↔ p < S.size) (s : Word) {P Q : Session Char ε}
    (hP : P.Only Action.IsScan) (hQ : Q.Only Action.IsScan) :
    (∀ b ∈ P.moments .full S (.single (Cursor.startingAt s).withCounter),
      ∀ b' ∈ Q.moments .full S (.single (Cursor.startingAt s).withCounter),
        b.All fun c => b'.All fun d =>
          compare c.location d.location =
            compare (min c.position S.size) (min d.position S.size) ∧
          (c.position ≤ S.size → d.position ≤ S.size → c.location = d.location →
            c.position = d.position)) ∧
    ∀ n, ∃ (p : Performance Char ε) (ls : List Location),
      (forward n).play .full S (.single (Cursor.startingAt s).withCounter) = .ok p ∧
      (p.records.filter fun r => r.1.isPresent).map (fun r => r.2.latest) = ls.map some ∧
      ls.Pairwise (· < ·) := by
  have htop : S.get? Word.top = none := by
    rw [← Option.not_isSome_iff_eq_none, hS]
    exact UInt64.not_lt.2 (UInt64.le_iff_toNat_le.2 (Word.toNat_le_top S.size))
  refine ⟨fun b hb b' hb' => ?_, fun n => ?_⟩
  · have hlocated := (located_of_play htop s hP).2 b hb
    have hlocated' := (located_of_play htop s hQ).2 b' hb'
    refine hlocated.mono fun c hc => hlocated'.mono fun d hd => ?_
    exact ⟨hc.compare_eq hS hd, hc.position_eq hS hd⟩
  · have honly : (forward n : Session Char ε).Only Action.IsScan := only_forward trivial n
    obtain ⟨⟨p, hp, -⟩, -⟩ := located_of_play htop s honly
    have hcursor : (Bench.single (Cursor.startingAt s).withCounter).cursors[0]? =
        some (Cursor.startingAt s).withCounter := rfl
    obtain ⟨ls, hls, hsorted, -⟩ := records_forward hcursor rfl hp
    exact ⟨p, ls, hp, hls, hsorted⟩

/-- A copy of the cursor reads past the end in a body that is taken back, and leaves a
checkpoint there; the first cursor reads on. -/
def scatter : Session Char Char :=
  act 0 .read fun _ => act 0 .clone fun _ =>
    trying 1 (fun _ => true)
      (act 1 (.readTimes 3) fun _ => act 1 .checkpoint fun _ => done) fun _ =>
      act 0 .read fun _ => done

/-- The bench at the end of `scatter`, with a position before, at and past the end. -/
def scattered : Bench where
  cursors := #[⟨2, [⟨⟨1, 0⟩, some ⟨0, 1⟩⟩]⟩, ⟨1, [⟨⟨0, 1⟩, some ⟨0, 0⟩⟩]⟩]
  checkpoints := #[⟨4, [⟨⟨1, 1⟩, some ⟨1, 0⟩⟩]⟩]

/-- The cursors and the checkpoint of `scattered` compare as their positions do, taken no
further than the end. -/
theorem compare_location_scatter :
    ((∀ p, ((Source.ofArray #['a', '\n', 'b']).get? p).isSome ↔
        p < (Source.ofArray #['a', '\n', 'b']).size) ∧
      scatter.Only Action.IsScan ∧
      scattered ∈ scatter.moments .full (Source.ofArray #['a', '\n', 'b'])
        (.single (Cursor.startingAt 0).withCounter)) ∧
    scattered.All fun c => scattered.All fun d =>
      compare c.location d.location = compare (min c.position 3) (min d.position 3) ∧
      (c.position ≤ 3 → d.position ≤ 3 → c.location = d.location → c.position = d.position) := by
  have hS : ∀ p, ((Source.ofArray #['a', '\n', 'b']).get? p).isSome ↔
      p < (Source.ofArray #['a', '\n', 'b']).size :=
    fun p => Source.isSome_get?_ofArray_iff (by decide)
  have hscan : scatter.Only Action.IsScan := by simp [scatter, Only, Action.IsScan]
  have hmoment : scattered ∈ scatter.moments .full (Source.ofArray #['a', '\n', 'b'])
      (.single (Cursor.startingAt 0).withCounter) := by decide +kernel
  exact ⟨⟨hS, hscan, hmoment⟩,
    (compare_location hS 0 hscan hscan).1 scattered hmoment scattered hmoment⟩

end Session

end ScanCursor
