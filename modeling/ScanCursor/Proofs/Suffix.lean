import ScanCursor.Proofs.Layers
import ScanCursor.Proofs.Room

/-!
# ScanCursor.Proofs.Suffix

A cursor depends on nothing before its start.

Where a source has at `k` and after it what another one has from its first position on
(`Source.Tail`), a cursor that starts at `k` in the one and a cursor that starts at `0` in
the other find the same items.  They move together: the first is the second, raised by
`k` (`Source.Tail.abreast`).  That the positions of the two reach the largest word at
different times makes no difference to what is found, since nothing is there.  It only
shows in the first position, which stays where it is; up to the first read at the largest
position the two are apart by exactly `k` (`Interpreter.simulates_belowTop`).

`Interpreter.further` carries a session out behind `k` positions that it knows nothing of,
and `Interpreter.raised` answers it as if there were as many.
-/

namespace ScanCursor

variable {α ε σ : Type} {A B : Source α} {k : Word}

/-! ## a source from a position on -/

/-- What `A` has from `k` on is all that `B` has. -/
structure Source.Tail (A : Source α) (k : Word) (B : Source α) : Prop where
  item : ∀ p q, q.toNat = k.toNat + p.toNat → A.get? q = B.get? p
  absent : ∀ p, Word.top.toNat < k.toNat + p.toNat → B.get? p = none
  top : A.get? Word.top = none
  size : A.size.toNat = B.size.toNat + k.toNat

namespace Source

/-- An array has the items of its second part behind those of its first part. -/
theorem tail_ofArray {xs ys : Array α} (h : (xs ++ ys).size ≤ Word.top.toNat) :
    (ofArray (xs ++ ys)).Tail (Word.ofNatSat xs.size) (ofArray ys) := by
  have htop := Word.toNat_top
  have hsize : (xs ++ ys).size = xs.size + ys.size := Array.size_append
  have hk : (Word.ofNatSat xs.size).toNat = xs.size := by
    rw [Word.toNat_ofNatSat]
    omega
  refine ⟨fun p q hq => ?item, fun p hp => ?absent, ?top, ?size⟩
  case item =>
    rw [hk] at hq
    rw [get?_ofArray, get?_ofArray, hq, Array.getElem?_append_right (by omega),
      Nat.add_sub_cancel_left]
  case absent =>
    rw [get?_ofArray, Array.getElem?_eq_none_iff]
    omega
  case top => rwa [get?_ofArray, Array.getElem?_eq_none_iff]
  case size =>
    rw [hk, ofArray, ofArray, Word.toNat_ofNatSat, Word.toNat_ofNatSat]
    omega

/-- Single items have a tail in the same items, all of them moved up. -/
theorem tail_ofCells {cells : List (Word × α)} {size size' : Word}
    (hcells : ∀ cell ∈ cells, cell.1.toNat + k.toNat < Word.top.toNat)
    (hsize : size'.toNat = size.toNat + k.toNat) :
    (ofCells (cells.map (Prod.map (Word.addSat · k) id)) size').Tail k (ofCells cells size) := by
  have htop := Word.toNat_top
  refine ⟨fun p q hq => ?item, fun p hp => ?absent, ?top, hsize⟩
  case item =>
    simp only [ofCells]
    induction cells with
    | nil => rfl
    | cons cell cells ih =>
        have hfits := hcells cell List.mem_cons_self
        -- No cell is moved as far as the largest position, so none is held there.
        have hkey : (q == Word.addSat cell.1 k) = (p == cell.1) := by
          rw [Bool.eq_iff_iff, beq_iff_eq, beq_iff_eq, ← UInt64.toNat_inj, ← UInt64.toNat_inj,
            Word.toNat_addSat]
          omega
        have hrest := ih fun cell hcell => hcells cell (List.mem_cons_of_mem _ hcell)
        rw [List.map_cons, List.lookup_cons, List.lookup_cons, Prod.map_fst, hkey, hrest,
          Prod.map_snd, id]
  case absent =>
    rw [ofCells, List.lookup_eq_none_iff]
    intro cell hcell
    have hfits := hcells cell hcell
    rw [bne_iff_ne, ne_eq, ← UInt64.toNat_inj]
    omega
  case top =>
    rw [ofCells, List.lookup_eq_none_iff]
    intro raised hraised
    obtain ⟨cell, hcell, rfl⟩ := List.mem_map.1 hraised
    have hfits := hcells cell hcell
    rw [bne_iff_ne, ne_eq, ← UInt64.toNat_inj, Prod.map_fst, Word.toNat_addSat]
    omega

namespace Tail

variable (h : A.Tail k B)

include h

/-- What is at `p` in the tail is at `p` and `k` in the whole, also where the sum is held at
the largest word. -/
theorem get?_addSat (p : Word) : A.get? (Word.addSat p k) = B.get? p := by
  have htop := Word.toNat_top
  by_cases hp : p.toNat + k.toNat ≤ Word.top.toNat
  · apply h.item
    rw [Word.toNat_addSat]
    omega
  · have hsum : Word.addSat p k = Word.top := by
      apply UInt64.toNat.inj
      rw [Word.toNat_addSat]
      omega
    rw [hsum, h.top, h.absent p (by omega)]

/-- As much is left in the tail as in the whole. -/
theorem subSat_size (p : Word) :
    Word.subSat A.size (Word.addSat p k) = Word.subSat B.size p := by
  have hsize := h.size
  have hle := A.size.toNat_lt
  apply UInt64.toNat.inj
  rw [Word.toNat_subSat, Word.toNat_subSat, Word.toNat_addSat]
  omega

/-- A judge accepts as many items of the tail as of the whole. -/
theorem accepted (judge : Judge σ α) (n : Nat) (memory : σ) (p : Word) :
    A.accepted judge n memory (Word.addSat p k) = B.accepted judge n memory p := by
  induction n, memory, p using judged_induction B judge with
  | zero => rfl
  | absent hx => rw [accepted_absent ((h.get?_addSat _).trans hx), accepted_absent hx]
  | refused hx hj =>
      rw [accepted_refused ((h.get?_addSat _).trans hx) hj, accepted_refused hx hj]
  | accepted hx hj ih =>
      rw [accepted_succ ((h.get?_addSat _).trans hx) hj, accepted_succ hx hj,
        Word.addSat_right_comm, ih]

end Tail

end Source

/-! ## the same cursor, further on -/

/-- The cursor `k` positions further on, with the same counters. -/
def Cursor.raise (k : Word) (c : Cursor) : Cursor := c.jump (Word.addSat c.position k)

/-- The first cursor is the second, `k` positions further on if there are as many. -/
def Cursor.Raised (k : Word) (c d : Cursor) : Prop := c = d.raise k

/-- The first cursor is exactly `k` positions ahead of the second, with the same counters. -/
structure Cursor.Ahead (k : Word) (c d : Cursor) : Prop where
  position : c.position.toNat = d.position.toNat + k.toNat
  counters : c.counters = d.counters

/-- There is a position that is `k` further on. -/
def Cursor.Fits (k : Word) (c : Cursor) : Prop := c.position.toNat + k.toNat ≤ Word.top.toNat

namespace Cursor

variable {c d : Cursor}

/-- A cursor is raised exactly if there is a position for it. -/
theorem ahead_iff : Ahead k c d ↔ Raised k c d ∧ Fits k d := by
  have htop := Word.toNat_top
  constructor
  · rintro ⟨hposition, hcounters⟩
    have hlt := c.position.toNat_lt
    have hraise : c.position = Word.addSat d.position k := by
      apply UInt64.toNat.inj
      rw [Word.toNat_addSat]
      omega
    refine ⟨?_, by rw [Fits]; omega⟩
    rw [Raised, raise, jump, ← hraise, ← hcounters]
  · rintro ⟨rfl, hfits⟩
    refine ⟨?_, rfl⟩
    rw [Fits] at hfits
    rw [raise, jump, Word.toNat_addSat]
    omega

/-- Where a cursor is ahead, so is the end of a span. -/
theorem Ahead.stop (h : Ahead k c d) (n : Word) :
    (c.spanFrom (Word.addSat n k)).stop.toNat = (d.spanFrom n).stop.toNat + k.toNat :=
  h.position

/-- Fresh cursors, one of them `k` positions further on. -/
theorem ahead_fresh (k : Word) (layers : Nat) : Ahead k (fresh k layers) (fresh 0 layers) where
  position := by rw [fresh, fresh, UInt64.toNat_zero, Nat.zero_add]
  counters := rfl

end Cursor

/-- A cursor of the tail reads what the one `k` positions further on reads of the whole. -/
theorem Source.Tail.abreast [Item α] (h : A.Tail k B) : Scan.Abreast A B (Cursor.Raised k) where
  peek c d hcd := by
    subst hcd
    exact (h.get?_addSat d.position).symm
  read c d x c' hcd hread := by
    subst hcd
    obtain ⟨p, ks⟩ := c'
    obtain ⟨hvalue, hposition, hcounters⟩ := Cursor.read_eq_ok_iff.1 hread
    have hpeek : (d.raise k).peek A = d.peek B := h.get?_addSat d.position
    rw [hpeek] at hvalue hcounters
    have hread' (q : Word) (hq : q = Word.addSat d.position 1) : d.read B = .ok (x, ⟨q, ks⟩) :=
      Cursor.read_eq_ok_iff.2 ⟨hvalue, hq, hcounters⟩
    refine ⟨_, hread' _ rfl, ?_⟩
    simp only [Cursor.raise, Cursor.jump] at hposition
    rw [hposition, Cursor.Raised, Cursor.raise, Cursor.jump, Word.addSat_right_comm]

/-! ## steps -/

/-- A step that names no position of the source, except where a span starts. -/
def Action.IsRelative : Action α ε → Prop
  | .jump _ | .lookup _ => False
  | _ => True

/-- The step with the start of its span `k` positions further on. -/
def Action.raise (k : Word) : Action α ε → Action α ε
  | .spanFrom start => .spanFrom (Word.addSat start k)
  | a => a

/-- The reply with its positions `k` further on. -/
def Reply.raise (k : Word) : Reply α ε → Reply α ε
  | .span s => .span (s + k)
  | .inner c next => .inner (c.raise k) next
  | reply => reply

/-- A relative step is still one when it is moved up. -/
theorem Action.isRelative_raise {a : Action α ε} (ha : a.IsRelative) (k : Word) :
    (a.raise k).IsRelative := by
  cases a with
  | jump | lookup => exact ha.elim
  | _ => trivial

namespace Interpreter

variable [DecidableEq α] [Item α]

/-- Steps of a cursor that is `k` positions further on than the session knows. -/
def further (k : Word) : Interpreter α ε where
  step a b := (a.raise k).scan b
  shown c := c

/-- Steps that are answered as if they were made `k` positions further on. -/
def raised (k : Word) : Interpreter α ε where
  step a b := Prod.map (Reply.raise k) id <$> a.scan b
  shown := Cursor.raise k

variable {b b' : Bench}

/-- A relative step over the tail is answered as the one moved up is over the whole, once
the spans are moved up. -/
theorem simulates_raised (h : A.Tail k B) (hb : Bench.Related (Cursor.Raised k) b b')
    {a : Action α ε} (ha : a.IsRelative) :
    Scan.Simulates A B (Cursor.Raised k)
      (fun v v' => v'.1 = v.1 ∧ Bench.Related (Cursor.Raised k) v.2 v'.2)
      ((further k).step a b) ((raised k).step a b') := by
  have habreast := h.abreast
  refine .map_right ?_
  -- It is enough that the scans inside answer alike, but for positions.
  have hreply {β : Type} {f g : β → Reply α ε} {x y : Scan α β}
      (hx : Scan.Simulates A B (Cursor.Raised k) (fun v v' => (g v').raise k = f v) x y) :
      Scan.Simulates A B (Cursor.Raised k)
        (fun v v' => (Prod.map (Reply.raise k) id v').1 = v.1 ∧
          Bench.Related (Cursor.Raised k) v.2 (Prod.map (Reply.raise k) id v').2)
        (do return (f (← x), b)) (do return (g (← y), b')) := by
    rw [bind_pure_comp, bind_pure_comp]
    exact .map (hx.mono fun v v' hv => ⟨hv, hb⟩)
  have hsame {β : Type} {f : β → Reply α ε} {x y : Scan α β}
      (hx : Scan.Simulates A B (Cursor.Raised k) Eq x y) (hf : ∀ v, (f v).raise k = f v) :=
    hreply (f := f) (g := f) (hx.mono fun v v' hv => by rw [← hv, hf])
  cases a with
  | jump | lookup => exact ha.elim
  | clone =>
      exact .bind (.look fun c d hcd => hcd) fun c d hcd =>
        .pure ⟨by rw [Prod.map_fst, hb.cursors.size_eq]; rfl, hb.addCursor hcd⟩
  | checkpoint =>
      exact .bind (.look fun c d hcd => hcd) fun c d hcd =>
        .pure ⟨by rw [Prod.map_fst, hb.checkpoints.size_eq]; rfl, hb.addCheckpoint hcd⟩
  | restore index =>
      simp only [further, Action.raise, Action.scan]
      cases hk : b.checkpoints[index]? with
      | none =>
          rw [hb.checkpoints.getElem?_eq_none_iff.2 hk]
          exact .pure ⟨rfl, hb⟩
      | some c =>
          obtain ⟨d, hd, hcd⟩ := hb.checkpoints.exists_of_getElem? hk
          rw [hd]
          exact .bind (.restore hcd) fun _ _ _ => .pure ⟨rfl, hb⟩
  | recount =>
      refine .bind (.move fun c d hcd => ?_) fun _ _ _ => .pure ⟨rfl, hb⟩
      rw [hcd]
      rfl
  | inner =>
      refine hreply (f := fun v => v) (g := fun v => v) (.look fun c d hcd => ?_)
      have hpeek := h.get?_addSat d.position
      rw [hcd]
      exact congrArg (Reply.inner _) hpeek.symm
  | spanFrom start =>
      refine hreply (f := .span) (g := .span) (.look fun c d hcd => ?_)
      rw [hcd]
      rfl
  | peekNth n =>
      refine hsame (f := .item) (.look fun c d hcd => ?_) fun _ => rfl
      rw [hcd, Cursor.peekNth, Cursor.peekNth, Cursor.raise, Cursor.jump, Word.addSat_right_comm,
        h.get?_addSat]
  | atEnd =>
      refine hsame (f := .flag) (.look fun c d hcd => ?_) fun _ => rfl
      rw [Cursor.atEnd, Cursor.atEnd, habreast.peek hcd]
  | remaining =>
      refine hsame (f := .word) (.look fun c d hcd => ?_) fun _ => rfl
      rw [hcd]
      exact h.subSat_size d.position
  | peek => exact hsame (f := .item) (Scan.simulates_peek habreast) fun _ => rfl
  | peekOr into eof =>
      exact hsame (f := .converted) (Scan.simulates_peekOr habreast into eof) fun _ => rfl
  | read => exact hsame (f := .item) (Scan.simulates_read habreast) fun _ => rfl
  | readTimes n => exact hsame (f := .items) (Scan.simulates_readTimes habreast n) fun _ => rfl
  | readOr into eof =>
      exact hsame (f := .converted) (Scan.simulates_readOr habreast into eof) fun _ => rfl
  | readIf passes =>
      exact hsame (f := fun v : _ × Shown α => .accepted v.1 v.2.count)
        (Scan.simulates_readIf habreast _ _) fun _ => rfl
  | readWhile passes =>
      exact hsame (f := fun v : _ × Shown α => .counted v.1 v.2.count)
        (Scan.simulates_readWhile habreast _ _) fun _ => rfl
  | expect wanted =>
      refine hsame (f := .expected) (Scan.simulates_expect_eq habreast (fun c d hcd => ?_) wanted)
        fun _ => rfl
      rw [hcd]
      rfl

end Interpreter

/-! ## no read at the largest position -/

/-- One of the reads of the course, taken from `p`, is made at the largest position. -/
def Course.ReadsTop (p : Word) : Course → Prop
  | reads n => ∃ i, i < n ∧ p.onward i = Word.top
  | attempt => p = Word.top
  | jump _ | recount | back _ => False

instance (p : Word) : DecidablePred (Course.ReadsTop p)
  | .reads n => inferInstanceAs (Decidable (∃ i, i < n ∧ p.onward i = Word.top))
  | .attempt => inferInstanceAs (Decidable (p = Word.top))
  | .jump _ | .recount | .back _ => inferInstanceAs (Decidable False)

/-- As many reads as are made before the largest position lead no further than it. -/
theorem Word.add_le_of_onward_ne {p : Word} {n : Nat} (h : ∀ i, i < n → p.onward i ≠ top) :
    p.toNat + n ≤ top.toNat := by
  have htop := toNat_top
  have hp := p.toNat_le_top
  cases n with
  | zero => omega
  | succ n =>
      have hne : (p.onward n).toNat ≠ top.toNat :=
        fun heq => h n (Nat.lt_succ_self n) (UInt64.toNat.inj heq)
      rw [toNat_onward] at hne
      omega

section

variable {b b' : Bench} {c d d' : Cursor} {R : Cursor → Cursor → Prop} {es : Trace α}

/-- A raised cursor takes the same courses. -/
theorem Action.related_course_raise [DecidableEq α] (h : A.Tail k B) (hb : Bench.Related R b b')
    (hcd : c.Raised k d) (a : Action α ε) :
    Course.Related R ((a.raise k).course A b c) (a.course B b' d) := by
  have hpeek : A.get? c.position = B.get? d.position := by
    rw [hcd]
    exact h.get?_addSat d.position
  have haccepted {σ : Type} (judge : Judge σ α) (n : Nat) (memory : σ) :
      A.accepted judge n memory c.position = B.accepted judge n memory d.position := by
    rw [hcd]
    exact h.accepted judge n memory d.position
  cases a with
  | restore index =>
      simp only [raise, course]
      cases hk : b.checkpoints[index]? with
      | none =>
          rw [hb.checkpoints.getElem?_eq_none_iff.2 hk]
          rfl
      | some c =>
          obtain ⟨d, hd, hcd⟩ := hb.checkpoints.exists_of_getElem? hk
          rw [hd]
          exact hcd
  | expect wanted =>
      simp only [raise, course, hpeek]
      split <;> rfl
  | readIf | readWhile =>
      simp only [raise, course, haccepted]
      rfl
  | _ => rfl

/-- Relative steps do not jump. -/
theorem Action.course_ne_jump [DecidableEq α] {a : Action α ε} (ha : a.IsRelative) (p : Word) :
    a.course A b c ≠ .jump p := by
  intro h
  cases a with
  | jump | lookup => exact ha.elim
  | expect | restore =>
      simp only [course] at h
      split at h <;> cases h
  | _ => cases h

/-- A course that makes no read at the largest position leaves room for the difference. -/
theorem Course.fits_of_leads [Item α] {x y : Course} (hxy : Course.Related (Cursor.Ahead k) x y)
    (hx : ¬ x.ReadsTop c.position) (hjump : ∀ p, x ≠ .jump p) (hcd : c.Ahead k d)
    (hy : y.Leads B d es d') : d'.Fits k := by
  have hfits := (Cursor.ahead_iff.1 hcd).2
  cases x with
  | back i =>
      cases y with
      | back j =>
          obtain ⟨rfl, -⟩ := hy
          exact (Cursor.ahead_iff.1 hxy).2
      | _ => cases hxy
  | jump p => exact absurd rfl (hjump p)
  | recount =>
      cases hxy
      obtain ⟨rfl, -⟩ := hy
      exact hfits
  | attempt =>
      cases hxy
      obtain ⟨e, -, rfl, -⟩ := hy
      exact hfits
  | reads n =>
      cases hxy
      obtain ⟨ys, hrun⟩ := hy
      -- The first cursor has come no further than the largest position, and is `k` ahead.
      have hposition := congrArg UInt64.toNat (Scan.position_of_readTimes hrun)
      have hle := Word.add_le_of_onward_ne fun i hi htop => hx ⟨i, hi, htop⟩
      have hahead := hcd.position
      rw [Word.toNat_onward] at hposition
      rw [Cursor.Fits]
      simp only at hposition
      omega

end

namespace Bench.Related

variable {R R' : Cursor → Cursor → Prop} {K : Cursor → Prop} {b b' : Bench}

/-- What follows from the relation for the right-hand cursors holds of all of them. -/
theorem all_right (h : Bench.Related R b b') (hK : ∀ c d, R c d → K d) : b'.All K where
  cursors d hd := by
    obtain ⟨c, -, hcd⟩ := h.cursors.exists_of_mem hd
    exact hK c d hcd
  checkpoints d hd := by
    obtain ⟨c, -, hcd⟩ := h.checkpoints.exists_of_mem hd
    exact hK c d hcd

/-- A relation may be weakened by what is known of all right-hand cursors. -/
theorem mono_of_all (h : Bench.Related R b b') (hb' : b'.All K)
    (hR : ∀ c d, R c d → K d → R' c d) : Bench.Related R' b b' where
  cursors := h.cursors.mono_of_mem fun c d hd hcd => hR c d hcd (hb'.cursors d hd)
  checkpoints := h.checkpoints.mono_of_mem fun c d hd hcd => hR c d hcd (hb'.checkpoints d hd)

end Bench.Related

namespace Interpreter

variable [DecidableEq α] [Item α] {b b' : Bench} {a : Action α ε}

/-- The steps of `further`, refused where they read at the largest position. -/
def belowTop (k : Word) : Interpreter α ε where
  step a b := fun S c =>
    if ((a.raise k).course S b c).ReadsTop c.position then .error .add
    else ((further k).step a b).run S c
  shown c := c

/-- Below the largest position are just the steps that do not read there. -/
theorem run_belowTop_eq_ok_iff {S : Source α} {c : Cursor} {r : Scanned α (Reply α ε × Bench)} :
    ((belowTop k).step a b).run S c = .ok r ↔
      ¬ ((a.raise k).course S b c).ReadsTop c.position ∧
        ((further k).step a b).run S c = .ok r := by
  rw [Scan.run]
  simp only [belowTop]
  split <;> simp_all

/-- To refuse reads at the largest position is to refuse more and do nothing else. -/
theorem restricts_belowTop (k : Word) (S : Source α) :
    (belowTop (ε := ε) k).Restricts (further k) S where
  step _ _ _ _ hr := (run_belowTop_eq_ok_iff.1 hr).2
  shown _ := rfl

/-- Up to there the cursor is exactly `k` positions ahead. -/
theorem simulates_belowTop (h : A.Tail k B) (hb : Bench.Related (Cursor.Ahead k) b b')
    (ha : a.IsRelative) :
    Scan.Simulates A B (Cursor.Ahead k)
      (fun v v' => v'.1 = v.1 ∧ Bench.Related (Cursor.Ahead k) v.2 v'.2)
      ((belowTop k).step a b) ((raised k).step a b') := by
  intro c d r hcd hr
  obtain ⟨hreads, hrun⟩ := run_belowTop_eq_ok_iff.1 hr
  obtain ⟨hraised, hfits⟩ := Cursor.ahead_iff.1 hcd
  have hall : b'.All (Cursor.Fits k) := hb.all_right fun c d h => (Cursor.ahead_iff.1 h).2
  have hb' : Bench.Related (Cursor.Raised k) b b' :=
    hb.mono_of_all hall fun c d h _ => (Cursor.ahead_iff.1 h).1
  obtain ⟨t, ht, ⟨hreply, hbench⟩, hcursor⟩ := simulates_raised h hb' ha hraised hrun
  obtain ⟨u, hu, rfl⟩ := Scan.run_map_eq_ok_iff.1 ht
  have hcourse := Action.related_course_raise h hb hraised a
  have hjump := Action.course_ne_jump (A := A) (b := b) (c := c) (Action.isRelative_raise ha k)
  have hend : u.cursor.Fits k :=
    Course.fits_of_leads hcourse hreads hjump hcd (Action.run_course hu)
  have hends : u.value.2.All (Cursor.Fits k) := hall.run hfits hu
  refine ⟨_, ht, ⟨hreply, ?_⟩, Cursor.ahead_iff.2 ⟨hcursor, hend⟩⟩
  exact hbench.mono_of_all hends fun c d h h' => Cursor.ahead_iff.2 ⟨h, h'⟩

end Interpreter

/-! ## sessions -/

namespace Session

variable [DecidableEq α] [Item α] {P : Session α ε}

/-- Where nothing is at the largest position no relative step is refused. -/
theorem exists_play_further (htop : A.get? Word.top = none) (hP : P.Only Action.IsRelative)
    (k s : Word) (layers : Nat) :
    ∃ p, P.play (.further k) A (.single (Cursor.fresh s layers)) = .ok p := by
  have hread : Scan.Keeps A False (Cursor.Held A s layers) (Scan.read : Scan α (Option α)) :=
    Scan.keeps_of_exists_read fun c hc => hc.read htop
  have hstep (a : Action α ε) (ha : a.IsRelative) :=
    Action.ends_step hread (.inr htop) (fun _ hjump => hjump.elim) (fun _ c hc => hc.recount)
      (a.raise k) (Action.isRelative_raise ha k)
  have hheld := Bench.All.single (Cursor.Held.fresh A s layers)
  obtain ⟨p, hp, -⟩ := (ends_play (I := .further k) hstep hP hheld).exists_ok
  exact ⟨p, hp⟩

/-- What precedes the start of a cursor makes no difference to it.  Whatever relative
steps a session takes from `k` in `A`, it is not refused, and is answered as from the
first position of `B`; cursors, checkpoints and spans are the same, raised by `k`.  They
are exactly `k` apart throughout if no step reads at the largest position, and otherwise
at every moment before the first that does.  Judges are shown the same items, whatever
their memory. -/
theorem play_tail (h : A.Tail k B) (hP : P.Only Action.IsRelative) (layers : Nat) :
    (∃ p q, P.play (.further k) A (.single (Cursor.fresh k layers)) = .ok p ∧
      Lockstep (.further k) (.raised k) A B (Cursor.Raised k) P (.single (Cursor.fresh k layers))
        (.single (Cursor.fresh 0 layers)) p q ∧
      ((∃ p', P.play (.belowTop k) A (.single (Cursor.fresh k layers)) = .ok p') →
        Lockstep (.further k) (.raised k) A B (Cursor.Ahead k) P (.single (Cursor.fresh k layers))
          (.single (Cursor.fresh 0 layers)) p q)) ∧
    (∃ bs, List.Forall₂ (Bench.Related (Cursor.Ahead k))
        (P.moments (.belowTop k) A (.single (Cursor.fresh k layers))) bs ∧
      P.moments (.belowTop k) A (.single (Cursor.fresh k layers)) <+:
        P.moments (.further k) A (.single (Cursor.fresh k layers)) ∧
      bs <+: P.moments (.raised k) B (.single (Cursor.fresh 0 layers))) ∧
    (∀ c d, Cursor.Ahead k c d → ∀ start,
      (c.spanFrom (Word.addSat start k)).stop.toNat = (d.spanFrom start).stop.toNat + k.toNat) ∧
    ∀ {σ : Type} (judge : Judge σ α) (memory : σ),
      Scan.Simulates A B (Cursor.Raised k) Eq (Scan.readIf judge memory)
        (Scan.readIf judge memory) ∧
      Scan.Simulates A B (Cursor.Raised k) Eq (Scan.readWhile judge memory)
        (Scan.readWhile judge memory) := by
  have hahead := Bench.Related.single (Cursor.ahead_fresh k layers)
  have hraised := Bench.Related.single (Cursor.ahead_iff.1 (Cursor.ahead_fresh k layers)).1
  have hbelow (a : Action α ε) (ha : a.IsRelative) ⦃b b' : Bench⦄
      (hb : Bench.Related (Cursor.Ahead k) b b') := Interpreter.simulates_belowTop h hb ha
  have hshown ⦃c d : Cursor⦄ (hcd : Cursor.Ahead k c d) : d.raise k = c :=
    (Cursor.ahead_iff.1 hcd).1.symm
  have hrestricts := Interpreter.restricts_belowTop (ε := ε) k A
  refine ⟨?answers, ?moments, fun c d hcd start => hcd.stop start,
    fun judge memory => ⟨Scan.simulates_readIf h.abreast judge memory,
      Scan.simulates_readWhile h.abreast judge memory⟩⟩
  case answers =>
    obtain ⟨p, hp⟩ := exists_play_further h.top hP k k layers
    obtain ⟨q, hq⟩ := play_simulates (fun _ ha _ _ hb => Interpreter.simulates_raised h hb ha)
      (fun _ _ hcd => hcd.symm) hP hraised hp
    refine ⟨p, q, hp, hq, ?_⟩
    rintro ⟨p', hp'⟩
    -- The run that is not refused is the run over `A`, and `B` answers in one way only.
    obtain ⟨hplay, hmoments⟩ := play_of_restricts hrestricts hp'
    obtain ⟨q', hq'⟩ := play_simulates hbelow hshown hP hahead hp'
    have hpp : p' = p := Except.ok.inj (hplay.symm.trans hp)
    have hqq : q' = q := Except.ok.inj (hq'.play.symm.trans hq.play)
    subst hpp
    subst hqq
    exact ⟨hq'.play, hq'.records, hq'.bench, by rw [hmoments]; exact hq'.moments⟩
  case moments =>
    obtain ⟨bs, hprefix, hmoments⟩ := moments_simulates hbelow hshown hP hahead
    exact ⟨bs, hmoments, moments_prefix_of_restricts hrestricts P _, hprefix⟩

/-- A copy is taken to the largest position, and `n` times read there. -/
def overrun (n : Nat) : Session Char Char :=
  act 0 .clone fun _ => act 1 (.readTimes 3) fun _ => act 1 (.spanFrom 1) fun _ =>
    act 1 (.readTimes n) fun _ => act 0 (.readIf fun _ x => x = 'a') fun _ => done

end Session

/-- Three positions before the largest one. -/
def Word.nearTop : Word := 18446744073709551612

/-- Two items before the largest position. -/
def Source.lastPair : Source Char :=
  .ofCells [(18446744073709551613, 'a'), (18446744073709551614, '\n')] 18446744073709551614

/-- The same items after an empty position. -/
def Source.pair : Source Char := .ofCells [(1, 'a'), (2, '\n')] 2

/-- Two items near the largest position have the same two near the first one as their
tail. -/
theorem Source.tail_pair : lastPair.Tail .nearTop pair := by
  have hcells : [(18446744073709551613, 'a'), (18446744073709551614, '\n')] =
      [(1, 'a'), (2, '\n')].map (Prod.map (Word.addSat · .nearTop) id) := by decide
  rw [lastPair, hcells]
  exact tail_ofCells (by decide) (by decide)

/-- A copy that reads at the largest position stays there, while its twin over the tail goes
on; up to that read, and throughout if there is none, all positions are `nearTop` apart. -/
theorem Session.play_tail_pair :
    Source.lastPair.Tail .nearTop Source.pair ∧
    (∀ n, (overrun n).Only Action.IsRelative) ∧
    (∃ p q, (overrun 1).play (.further .nearTop) Source.lastPair
        (.single (Cursor.fresh .nearTop 2)) = .ok p ∧
      Lockstep (.further .nearTop) (.raised .nearTop) Source.lastPair Source.pair
        (Cursor.Raised .nearTop) (overrun 1) (.single (Cursor.fresh .nearTop 2))
        (.single (Cursor.fresh 0 2)) p q) ∧
    ((overrun 1).moments (.belowTop .nearTop) Source.lastPair
      (.single (Cursor.fresh .nearTop 2))).length = 4 ∧
    ((overrun 1).moments (.further .nearTop) Source.lastPair
      (.single (Cursor.fresh .nearTop 2))).length = 6 ∧
    ∃ p q, Lockstep (.further .nearTop) (.raised .nearTop) Source.lastPair Source.pair
      (Cursor.Ahead .nearTop) (overrun 0) (.single (Cursor.fresh .nearTop 2))
      (.single (Cursor.fresh 0 2)) p q := by
  have honly (n : Nat) : (overrun n).Only Action.IsRelative := by
    simp [overrun, Only, Action.IsRelative]
  obtain ⟨⟨p, q, hp, hq, -⟩, -⟩ := play_tail Source.tail_pair (honly 1) 2
  obtain ⟨⟨p', q', -, -, hexact⟩, -⟩ := play_tail Source.tail_pair (honly 0) 2
  have hbelow : ∃ p, (overrun 0).play (.belowTop .nearTop) Source.lastPair
      (.single (Cursor.fresh .nearTop 2)) = .ok p := ⟨_, rfl⟩
  exact ⟨Source.tail_pair, honly, ⟨p, q, hp, hq⟩, by decide +kernel, by decide +kernel, p', q',
    hexact hbelow⟩

end ScanCursor
