import Mathlib.Data.List.Forall2
import ScanCursor.Proofs.Course
import ScanCursor.Proofs.Extent
import ScanCursor.Proofs.Invariant
import ScanCursor.Proofs.Lineage

/-!
# ScanCursor.Proofs.Tally

How many reads found an item.  `Session.found` counts them along a session, the
reads of bodies that are taken back included, and `Session.tallies` says how many
they are at each of its moments.

No counter ever gets ahead of this tally: rows and columns together are at most
as many as the reads that found an item so far, whatever jumps, returns and
recounts there were (`Session.tallied_moments`).  So nothing is refused as long
as the tally is a word (`Session.ends_play_found`).  That the tally is of the
reads that were made is told by the trace, where every counter tells of each.

`Finds` is the rule for scans: one that starts with the tally at `N` and finds
`n` items ends with the tally at `N + n`, or it is refused and `N + n` is above
the largest word.
-/

namespace ScanCursor

variable {α ε β γ σ : Type}

/-! ## reads that find an item -/

namespace Source

variable (S : Source α)

/-- How many items a read at `p` finds. -/
def hit (p : Word) : Nat := (S.get? p).isSome.toNat

/-- How many items so many reads from `p` find. -/
def hits : Nat → Word → Nat
  | 0, _ => 0
  | n + 1, p => S.hit p + hits n (Word.addSat p 1)

variable {S} {p : Word} {x : α}

/-- A read finds an item where there is one. -/
theorem hit_eq_one (h : S.get? p = some x) : S.hit p = 1 := by
  rw [hit, h]
  rfl

/-- What a judge accepts is there. -/
theorem hits_accepted (judge : Judge σ α) (n : Nat) (memory : σ) (p : Word) :
    S.hits (S.accepted judge n memory p) p = S.accepted judge n memory p := by
  induction n, memory, p using judged_induction S judge with
  | zero => rfl
  | absent hx => rw [accepted_absent hx, hits]
  | refused hx hj => rw [accepted_refused hx hj, hits]
  | accepted hx hj ih =>
      rw [accepted_succ hx hj, Nat.add_comm, hits, ih, hit_eq_one hx, Nat.add_comm]

end Source

/-- How many items the step finds. -/
def Action.found (S : Source α) (c : Cursor) : Action α ε → Nat
  | .read | .readOr _ _ | .expect _ => S.hit c.position
  | .readTimes n => S.hits n c.position
  | .readIf passes => S.accepted (Judge.recalling passes) 1 (.ofList []) c.position
  | .readWhile passes =>
    S.accepted (Judge.recalling passes) (Word.top.toNat + 1) (.ofList []) c.position
  | .peek | .peekOr _ _ | .peekNth _ | .atEnd | .remaining | .lookup _ | .spanFrom _ | .jump _
  | .recount | .inner | .clone | .checkpoint | .restore _ => 0

namespace Session

variable [DecidableEq α] [Item α]

/-- How many items the steps of the session find, up to the step that is refused if
there is one, and with that step. -/
def found (S : Source α) : Session α ε → Bench → Nat
  | .done, _ => 0
  | .act slot a next, b =>
    match b.cursors[slot]? with
    | none => 0
    | some c =>
      a.found S c +
        match (a.scan b).run S c with
        | .error _ => 0
        | .ok r => (next (r.value.1, r.cursor)).found S (r.value.2.update slot r.cursor)
  | .trying slot reject body next, b =>
    match b.cursors[slot]? with
    | none => 0
    | some before =>
      body.found S b +
        match body.play .full S b with
        | .error _ => 0
        | .ok p =>
          let p := p.settle slot before reject
          (next (tried .full slot before p)).found S p.bench

/-- How many items were found by each of the session's moments, and by `N` more
reads before the session. -/
def tallies (S : Source α) : Session α ε → Bench → Nat → List Nat
  | .done, _, N => [N]
  | .act slot a next, b, N =>
    N :: match b.cursors[slot]? with
      | none => []
      | some c =>
        match (a.scan b).run S c with
        | .error _ => []
        | .ok r =>
          (next (r.value.1, r.cursor)).tallies S (r.value.2.update slot r.cursor)
            (N + a.found S c)
  | .trying slot reject body next, b, N =>
    match b.cursors[slot]? with
    | none => [N]
    | some before =>
      body.tallies S b N ++
        match body.play .full S b with
        | .error _ => []
        | .ok p =>
          let p := p.settle slot before reject
          (next (tried .full slot before p)).tallies S p.bench (N + body.found S b)

end Session

/-! ## what the trace tells of them -/

/-- Whether a counter tells of a read that found an item. -/
def Event.isFound : Event α → Bool
  | .read item _ => item.isSome
  | .restore _ _ | .position _ _ => false

/-- How often a counter tells of a read that found an item. -/
def Trace.found (es : Trace α) : Nat := es.countP Event.isFound

namespace Trace

/-- What two traces tell of items, one after the other. -/
@[simp] theorem found_append (es fs : Trace α) : found (es ++ fs) = found es + found fs :=
  List.countP_append

/-- Every counter tells of every read. -/
@[simp] theorem found_readEvents (x : Option α) (c : Cursor) :
    found (c.readEvents x) = x.isSome.toNat * c.counters.length := by
  rw [found, Cursor.readEvents, List.countP_map]
  cases x with
  | none => simp [Function.comp_def, Event.isFound]
  | some x => simp [Function.comp_def, Event.isFound]

/-- A return finds no item. -/
@[simp] theorem found_restoreEvents (c d : Cursor) :
    found (c.restoreEvents d : Trace α) = 0 := by
  rw [found, List.countP_eq_zero]
  intro e he
  rcases List.mem_append.1 he with he | he
  · rw [← List.map_uncurry_zip_eq_zipWith] at he
    obtain ⟨⟨k, l⟩, -, rfl⟩ := List.mem_map.1 he
    simp [Event.isFound]
  · rw [List.mem_singleton.1 he]
    simp [Event.isFound]

end Trace

/-! ## cursors -/

/-- There are so many counters, and none of them has counted more than `n` items. -/
structure Cursor.Tallied (layers n : Nat) (c : Cursor) : Prop where
  length : c.counters.length = layers
  size_le : ∀ k ∈ c.counters, k.next.extent.size ≤ n

namespace Cursor.Tallied

variable {S : Source α} {layers n m : Nat} {c : Cursor}

theorem mono (hc : c.Tallied layers n) (h : n ≤ m) : c.Tallied layers m where
  length := hc.length
  size_le k hk := Nat.le_trans (hc.size_le k hk) h

theorem fresh (s : Word) (layers : Nat) : (Cursor.fresh s layers).Tallied layers 0 where
  length := List.length_replicate
  size_le k hk := by
    rw [List.eq_of_mem_replicate hk]
    decide

theorem jump (hc : c.Tallied layers n) (p : Word) : (c.jump p).Tallied layers n where
  length := hc.length
  size_le := hc.size_le

/-- A fresh counter has counted no more than the one before it. -/
theorem recount (hc : c.Tallied layers n) : c.recount.Tallied layers n where
  length := by simpa [Cursor.recount] using hc.length
  size_le k hk := by
    rcases mem_recount hk with rfl | hk
    · exact Nat.zero_le n
    · exact hc.size_le k hk

/-- A read that finds an item is counted by every counter, and any other by none. -/
theorem read [Item α] {c' : Cursor} {x : Option α} (hc : c.Tallied layers n)
    (hread : c.read S = .ok (x, c')) : c'.Tallied layers (n + S.hit c.position) where
  length := (length_of_read hread).trans hc.length
  size_le k' hk' := by
    rcases mem_of_read hread hk' with hk | ⟨y, k, hy, hk, hadvance⟩
    · exact Nat.le_trans (hc.size_le k' hk) (Nat.le_add_right _ _)
    · have hsize := hc.size_le k hk
      rw [(Counter.advance_ok_iff.1 hadvance).1, Source.hit_eq_one hy]
      exact Nat.le_trans (Extent.size_step_le _ _) (Nat.succ_le_succ hsize)

/-- A read is not refused as long as the tally is a word after it. -/
theorem exists_read [Item α] (hc : c.Tallied layers n)
    (hroom : n + S.hit c.position ≤ Word.top.toNat) : ∃ x c', c.read S = .ok (x, c') := by
  cases hx : c.peek S with
  | none => exact ⟨none, c.skip, by simp [Cursor.read, hx]⟩
  | some x =>
      have hhit : S.hit c.position = 1 := Source.hit_eq_one hx
      have hbelow : ∀ k ∈ c.counters, k.next.extent.size < Word.top.toNat := by
        intro k hk
        have hsize := hc.size_le k hk
        omega
      obtain ⟨ks, hks⟩ := exists_advanceAll hbelow (Item.endsLine x)
      refine ⟨some x, { c.skip with counters := ks }, read_eq_ok_iff.2 ?_⟩
      simpa [hx, Cursor.skip] using hks

end Cursor.Tallied

/-! ## scans -/

namespace Scan

variable {S : Source α} {layers N n m : Nat} {c : Cursor}

/-- With the tally at `N` before it the scan finds `n` items, which every counter
tells, or it is refused and there is no word for so many. -/
def Finds (S : Source α) (layers N : Nat) (x : Scan α β) (c : Cursor) (n : Nat) : Prop :=
  Ends (Word.top.toNat < N + n)
    (fun r => r.cursor.Tallied layers (N + n) ∧ Trace.found r.trace = n * layers) (x.run S c)

namespace Finds

/-- A scan that is not refused and tells nothing finds nothing. -/
theorem of_run {x : Scan α β} {r : Scanned α β} (hr : x.run S c = .ok r)
    (hcursor : r.cursor.Tallied layers N) (htrace : Trace.found r.trace = 0) :
    x.Finds S layers N c 0 := by
  rw [Finds, hr]
  exact ⟨hcursor, by rw [htrace, Nat.zero_mul]⟩

theorem pure (b : β) (hc : c.Tallied layers N) : (Pure.pure b : Scan α β).Finds S layers N c 0 :=
  of_run rfl hc rfl

theorem look (f : Source α → Cursor → β) (hc : c.Tallied layers N) :
    (Scan.look f).Finds S layers N c 0 :=
  of_run rfl hc rfl

theorem move {f : Cursor → Cursor} (hc : (f c).Tallied layers N) :
    (Scan.move f).Finds S layers N c 0 :=
  of_run rfl hc rfl

theorem restore {k : Cursor} (hk : k.Tallied layers N) : (Scan.restore k).Finds S layers N c 0 :=
  of_run rfl hk (Trace.found_restoreEvents c k)

/-- What two scans find, one after the other: the second begins with the tally that the
first has left. -/
theorem bind {x : Scan α β} {f : β → Scan α γ} (hx : x.Finds S layers N c n)
    (hf : ∀ r, x.run S c = .ok r → r.cursor.Tallied layers (N + n) →
      (f r.value).Finds S layers (N + n) r.cursor m) :
    (x >>= f).Finds S layers N c (n + m) := by
  rw [Finds, run_bind]
  cases hr : x.run S c with
  | error =>
      have hroom := Ends.of_eq_error hx hr
      show Word.top.toNat < N + (n + m)
      omega
  | ok r =>
      obtain ⟨hcursor, htrace⟩ := Ends.of_eq_ok hx hr
      have hrest := hf r hr hcursor
      cases ht : (f r.value).run S r.cursor with
      | error =>
          have hroom := Ends.of_eq_error hrest ht
          simp only [ht]
          show Word.top.toNat < N + (n + m)
          omega
      | ok t =>
          obtain ⟨hcursor', htrace'⟩ := Ends.of_eq_ok hrest ht
          simp only [ht]
          constructor
          · rwa [← Nat.add_assoc]
          · rw [Trace.found_append, htrace, htrace', Nat.add_mul]

theorem map {x : Scan α β} {f : β → γ} (hx : x.Finds S layers N c n) :
    (f <$> x).Finds S layers N c n := by
  rw [Finds, run_map]
  exact Ends.map hx

/-- A scan finds the same, whatever is made of its value. -/
theorem bind_pure {x : Scan α β} {f : β → γ} (hx : x.Finds S layers N c n) :
    (x >>= fun b => Pure.pure (f b)).Finds S layers N c n :=
  bind (m := 0) hx fun _ _ hcursor => pure _ hcursor

/-- What is seen first adds nothing to what is found. -/
theorem look_bind {f : Source α → Cursor → β} {g : β → Scan α γ} (hc : c.Tallied layers N)
    (hg : (g (f S c)).Finds S layers N c n) : (Scan.look f >>= g).Finds S layers N c n := by
  have hbind := (look f hc).bind (f := g) (m := n) fun r hr _ => by
    cases hr
    exact hg
  rwa [Nat.zero_add] at hbind

/-- What a body finds is found also if it is taken back. -/
theorem rewindIf {reject : β → Bool} {x : Scan α β} (hc : c.Tallied layers N)
    (hx : x.Finds S layers N c n) : (Scan.rewindIf reject x).Finds S layers N c n := by
  rw [Finds, run_rewindIf]
  refine Ends.map (Ends.mono hx fun r hr => ?_)
  split
  · exact ⟨hc.mono (Nat.le_add_right N n), by simpa using hr.2⟩
  · exact hr

end Finds

/-! ### reads -/

section

variable [Item α]

/-- A read finds the item at its position, if there is one. -/
theorem finds_read (hc : c.Tallied layers N) :
    (read : Scan α (Option α)).Finds S layers N c (S.hit c.position) := by
  rw [Finds]
  cases hr : (read : Scan α (Option α)).run S c with
  | error =>
      show Word.top.toNat < N + S.hit c.position
      by_contra hroom
      obtain ⟨x, c', hread⟩ := hc.exists_read (Nat.le_of_not_lt hroom)
      have hrun : (read : Scan α (Option α)).run S c = .ok ⟨x, c', c'.readEvents x⟩ :=
        run_read_eq_ok_iff.2 ⟨hread, rfl⟩
      rw [hr] at hrun
      cases hrun
  | ok r =>
      obtain ⟨hread, htrace⟩ := run_read_eq_ok_iff.1 hr
      have hitem : r.value = S.get? c.position := (Cursor.read_eq_ok_iff.1 hread).1
      have hcursor := hc.read hread
      refine ⟨hcursor, ?_⟩
      rw [htrace, Trace.found_readEvents, hcursor.length, hitem, Source.hit]

/-- A read finds the item, whatever stands for none. -/
theorem finds_readOr {ε : Type} (into : α → ε) (eof : ε) (hc : c.Tallied layers N) :
    (readOr into eof).Finds S layers N c (S.hit c.position) :=
  (finds_read hc).bind_pure

/-- An item is found even if it is not the wanted one and is given back. -/
theorem finds_expect [DecidableEq α] (wanted : α) (hc : c.Tallied layers N) :
    (expect wanted).Finds S layers N c (S.hit c.position) :=
  Finds.look_bind hc (Finds.rewindIf hc (finds_read hc).bind_pure)

/-- So many reads find the items ahead. -/
theorem finds_readTimes (n : Nat) (hc : c.Tallied layers N) :
    (readTimes n : Scan α (List (Option α))).Finds S layers N c (S.hits n c.position) := by
  induction n generalizing c N with
  | zero =>
      rw [readTimes_zero]
      exact Finds.pure _ hc
  | succ n ih =>
      rw [readTimes_succ]
      refine (finds_read hc).bind fun r hr hcursor => ?_
      have hposition := (Cursor.read_eq_ok_iff.1 (run_read_eq_ok_iff.1 hr).1).2.1
      rw [← hposition]
      exact (ih hcursor).map

/-- Only an item that the judge accepts is read. -/
theorem finds_readIf (judge : Judge σ α) (memory : σ) (hc : c.Tallied layers N) :
    (readIf judge memory).Finds S layers N c (S.accepted judge 1 memory c.position) := by
  have hreads := finds_readTimes (S := S) (S.accepted judge 1 memory c.position) hc
  rw [Source.hits_accepted] at hreads
  rw [Finds, run_readIf]
  exact Ends.map hreads

/-- There is a round for every item that the tally has still a word for, and one more. -/
theorem finds_readWhileWithin (judge : Judge σ α) {rounds : Nat}
    (hrounds : Word.top.toNat < N + rounds) (memory : σ) (hc : c.Tallied layers N) :
    (readWhileWithin judge rounds memory).Finds S layers N c
      (S.accepted judge rounds memory c.position) := by
  have hreads := finds_readTimes (S := S) (S.accepted judge rounds memory c.position) hc
  rw [Source.hits_accepted] at hreads
  rw [Finds, run_readWhileWithin]
  split
  · exact Ends.map hreads
  · show Word.top.toNat < N + S.accepted judge rounds memory c.position
    omega

/-- Just the items that the judge accepts are read. -/
theorem finds_readWhile (judge : Judge σ α) (memory : σ) (hc : c.Tallied layers N) :
    (readWhile judge memory).Finds S layers N c
      (S.accepted judge (Word.top.toNat + 1) memory c.position) := by
  have hrounds : Word.top.toNat < N + (Word.top.toNat + 1) := by omega
  exact finds_readWhileWithin judge hrounds memory hc

end

end Scan

/-! ## steps and sessions -/

section

variable {layers N : Nat} {b : Bench} {c : Cursor}

/-- With the tally at `N` before it a performance found `n` items, which every counter
told. -/
structure Performance.Found (layers N n : Nat) (p : Performance α ε) : Prop where
  bench : p.bench.All (Cursor.Tallied layers (N + n))
  trace : Trace.found p.trace = n * layers

namespace Performance.Found

variable {n m : Nat} {p : Performance α ε}

/-- What a step and the session after it have found. -/
theorem after {es : Trace α} (hp : p.Found layers (N + n) m) (hes : Trace.found es = n * layers)
    (record : Record α ε) : (p.after record es).Found layers N (n + m) where
  bench := by
    rw [bench_after, ← Nat.add_assoc]
    exact hp.bench
  trace := by
    have htrace := hp.trace
    rw [Performance.after, Trace.found_append, hes, htrace, Nat.add_mul]

/-- What was found stays found when the cursor is taken back. -/
theorem settle (hp : p.Found layers N n) (slot : Nat) (hc : c.Tallied layers N)
    (reject : List (Record α ε) → Bool) : (p.settle slot c reject).Found layers N n where
  bench := hp.bench.settle slot (hc.mono (Nat.le_add_right N n)) reject
  trace := by
    rw [Performance.settle]
    split
    · rw [Trace.found_append, Trace.found_restoreEvents, hp.trace, Nat.add_zero]
    · exact hp.trace

end Performance.Found

variable [DecidableEq α] [Item α] {S : Source α}

/-- A step finds the items that its reads find, and every counter tells them. -/
theorem Action.finds_scan (a : Action α ε) (hb : b.All (Cursor.Tallied layers N))
    (hc : c.Tallied layers N) : (a.scan b).Finds S layers N c (a.found S c) := by
  cases a with
  | peek | peekOr | peekNth | atEnd | remaining | lookup | spanFrom | inner | clone | checkpoint =>
      exact .bind_pure (.look _ hc)
  | read => exact .bind_pure (Scan.finds_read hc)
  | readTimes n => exact .bind_pure (Scan.finds_readTimes n hc)
  | readOr into eof => exact .bind_pure (Scan.finds_readOr into eof hc)
  | readIf passes => exact .bind_pure (Scan.finds_readIf _ _ hc)
  | readWhile passes => exact .bind_pure (Scan.finds_readWhile _ _ hc)
  | expect wanted => exact .bind_pure (Scan.finds_expect wanted hc)
  | jump p => exact .bind_pure (.move (hc.jump p))
  | recount => exact .bind_pure (.move hc.recount)
  | restore index =>
      simp only [Action.scan]
      cases hk : b.checkpoints[index]? with
      | none => exact .pure _ hc
      | some k => exact .bind_pure (.restore (hb.checkpoints k (Array.mem_of_getElem? hk)))

/-- A step with the tally at `N` before it. -/
theorem Action.ends_tallied (a : Action α ε) (hb : b.All (Cursor.Tallied layers N))
    (hc : c.Tallied layers N) :
    Ends (Word.top.toNat < N + a.found S c)
      (fun r => r.cursor.Tallied layers (N + a.found S c) ∧
        r.value.2.All (Cursor.Tallied layers (N + a.found S c)) ∧
        Trace.found r.trace = a.found S c * layers)
      ((a.scan b).run S c) := by
  have hfinds := Action.finds_scan (S := S) a hb hc
  have hle : N ≤ N + a.found S c := Nat.le_add_right _ _
  have hbench : b.All (Cursor.Tallied layers (N + a.found S c)) :=
    hb.mono fun _ hd => hd.mono hle
  cases hr : (a.scan b).run S c with
  | error => exact Ends.of_eq_error hfinds hr
  | ok r =>
      obtain ⟨hcursor, htrace⟩ := Ends.of_eq_ok hfinds hr
      exact ⟨hcursor, hbench.run (hc.mono hle) hr, htrace⟩

namespace Session

/-- With the tally at `N` before it the session finds so many items, or it is refused
and there is no word for them. -/
theorem ends_play_found (P : Session α ε) (hb : b.All (Cursor.Tallied layers N)) :
    Ends (Word.top.toNat < N + P.found S b) (Performance.Found layers N (P.found S b))
      (P.play .full S b) := by
  induction P generalizing b N with
  | done => exact ⟨hb, (Nat.zero_mul layers).symm⟩
  | act slot a next ih =>
      cases hc : b.cursors[slot]? with
      | none =>
          simp only [found, hc, play_act_missing hc]
          exact ⟨hb, (Nat.zero_mul layers).symm⟩
      | some c =>
          have hstep := Action.ends_tallied (S := S) a hb (hb.getElem? hc)
          rw [play_act hc]
          simp only [found, hc]
          change Ends _ _ (do let r ← (a.scan b).run S c; _)
          cases hr : (a.scan b).run S c with
          | error => exact hstep.of_eq_error hr
          | ok r =>
              obtain ⟨hcursor, hbench, htrace⟩ := hstep.of_eq_ok hr
              have hrest := ih (r.value.1, r.cursor) (hbench.update slot hcursor)
              rw [Nat.add_assoc] at hrest
              exact hrest.bind fun rest hfound => hfound.after htrace _
  | trying slot reject body next ihb ihn =>
      cases hc : b.cursors[slot]? with
      | none =>
          simp only [found, hc, play_trying_missing hc]
          exact ⟨hb, (Nat.zero_mul layers).symm⟩
      | some c =>
          have hbody := ihb hb
          rw [play_trying hc]
          simp only [found, hc]
          cases hp : body.play .full S b with
          | error => exact hbody.of_eq_error hp
          | ok p =>
              have hsettle := (hbody.of_eq_ok hp).settle slot (hb.getElem? hc) reject
              have hrest := ihn (tried .full slot c (p.settle slot c reject)) hsettle.bench
              rw [Nat.add_assoc] at hrest
              exact hrest.bind fun rest hfound => hfound.after hsettle.trace _

/-- At every moment no counter has counted more than was found by then. -/
theorem tallied_moments (P : Session α ε) (hb : b.All (Cursor.Tallied layers N)) :
    List.Forall₂ (fun n b' => b'.All (Cursor.Tallied layers n)) (P.tallies S b N)
      (P.moments .full S b) := by
  induction P generalizing b N with
  | done => exact .cons hb .nil
  | act slot a next ih =>
      cases hc : b.cursors[slot]? with
      | none =>
          simp only [tallies, hc, moments_act_missing hc]
          exact .cons hb .nil
      | some c =>
          have hstep := Action.ends_tallied (S := S) a hb (hb.getElem? hc)
          cases hr : (a.scan b).run S c with
          | error =>
              have hrun : (Interpreter.full.step a b).run S c = .error _ := hr
              simp only [tallies, moments, hc, hr, hrun]
              exact .cons hb .nil
          | ok r =>
              obtain ⟨hcursor, hbench, -⟩ := hstep.of_eq_ok hr
              have hrun : (Interpreter.full.step a b).run S c = .ok r := hr
              have hrest := ih (r.value.1, r.cursor) (hbench.update slot hcursor)
              simp only [tallies, hc, hr, moments_act hc hrun]
              exact .cons hb hrest
  | trying slot reject body next ihb ihn =>
      cases hc : b.cursors[slot]? with
      | none =>
          simp only [tallies, hc, moments_trying_missing hc]
          exact .cons hb .nil
      | some c =>
          have hbody := ends_play_found (S := S) body hb
          cases hp : body.play .full S b with
          | error =>
              simp only [tallies, moments, hc, hp, List.append_nil]
              exact ihb hb
          | ok p =>
              have hsettle := (hbody.of_eq_ok hp).settle slot (hb.getElem? hc) reject
              simp only [tallies, hc, hp, moments_trying hc hp]
              exact List.rel_append (ihb hb) (ihn _ hsettle.bench)

end Session

end

end ScanCursor
