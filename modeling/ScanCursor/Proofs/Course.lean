import ScanCursor.Script.Basic

/-!
# ScanCursor.Proofs.Course

What a step comes to.  However a step is composed, what it does to its cursor is
one of a few things: so many reads in a row, one read that is taken back, a jump, a
recount, or a return.  `Action.course` reads off which of them it is, from the
source and from where the cursor is; `Action.run_course` says that the step leaves
the cursor where its course does, and tells what its course tells.

Behind it stand two equations for judged reads.  What a judge accepts is decided by
the source alone (`Source.accepted`), and then `readIf` and `readWhile` are as many
reads in a row (`run_readIf`, `run_readWhileWithin`), refused where these are refused
and, for `readWhile`, where there are more of them than it can count.  Expecting an item
is one read, taken back if it finds another (`run_expect`).
-/

namespace ScanCursor

variable {α ε σ : Type}

/-! ## what is ahead -/

namespace Word

/-- So many positions on, and no further than the largest one. -/
def onward (p : Word) (n : Nat) : Word := ofNatSat (p.toNat + n)

@[simp] theorem toNat_onward (p : Word) (n : Nat) :
    (onward p n).toNat = min (p.toNat + n) 18446744073709551615 :=
  toNat_ofNatSat _

@[simp] theorem onward_zero (p : Word) : onward p 0 = p := ofNatSat_toNat p

/-- Going on may be begun with one position. -/
theorem onward_succ (p : Word) (n : Nat) : onward p (n + 1) = onward (addSat p 1) n := by
  apply UInt64.toNat.inj
  simp only [toNat_onward, toNat_addSat, UInt64.toNat_one]
  omega

/-- Going on leads to no earlier position. -/
theorem le_onward (p : Word) (n : Nat) : p ≤ onward p n := by
  have hp := p.toNat_lt
  rw [UInt64.le_iff_toNat_le, toNat_onward]
  omega

end Word

namespace Source

variable (S : Source α)

/-- The items, or their absence, at so many positions from `p` on. -/
def ahead : Nat → Word → List (Option α)
  | 0, _ => []
  | n + 1, p => S.get? p :: ahead n (Word.addSat p 1)

/-- What is ahead, each at its distance from `p`. -/
theorem ahead_eq_map (n : Nat) (p : Word) :
    S.ahead n p = (List.range n).map fun i => S.get? (p.onward i) := by
  induction n generalizing p with
  | zero => rfl
  | succ n ih =>
      rw [ahead, ih, List.range_succ_eq_map, List.map_cons, List.map_map, Word.onward_zero]
      simp only [Function.comp_def, Nat.succ_eq_add_one, Word.onward_succ]

/-- How many items a judge accepts from `p`, one after the other, if it is shown no
more than so many. -/
def accepted (judge : Judge σ α) : Nat → σ → Word → Nat
  | 0, _, _ => 0
  | n + 1, memory, p =>
    match S.get? p with
    | none => 0
    | some x =>
      match judge memory x with
      | (true, memory') => 1 + accepted judge n memory' (Word.addSat p 1)
      | (false, _) => 0

/-- The judge's memory after that. -/
def remembered (judge : Judge σ α) : Nat → σ → Word → σ
  | 0, memory, _ => memory
  | n + 1, memory, p =>
    match S.get? p with
    | none => memory
    | some x =>
      match judge memory x with
      | (true, memory') => remembered judge n memory' (Word.addSat p 1)
      | (false, memory') => memory'

variable {S} {judge : Judge σ α} {n : Nat} {memory : σ} {p : Word} {x : α}

/-- Where there is no item nothing is accepted. -/
theorem accepted_absent (h : S.get? p = none) : S.accepted judge (n + 1) memory p = 0 := by
  rw [accepted, h]

/-- Where there is no item the judge is shown nothing. -/
theorem remembered_absent (h : S.get? p = none) :
    S.remembered judge (n + 1) memory p = memory := by
  rw [remembered, h]

/-- Where an item is refused nothing is accepted. -/
theorem accepted_refused (h : S.get? p = some x) (hx : (judge memory x).1 = false) :
    S.accepted judge (n + 1) memory p = 0 := by
  rcases hj : judge memory x with ⟨b, m⟩
  rw [hj] at hx
  cases hx
  simp only [accepted, h, hj]

/-- A judge remembers the item it refuses. -/
theorem remembered_refused (h : S.get? p = some x) (hx : (judge memory x).1 = false) :
    S.remembered judge (n + 1) memory p = (judge memory x).2 := by
  rcases hj : judge memory x with ⟨b, m⟩
  rw [hj] at hx
  cases hx
  simp only [remembered, h, hj]

/-- An item that is accepted is counted, and the judge goes on behind it. -/
theorem accepted_succ (h : S.get? p = some x) (hx : (judge memory x).1 = true) :
    S.accepted judge (n + 1) memory p =
      1 + S.accepted judge n (judge memory x).2 (Word.addSat p 1) := by
  rcases hj : judge memory x with ⟨b, m⟩
  rw [hj] at hx
  cases hx
  simp only [accepted, h, hj]

/-- A judge goes on with the memory of the item it has accepted. -/
theorem remembered_succ (h : S.get? p = some x) (hx : (judge memory x).1 = true) :
    S.remembered judge (n + 1) memory p =
      S.remembered judge n (judge memory x).2 (Word.addSat p 1) := by
  rcases hj : judge memory x with ⟨b, m⟩
  rw [hj] at hx
  cases hx
  simp only [remembered, h, hj]

/-- One item after the other, until one is absent or refused or there are no more rounds. -/
@[elab_as_elim]
theorem judged_induction (S : Source α) (judge : Judge σ α) {motive : Nat → σ → Word → Prop}
    (zero : ∀ {memory p}, motive 0 memory p)
    (absent : ∀ {n memory p}, S.get? p = none → motive (n + 1) memory p)
    (refused : ∀ {n memory p x}, S.get? p = some x → (judge memory x).1 = false →
      motive (n + 1) memory p)
    (accepted : ∀ {n memory p x}, S.get? p = some x → (judge memory x).1 = true →
      motive n (judge memory x).2 (Word.addSat p 1) → motive (n + 1) memory p)
    (n : Nat) (memory : σ) (p : Word) : motive n memory p := by
  induction n generalizing memory p with
  | zero => exact zero
  | succ n ih =>
      cases hx : S.get? p with
      | none => exact absent hx
      | some x =>
          cases hj : (judge memory x).1 with
          | false => exact refused hx hj
          | true => exact accepted hx hj (ih (judge memory x).2 (Word.addSat p 1))

/-- No more items are accepted than there are rounds. -/
theorem accepted_le (judge : Judge σ α) (n : Nat) (memory : σ) (p : Word) :
    S.accepted judge n memory p ≤ n := by
  induction n, memory, p using judged_induction S judge with
  | zero => exact Nat.le_refl 0
  | absent hx =>
      rw [accepted_absent hx]
      exact Nat.zero_le _
  | refused hx hj =>
      rw [accepted_refused hx hj]
      exact Nat.zero_le _
  | accepted hx hj ih =>
      rw [accepted_succ hx hj]
      omega

end Source

/-! ## refusals -/

/-- Counters refuse nothing but additions. -/
theorem Counter.eq_add_of_advance {k : Counter} {b : Bool} {o : Overflow}
    (h : k.advance b = .error o) : o = .add := by
  rw [advance, map_eq_error_iff] at h
  cases b with
  | true => exact (Word.succ_eq_error_iff.1 (map_eq_error_iff.1 h)).2
  | false => exact (Word.succ_eq_error_iff.1 (map_eq_error_iff.1 h)).2

/-- Nor do counters that advance together. -/
theorem Cursor.eq_add_of_advanceAll {b : Bool} {ks : List Counter} {o : Overflow}
    (h : advanceAll b ks = .error o) : o = .add := by
  induction ks with
  | nil => cases h
  | cons k ks ih =>
      rw [advanceAll, bind_eq_error_iff] at h
      rcases h with h | ⟨k', -, h⟩
      · exact Counter.eq_add_of_advance h
      · rcases bind_eq_error_iff.1 h with h | ⟨ks', -, h⟩
        · exact ih h
        · cases h

/-- Nor do reads. -/
theorem Cursor.eq_add_of_read [Item α] {S : Source α} {c : Cursor} {o : Overflow}
    (h : c.read S = .error o) : o = .add := by
  unfold read at h
  split at h
  · cases h
  · rcases bind_eq_error_iff.1 h with h | ⟨ks, -, h⟩
    · exact eq_add_of_advanceAll h
    · cases h

/-! ## reads in a row -/

namespace Scan

variable [Item α] {S : Source α} {c : Cursor} {n : Nat}

/-- Nor do reads that are told. -/
theorem eq_add_of_read {o : Overflow} (h : (read : Scan α (Option α)).run S c = .error o) :
    o = .add :=
  Cursor.eq_add_of_read (map_eq_error_iff.1 h)

/-- One read and the others, each part at its own cursor. -/
theorem run_readTimes_succ_eq_ok_iff {t : Scanned α (List (Option α))} :
    (readTimes (n + 1)).run S c = .ok t ↔
      ∃ d u, c.read S = .ok (S.get? c.position, d) ∧ (readTimes n).run S d = .ok u ∧
        t = ⟨S.get? c.position :: u.value, u.cursor,
          d.readEvents (S.get? c.position) ++ u.trace⟩ := by
  rw [readTimes_succ, run_bind_eq_ok_iff]
  constructor
  · rintro ⟨⟨x, d, es⟩, v, hr, hv, rfl⟩
    obtain ⟨hread, htrace⟩ := run_read_eq_ok_iff.1 hr
    obtain ⟨u, hu, rfl⟩ := run_map_eq_ok_iff.1 hv
    have hx : x = S.get? c.position := (Cursor.read_eq_ok_iff.1 hread).1
    simp only at hread htrace hu ⊢
    subst hx
    subst htrace
    exact ⟨d, u, hread, hu, rfl⟩
  · rintro ⟨d, u, hread, hu, rfl⟩
    exact ⟨⟨_, d, _⟩, _, run_read_eq_ok_iff.2 ⟨hread, rfl⟩, run_map_eq_ok_iff.2 ⟨u, hu, rfl⟩, rfl⟩

/-- Reads in a row find what is ahead, whatever the counters are. -/
theorem value_of_readTimes {t : Scanned α (List (Option α))}
    (h : (readTimes n).run S c = .ok t) : t.value = S.ahead n c.position := by
  induction n generalizing c t with
  | zero =>
      rw [readTimes_zero] at h
      cases h
      rfl
  | succ n ih =>
      obtain ⟨d, u, hread, hu, rfl⟩ := run_readTimes_succ_eq_ok_iff.1 h
      have hposition := (Cursor.read_eq_ok_iff.1 hread).2.1
      rw [Source.ahead, ← hposition, ← ih hu]

/-- Reads in a row go on by as many positions. -/
theorem position_of_readTimes {t : Scanned α (List (Option α))}
    (h : (readTimes n).run S c = .ok t) : t.cursor.position = c.position.onward n := by
  induction n generalizing c t with
  | zero =>
      rw [readTimes_zero] at h
      cases h
      exact (Word.onward_zero c.position).symm
  | succ n ih =>
      obtain ⟨d, u, hread, hu, rfl⟩ := run_readTimes_succ_eq_ok_iff.1 h
      have hposition := (Cursor.read_eq_ok_iff.1 hread).2.1
      have hrest := ih hu
      rw [hposition] at hrest
      rw [Word.onward_succ]
      exact hrest

/-! ## judged reads -/

variable {judge : Judge σ α} {memory : σ}

/-- One read, if the judge accepts what is there. -/
theorem run_readIf (judge : Judge σ α) (memory : σ) (S : Source α) (c : Cursor) :
    (readIf judge memory).run S c =
      ((readTimes (S.accepted judge 1 memory c.position)).run S c).map fun t =>
        ⟨(t.value.head?.join, S.remembered judge 1 memory c.position), t.cursor, t.trace⟩ := by
  cases hx : c.peek S with
  | none =>
      rw [run_readIf_absent hx, Source.accepted_absent hx, Source.remembered_absent hx,
        readTimes_zero]
      rfl
  | some x =>
      cases hj : (judge memory x).1 with
      | false =>
          rw [run_readIf_refused hx hj, Source.accepted_refused hx hj,
            Source.remembered_refused hx hj, readTimes_zero]
          rfl
      | true =>
          rw [run_readIf_accepted hx hj, Source.accepted_succ hx hj, Source.remembered_succ hx hj,
            Source.accepted, Source.remembered, readTimes_succ, readTimes_zero]
          simp only [run_bind]
          cases read.run S c <;> simp [Except.map]

/-- As many reads as the judge accepts items; more than there are rounds are refused
after the last round. -/
theorem run_readWhileWithin (judge : Judge σ α) (rounds : Nat) (memory : σ) (S : Source α)
    (c : Cursor) :
    (readWhileWithin judge rounds memory).run S c =
      if S.accepted judge rounds memory c.position < rounds then
        ((readTimes (S.accepted judge rounds memory c.position)).run S c).map fun t =>
          ⟨(S.accepted judge rounds memory c.position, S.remembered judge rounds memory c.position),
            t.cursor, t.trace⟩
      else .error .add := by
  induction rounds generalizing memory c with
  | zero => rw [readWhileWithin_zero, if_neg (Nat.not_lt_zero _), run_overflow]
  | succ rounds ih =>
      rw [readWhileWithin_succ]
      cases hx : c.peek S with
      | none =>
          rw [Source.accepted_absent hx, Source.remembered_absent hx, readTimes_zero, run_bind,
            run_readIf_absent hx, if_pos (Nat.succ_pos rounds)]
          rfl
      | some x =>
          cases hj : (judge memory x).1 with
          | false =>
              rw [Source.accepted_refused hx hj, Source.remembered_refused hx hj, readTimes_zero,
                run_bind, run_readIf_refused hx hj, if_pos (Nat.succ_pos rounds)]
              rfl
          | true =>
              rw [Source.accepted_succ hx hj, Source.remembered_succ hx hj, Nat.add_comm 1,
                readTimes_succ, run_bind, run_bind, run_readIf_accepted hx hj]
              cases hr : (read : Scan α (Option α)).run S c with
              | error o =>
                  have ho := eq_add_of_read hr
                  subst ho
                  simp only [Except.map, ite_self]
              | ok r =>
                  -- The other rounds start one position on, with the judge's new memory.
                  obtain ⟨hvalue, hposition, -⟩ :=
                    Cursor.read_eq_ok_iff.1 (run_read_eq_ok_iff.1 hr).1
                  rw [hx] at hvalue
                  simp only [Except.map, hvalue, run_map, ih, hposition, Nat.add_lt_add_iff_right]
                  by_cases hlt :
                      S.accepted judge rounds (judge memory x).2 (Word.addSat c.position 1) < rounds
                  · simp only [if_pos hlt]
                    cases (readTimes _).run S r.cursor <;> simp [Prod.map, Nat.add_comm]
                  · simp only [if_neg hlt]

/-- `readWhile` is as many reads as the judge accepts items, if a word can count them and
the reads are not refused. -/
theorem run_readWhile_eq_ok_iff {t : Scanned α (Nat × σ)} :
    (readWhile judge memory).run S c = .ok t ↔
      S.accepted judge (Word.top.toNat + 1) memory c.position ≤ Word.top.toNat ∧
        ∃ u, (readTimes (S.accepted judge (Word.top.toNat + 1) memory c.position)).run S c = .ok u ∧
          t = ⟨(S.accepted judge (Word.top.toNat + 1) memory c.position,
            S.remembered judge (Word.top.toNat + 1) memory c.position), u.cursor, u.trace⟩ := by
  rw [readWhile, run_readWhileWithin, ← Nat.lt_succ_iff]
  split
  · next hlt =>
    rw [map_eq_ok_iff]
    constructor
    · rintro ⟨u, hu, rfl⟩
      exact ⟨hlt, u, hu, rfl⟩
    · rintro ⟨-, u, hu, rfl⟩
      exact ⟨u, hu, rfl⟩
  · next hlt => simp [hlt]

end Scan

/-- The items of a list as those that were shown, the latest first. -/
def Shown.ofList (xs : List α) : Shown α where
  items := xs
  count := xs.length

/-! ## courses -/

/-- What a step does to its cursor. -/
inductive Course where
  /-- So many reads in a row. -/
  | reads (n : Nat)
  /-- A read that is taken back. -/
  | attempt
  | jump (p : Word)
  | recount
  /-- Back to an earlier cursor. -/
  | back (k : Cursor)

section

variable [Item α] (S : Source α) (c : Cursor) (es : Trace α) (d : Cursor)

/-- The course leads from `c` to `d`, and tells `es`. -/
def Course.Leads : Course → Prop
  | reads n => ∃ xs, (Scan.readTimes n).run S c = .ok ⟨xs, d, es⟩
  | attempt =>
    ∃ e, c.read S = .ok (S.get? c.position, e) ∧ d = c ∧
      es = e.readEvents (S.get? c.position) ++ e.restoreEvents c
  | jump p => d = c.jump p ∧ es = []
  | recount => d = c.recount ∧ es = []
  | back k => d = k ∧ es = c.restoreEvents k

end

section

variable [Item α] {S : Source α} {b : Bench} {c : Cursor}

/-- No read leaves the cursor where it is and tells nothing. -/
theorem Course.leads_reads_zero (S : Source α) (c : Cursor) : (reads 0).Leads S c [] c :=
  ⟨[], by rw [Scan.readTimes_zero]; rfl⟩

/-- A read is a row of one. -/
theorem Course.leads_reads_one {t : Scanned α (Option α)} (ht : Scan.read.run S c = .ok t) :
    (reads 1).Leads S c t.trace t.cursor := by
  refine ⟨[t.value], ?_⟩
  rw [Scan.readTimes_succ, Scan.readTimes_zero, Scan.run_bind, ht]
  simp

/-- A read that is taken back tells of itself and of the way back. -/
theorem Course.leads_attempt {t : Scanned α (Option α)} (ht : Scan.read.run S c = .ok t) :
    attempt.Leads S c (t.trace ++ t.cursor.restoreEvents c) c := by
  obtain ⟨hread, htrace⟩ := Scan.run_read_eq_ok_iff.1 ht
  have hvalue : t.value = S.get? c.position := (Cursor.read_eq_ok_iff.1 hread).1
  rw [hvalue] at hread htrace
  exact ⟨t.cursor, hread, rfl, by rw [htrace]⟩

variable [DecidableEq α]

/-- The course that a step takes from `c`. -/
def Action.course (S : Source α) (b : Bench) (c : Cursor) : Action α ε → Course
  | .read | .readOr _ _ => .reads 1
  | .readTimes n => .reads n
  | .readIf passes => .reads (S.accepted (Judge.recalling passes) 1 (.ofList []) c.position)
  | .readWhile passes =>
    .reads (S.accepted (Judge.recalling passes) (Word.top.toNat + 1) (.ofList []) c.position)
  | .expect wanted => if S.get? c.position = some wanted then .reads 1 else .attempt
  | .jump p => .jump p
  | .recount => .recount
  | .restore index =>
    match b.checkpoints[index]? with
    | none => .reads 0
    | some k => .back k
  | .peek | .peekOr _ _ | .peekNth _ | .atEnd | .remaining | .lookup _ | .spanFrom _ | .inner
  | .clone | .checkpoint => .reads 0

/-- Expecting an item is trying to read it, and saying what was found. -/
theorem Scan.run_expect (wanted : α) (S : Source α) (c : Cursor) :
    (Scan.expect wanted).run S c =
      ((Scan.rewindIf (fun found => found ≠ some wanted) Scan.read).run S c).map fun t =>
        ⟨if t.value = some wanted then .ok wanted else .error (mismatch c.location wanted t.value),
          t.cursor, t.trace⟩ := by
  rw [expect_eq, Scan.location, run_bind, run_look]
  simp only [bind_pure_comp, run_map]
  cases (rewindIf _ _).run S c <;> simp [Except.map]

/-- The wanted item is expected where it is, and complained about where it is not. -/
theorem Scan.value_of_expect {wanted : α} {t : Scanned α (Except Diagnostic α)}
    (ht : (Scan.expect wanted).run S c = .ok t) :
    t.value = if S.get? c.position = some wanted then .ok wanted
      else .error (Scan.mismatch c.location wanted (S.get? c.position)) := by
  rw [run_expect, map_eq_ok_iff] at ht
  obtain ⟨u, hu, rfl⟩ := ht
  obtain ⟨d, hread, -⟩ := yields_rewindIf_iff.1 (yields_of_run hu)
  have hvalue : u.value = S.get? c.position := (Cursor.read_eq_ok_iff.1 (yields_read_iff.1 hread)).1
  simp only [hvalue]

/-- Trying to read a wanted item is a read that finds it, or one that is taken back. -/
theorem Course.leads_wanted {wanted : α} {t : Scanned α (Option α)}
    (ht : (Scan.rewindIf (fun found => found ≠ some wanted) Scan.read).run S c = .ok t) :
    (if S.get? c.position = some wanted then reads 1 else attempt).Leads S c t.trace t.cursor := by
  rw [Scan.run_rewindIf] at ht
  cases hr : (Scan.read : Scan α (Option α)).run S c with
  | error => rw [hr] at ht; cases ht
  | ok r =>
      have hvalue : r.value = S.get? c.position :=
        (Cursor.read_eq_ok_iff.1 (Scan.run_read_eq_ok_iff.1 hr).1).1
      rw [hr] at ht
      cases ht
      by_cases hfound : S.get? c.position = some wanted
      · simpa [hvalue, hfound] using leads_reads_one hr
      · simpa [hvalue, hfound] using leads_attempt hr

/-- An item that is expected is read, or read and given back. -/
theorem Course.leads_expect {wanted : α} {t : Scanned α (Except Diagnostic α)}
    (ht : (Scan.expect wanted).run S c = .ok t) :
    (if S.get? c.position = some wanted then reads 1 else attempt).Leads S c t.trace t.cursor := by
  rw [Scan.run_expect, map_eq_ok_iff] at ht
  obtain ⟨u, hu, rfl⟩ := ht
  exact leads_wanted hu

/-- A step leaves the cursor where its course leads, and tells what its course tells. -/
theorem Action.run_course {a : Action α ε} {r : Scanned α (Reply α ε × Bench)}
    (h : (a.scan b).run S c = .ok r) : (a.course S b c).Leads S c r.trace r.cursor := by
  cases a with
  | peek | peekOr | peekNth | atEnd | remaining | lookup | spanFrom | inner | clone | checkpoint =>
      cases h
      exact Course.leads_reads_zero S c
  | jump | recount =>
      cases h
      exact ⟨rfl, rfl⟩
  | restore index =>
      simp only [scan, course] at h ⊢
      cases hk : b.checkpoints[index]? with
      | none =>
          rw [hk] at h
          cases h
          exact Course.leads_reads_zero S c
      | some k =>
          rw [hk] at h
          cases h
          exact ⟨rfl, List.append_nil _⟩
  | read =>
      rw [scan, bind_pure_comp, Scan.run_map_eq_ok_iff] at h
      obtain ⟨t, ht, rfl⟩ := h
      exact Course.leads_reads_one ht
  | readOr into eof =>
      rw [scan, bind_pure_comp, Scan.run_map_eq_ok_iff] at h
      obtain ⟨t, ht, rfl⟩ := h
      rw [Scan.readOr, bind_pure_comp, Scan.run_map_eq_ok_iff] at ht
      obtain ⟨u, hu, rfl⟩ := ht
      exact Course.leads_reads_one hu
  | readTimes n =>
      rw [scan, bind_pure_comp, Scan.run_map_eq_ok_iff] at h
      obtain ⟨t, ht, rfl⟩ := h
      exact ⟨t.value, ht⟩
  | readIf passes =>
      simp only [scan, bind_pure_comp] at h
      obtain ⟨t, ht, rfl⟩ := Scan.run_map_eq_ok_iff.1 h
      rw [Scan.run_readIf, map_eq_ok_iff] at ht
      obtain ⟨u, hu, rfl⟩ := ht
      exact ⟨u.value, hu⟩
  | readWhile passes =>
      simp only [scan, bind_pure_comp] at h
      obtain ⟨t, ht, rfl⟩ := Scan.run_map_eq_ok_iff.1 h
      obtain ⟨-, u, hu, rfl⟩ := Scan.run_readWhile_eq_ok_iff.1 ht
      exact ⟨u.value, hu⟩
  | expect wanted =>
      rw [scan, bind_pure_comp, Scan.run_map_eq_ok_iff] at h
      obtain ⟨t, ht, rfl⟩ := h
      exact Course.leads_expect ht

end

end ScanCursor
