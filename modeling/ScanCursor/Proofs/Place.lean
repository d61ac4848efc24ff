import ScanCursor.Proofs.Invariant
import ScanCursor.Proofs.Stretch

/-!
# ScanCursor.Proofs.Place

The location is a function of the position.  A cursor that was made fresh at
`s`, and was since then moved by scanning alone, shows the row and the column
that are counted over the stretch from `s` to where it is, whatever was tried
and taken back in between (`Session.located_of_play`).
-/

namespace ScanCursor

variable {S : Source Char} {s p p' : Word}

/-- Row and column as counted over the stretch from `s` to `p`. -/
structure Location.Counts (S : Source Char) (s p : Word) (l : Location) : Prop where
  row : l.row.toNat = S.rows s p
  column : l.column.toNat = S.columns s p

/-- The counter of a cursor that has come from `s` to `p`: the next item is where
the counts are, the latest one where they were at the last item of the stretch. -/
structure Counter.Counts (S : Source Char) (s p : Word) (k : Counter) : Prop where
  next : k.next.Counts S s p
  last_none : S.latest s p = none → k.last = none
  last_some : ∀ q, S.latest s p = some q → ∃ l, k.last = some l ∧ l.Counts S s q

/-- The cursor has one counter, which has come from `s` to the cursor's position. -/
structure Cursor.Located (S : Source Char) (s : Word) (c : Cursor) : Prop where
  start_le : s ≤ c.position
  counts : ∃ k, c.counters = [k] ∧ k.Counts S s c.position

/-- With a fresh counter a cursor is located from where it stands. -/
theorem Cursor.located_fresh (S : Source Char) (s : Word) :
    (startingAt s).withCounter.Located S s where
  start_le := UInt64.le_refl s
  counts := by
    refine ⟨{}, rfl, ⟨?_, ?_⟩, fun _ => rfl, fun q hq => ?_⟩
    · rw [startingAt, withCounter, Source.rows_self]
      rfl
    · rw [startingAt, withCounter, Source.columns_self]
      rfl
    · rw [startingAt, withCounter, Source.latest_self] at hq
      cases hq

/-! ## one position further -/

namespace Counter.Counts

variable {k : Counter}

/-- A position without an item changes nothing. -/
theorem skip (hk : k.Counts S s p) (hsp : s ≤ p) (hp : p'.toNat = p.toNat + 1)
    (hx : S.get? p = none) : k.Counts S s p' := by
  have hne : S.get? p ≠ some '\n' := by simp [hx]
  have hrows := Source.rows_succ hsp hp hne
  have hcolumns : S.columns s p' = S.columns s p := by simp [Source.columns_succ hsp hp hne, hx]
  have hlatest : S.latest s p' = S.latest s p := by simp [Source.latest_succ hsp hp, hx]
  refine ⟨⟨?_, ?_⟩, ?_, ?_⟩
  · rw [hrows, hk.next.row]
  · rw [hcolumns, hk.next.column]
  · rw [hlatest]
    exact hk.last_none
  · rw [hlatest]
    exact hk.last_some

/-- There is room for one more item, and the counter that has seen it has come to
the next position. -/
theorem advance (hk : k.Counts S s p) (hsp : s ≤ p) (hp : p'.toNat = p.toNat + 1) {x : Char}
    (hx : S.get? p = some x) :
    ∃ k', k.advance (Item.endsLine x) = .ok k' ∧ k'.Counts S s p' := by
  have hroom := Word.toNat_le_top p'
  have hrow : k.next.row.toNat ≤ p.toNat := by
    have := S.rows_le s p
    have := hk.next.row
    omega
  have hcolumn : k.next.column.toNat ≤ p.toNat := by
    have := S.columns_le s p
    have := hk.next.column
    omega
  have hlatest : S.latest s p' = some p := by simp [Source.latest_succ hsp hp, hx]
  -- Whatever the item is, the counter was at the counts of its position.
  have hlast (l : Location) (hl : l.Counts S s p') : Counter.Counts S s p' ⟨l, some k.next⟩ := by
    refine ⟨hl, fun hnone => ?_, fun q hq => ?_⟩
    · rw [hlatest] at hnone
      cases hnone
    · rw [hlatest] at hq
      cases hq
      exact ⟨k.next, rfl, hk.next⟩
  by_cases hfeed : x = '\n'
  · obtain ⟨l, hl⟩ := Location.exists_nextRow (l := k.next) (by omega)
    obtain ⟨hrow', hcolumn'⟩ := Location.nextRow_eq_ok_iff.1 hl
    refine ⟨⟨l, some k.next⟩, ?_, hlast l ⟨?_, ?_⟩⟩
    · rw [Counter.advance_eq_ok_iff, Counter.move, if_pos (endsLine_iff.2 hfeed)]
      exact ⟨hl, rfl⟩
    · rw [hrow', hk.next.row, Source.rows_succ_of_feed hsp hp (by rw [hx, hfeed])]
    · rw [hcolumn', Source.columns_succ_of_feed hsp hp (by rw [hx, hfeed])]
      rfl
  · obtain ⟨l, hl⟩ := Location.exists_nextColumn (l := k.next) (by omega)
    obtain ⟨hrow', hcolumn'⟩ := Location.nextColumn_eq_ok_iff.1 hl
    have hne : S.get? p ≠ some '\n' := by simp [hx, hfeed]
    refine ⟨⟨l, some k.next⟩, ?_, hlast l ⟨?_, ?_⟩⟩
    · rw [Counter.advance_eq_ok_iff, Counter.move, if_neg fun h => hfeed (endsLine_iff.1 h)]
      exact ⟨hl, rfl⟩
    · rw [hrow', hk.next.row, Source.rows_succ hsp hp hne]
    · rw [hcolumn', hk.next.column, Source.columns_succ hsp hp hne, if_pos (by rw [hx]; rfl)]

end Counter.Counts

/-- A read is not refused, and leaves the cursor where the counts say. -/
theorem Cursor.Located.read (htop : S.get? Word.top = none) {c : Cursor} (hc : c.Located S s) :
    ∃ x c', c.read S = .ok (x, c') ∧ c'.Located S s := by
  obtain ⟨p, ks⟩ := c
  obtain ⟨hsp, k, hk, hcounts⟩ := hc
  change s ≤ p at hsp
  change ks = [k] at hk
  change k.Counts S s p at hcounts
  obtain ⟨p', hp'⟩ : ∃ p', Word.addSat p 1 = p' := ⟨_, rfl⟩
  have hle : s ≤ p' := by
    rw [← hp']
    exact UInt64.le_trans hsp (Word.le_addSat p 1)
  subst hk
  by_cases hend : p = Word.top
  · subst hend
    rw [Word.addSat_top] at hp'
    subst hp'
    refine ⟨none, ⟨Word.top, [k]⟩, Cursor.read_eq_ok_iff.2 ?_, hsp, k, rfl, hcounts⟩
    simp only [Cursor.peek, htop, Word.addSat_top, and_self]
  · have hp := Word.toNat_addSat_one hend
    rw [hp'] at hp
    cases hx : S.get? p with
    | none =>
        refine ⟨none, ⟨p', [k]⟩, Cursor.read_eq_ok_iff.2 ?_, hle, k, rfl, hcounts.skip hsp hp hx⟩
        simp only [Cursor.peek, hx, hp', and_self]
    | some x =>
        obtain ⟨k', hadvance, hcounts'⟩ := hcounts.advance hsp hp hx
        refine ⟨some x, ⟨p', [k']⟩, Cursor.read_eq_ok_iff.2 ?_, hle, k', rfl, hcounts'⟩
        simp only [Cursor.peek, hx, hp', true_and]
        exact Cursor.advanceAll_cons_eq_ok_iff.2 ⟨k', [], hadvance, rfl, rfl⟩

/-- A read keeps a cursor located, and if nothing is at the largest position it is not
refused. -/
theorem Scan.keeps_located (htop : S.get? Word.top = none) :
    Keeps S False (Cursor.Located S s) (read : Scan Char (Option Char)) :=
  keeps_of_exists_read fun _ hc => hc.read htop

/-! ## scanning -/

/-- A step that moves the cursor by reading or by going back, and no other way. -/
def Action.IsScan {α ε : Type} : Action α ε → Prop
  | .jump _ | .recount => False
  | _ => True

/-- Scanning from a fresh cursor is never refused where the largest position is
empty.  At every moment every cursor and every checkpoint is where counting from
`s` says. -/
theorem Session.located_of_play {ε : Type} (htop : S.get? Word.top = none) (s : Word)
    {P : Session Char ε} (hP : P.Only Action.IsScan) :
    (∃ p, P.play .full S (.single (Cursor.startingAt s).withCounter) = .ok p ∧
      p.bench.All (Cursor.Located S s)) ∧
    ∀ b ∈ P.moments .full S (.single (Cursor.startingAt s).withCounter),
      b.All (Cursor.Located S s) := by
  have hstep : ∀ a : Action Char ε, a.IsScan → ∀ b : Bench, b.All (Cursor.Located S s) → ∀ c,
      c.Located S s →
        Ends False (fun r => r.cursor.Located S s ∧ r.value.2.All (Cursor.Located S s))
          ((Interpreter.full.step a b).run S c) := by
    intro a ha b hb c hc
    refine Action.ends_scan (Action.keeps (Scan.keeps_located htop) (.inr htop) hb a ?_ ?_) hb hc
    · rintro p rfl
      exact ha.elim
    · rintro rfl
      exact ha.elim
  have hfresh := Bench.All.single (Cursor.located_fresh S s)
  exact ⟨(ends_play hstep hP hfresh).exists_ok, all_moments hstep hP hfresh⟩

/-- A copy reads on in a body that is taken back, and leaves a checkpoint to which
the first cursor goes. -/
def Session.overtake : Session Char Char :=
  act 0 .read fun _ => act 0 .clone fun _ =>
    trying 1 (fun _ => true)
      (act 1 (.readTimes 3) fun _ => act 1 .checkpoint fun _ => done) fun _ =>
      act 0 (.restore 0) fun _ => done

/-- The first cursor ends behind the gap, at the copy's checkpoint, and the copy where it
was made; the whole bench is located. -/
theorem Session.located_of_play_overtake :
    overtake.Only Action.IsScan ∧
    (overtake.play .full (Source.ofCells [(0, 'a'), (1, '\n'), (3, 'b')] 2)
      (.single (Cursor.startingAt 0).withCounter)).toOption.map
        (fun p => p.bench.cursors.map Cursor.position) = some #[4, 1] ∧
    ∃ p, overtake.play .full (Source.ofCells [(0, 'a'), (1, '\n'), (3, 'b')] 2)
        (.single (Cursor.startingAt 0).withCounter) = .ok p ∧
      p.bench.All (Cursor.Located (Source.ofCells [(0, 'a'), (1, '\n'), (3, 'b')] 2) 0) := by
  have hscan : overtake.Only Action.IsScan := by simp [overtake, Only, Action.IsScan]
  have htop : (Source.ofCells [(0, 'a'), (1, '\n'), (3, 'b')] 2).get? Word.top = none := by decide
  exact ⟨hscan, by decide +kernel, (located_of_play htop 0 hscan).1⟩

end ScanCursor
