import ScanCursor.Proofs.Ending
import ScanCursor.Proofs.Session

/-!
# ScanCursor.Proofs.Lookahead

Looking ahead foretells what reading will find.

Looking goes so many positions on in one addition, reading one position at a time; both
are held at the largest position, and come to the same place (`Word.addSat_eq_onward`,
`Word.onward_onward`).  So the reads of a copy answer what the cursor itself sees when it
looks as far, whether items are there or not; and a copy that has read so many sees from
where it stands what the cursor sees that much further on (`Session.reads_foretold`).
-/

namespace ScanCursor

variable {α ε : Type}

/-! ## places ahead -/

namespace Word

/-- A saturating sum is so many positions onward. -/
theorem addSat_eq_onward (p n : Word) : addSat p n = p.onward n.toNat := by
  apply UInt64.toNat.inj
  rw [toNat_addSat, toNat_onward]

/-- Going on and going on once more is going on by as much as both. -/
theorem onward_onward (p : Word) (m n : Nat) : (p.onward m).onward n = p.onward (m + n) := by
  apply UInt64.toNat.inj
  simp only [toNat_onward]
  omega

end Word

/-- Looking ahead by `n` is looking at the position `n` further on. -/
theorem Cursor.peekNth_eq_onward (S : Source α) (c : Cursor) (n : Word) :
    c.peekNth S n = S.get? (c.position.onward n.toNat) := by
  rw [peekNth, Word.addSat_eq_onward]

/-! ## reads in two parts -/

namespace Scan

variable [Item α] {S : Source α} {c d : Cursor} {xs : List (Option α)} {m n : Nat}

/-- The first reads and the others are all the reads. -/
theorem readTimes_add (m n : Nat) :
    readTimes (m + n) = (do
      let xs ← readTimes m
      (xs ++ ·) <$> readTimes n : Scan α (List (Option α))) := by
  induction m with
  | zero => simp
  | succ m ih =>
      rw [Nat.succ_add, readTimes_succ, readTimes_succ, ih]
      simp only [map_bind, bind_map_left, bind_assoc, ← comp_map]
      rfl

/-- Reads in a row answer what is ahead. -/
theorem eq_ahead_of_readTimes (h : (readTimes n).Yields S c xs d) :
    xs = S.ahead n c.position := by
  obtain ⟨es, hrun⟩ := h
  exact value_of_readTimes hrun

/-- Reads in a row lead as many positions onward. -/
theorem eq_onward_of_readTimes (h : (readTimes n).Yields S c xs d) :
    d.position = c.position.onward n := by
  obtain ⟨es, hrun⟩ := h
  exact position_of_readTimes hrun

theorem length_of_readTimes (h : (readTimes n).Yields S c xs d) : xs.length = n := by
  rw [eq_ahead_of_readTimes h, Source.ahead_eq_map, List.length_map, List.length_range]

/-- A part of the reads can be made alone. -/
theorem exists_readTimes_take (h : (readTimes n).Yields S c xs d) (hm : m ≤ n) :
    ∃ e, (readTimes m).Yields S c (xs.take m) e ∧
      (readTimes (n - m)).Yields S e (xs.drop m) d := by
  rw [← Nat.add_sub_of_le hm, readTimes_add] at h
  obtain ⟨ys, e, hys, hrest⟩ := yields_bind_iff.1 h
  obtain ⟨zs, hzs, rfl⟩ := yields_map_iff.1 hrest
  have hlength := length_of_readTimes hys
  refine ⟨e, ?_, ?_⟩
  · rw [List.take_left' hlength]
    exact hys
  · rw [List.drop_left' hlength]
    exact hzs

end Scan

/-! ## ahead of a cursor -/

namespace Session

section

variable {I : Interpreter α ε} {S : Source α} {b : Bench} {slot : Nat} {c : Cursor}
  {a : Action α ε} {next : Record α ε → Session α ε} {r : Scanned α (Reply α ε × Bench)}
  {records : List (Record α ε)}

/-- A step is recorded before what follows it. -/
theorem exists_play_act (hc : b.cursors[slot]? = some c) (hr : (I.step a b).run S c = .ok r)
    (hrest : ∃ p, (next (r.value.1, I.shown r.cursor)).play I S
      (r.value.2.update slot r.cursor) = .ok p ∧ p.records = records) :
    ∃ p, (act slot a next).play I S b = .ok p ∧
      p.records = (r.value.1, I.shown r.cursor) :: records := by
  obtain ⟨p, hp, rfl⟩ := hrest
  exact ⟨_, (play_act_eq_ok_iff hc).2 ⟨r, p, hr, hp, rfl⟩, rfl⟩

end

variable [DecidableEq α] [Item α] {S : Source α} {b : Bench} {c d e : Cursor} {slot : Nat}
  {xs : List (Option α)}

/-- A cursor is copied, and the copy reads `m` items; then both look ahead, the copy by
`i` and the cursor by `j`. -/
def scouting (slot copy m : Nat) (i j : Word) : Session α ε :=
  .act slot .clone fun _ => .act copy (.readTimes m) fun _ => .act copy (.peekNth i) fun _ =>
    .act slot (.peekNth j) fun _ => .done

/-- What the copy reads, it reads from where the cursor stands, and the cursor stays. -/
theorem exists_play_scouting {m : Nat} (hc : b.cursors[slot]? = some c)
    (hreads : (Scan.readTimes m).Yields S c xs e) (i j : Word) :
    ∃ p, (scouting (ε := ε) slot b.cursors.size m i j).play .full S b = .ok p ∧
      p.records = [(.cursor b.cursors.size, c), (.items xs, e), (.item (e.peekNth S i), e),
        (.item (c.peekNth S j), c)] := by
  obtain ⟨es, hrun⟩ := hreads
  have hslot : slot < b.cursors.size := (Array.getElem?_eq_some_iff.1 hc).1
  have hcopied : (b.addCursor c).update slot c = b.addCursor c := by
    rw [← Bench.addCursor_update hslot, Bench.update_self hc]
  have hnew : (b.addCursor c).cursors[b.cursors.size]? = some c := by simp [Bench.addCursor]
  have hcopy : ((b.addCursor c).update b.cursors.size e).cursors[b.cursors.size]? = some e :=
    Bench.getElem?_update_self (by simp) e
  have hold : ((b.addCursor c).update b.cursors.size e).cursors[slot]? = some c := by
    simpa [Bench.update, Bench.addCursor, Array.getElem?_push, Array.getElem?_setIfInBounds,
      Nat.ne_of_lt hslot, (Nat.ne_of_lt hslot).symm] using hc
  refine exists_play_act (r := ⟨(.cursor b.cursors.size, b.addCursor c), c, []⟩) hc rfl ?_
  rw [hcopied]
  refine exists_play_act (r := ⟨(.items xs, b.addCursor c), e, es ++ []⟩) hnew ?_ ?_
  · change ((Action.readTimes m).scan (b.addCursor c)).run S c = _
    rw [Action.scan, Scan.run_bind, hrun]
    rfl
  refine exists_play_act (r := ⟨(.item (e.peekNth S i), _), e, []⟩) hcopy rfl ?_
  rw [Bench.update_update]
  exact exists_play_act (r := ⟨(.item (c.peekNth S j), _), c, []⟩) hold rfl ⟨_, rfl, rfl⟩

/-- What a copy of a cursor reads is what the cursor sees ahead of it, item after item,
whether something is there or not; so the copy goes on by as many positions, no further
than the largest one.  After any number of these reads the copy sees ahead what the cursor
sees that much further on, which still stands where it stood. -/
theorem reads_foretold {n : Nat} (hc : b.cursors[slot]? = some c)
    (hreads : (Scan.readTimes (n + 1)).Yields S c xs d) :
    xs = (List.range (n + 1)).map (fun i => S.get? (c.position.onward i)) ∧
    (∀ i : Word, i.toNat ≤ n → xs[i.toNat]? = some (c.peekNth S i)) ∧
    (∀ i : Word, c.peekNth S i = S.get? (c.position.onward i.toNat)) ∧
    c.peekNth S 0 = c.peek S ∧ d.position = c.position.onward (n + 1) ∧
    ∀ m ≤ n + 1, ∃ e, (Scan.readTimes m).Yields S c (xs.take m) e ∧
      (Scan.readTimes (n + 1 - m)).Yields S e (xs.drop m) d ∧
      (∀ i j : Word, j.toNat = m + i.toNat → e.peekNth S i = c.peekNth S j) ∧
      ∀ i j : Word, ∃ p, (scouting (ε := ε) slot b.cursors.size m i j).play .full S b = .ok p ∧
        p.records = [(.cursor b.cursors.size, c), (.items (xs.take m), e),
          (.item (e.peekNth S i), e), (.item (c.peekNth S j), c)] := by
  have hxs : xs = (List.range (n + 1)).map (fun i => S.get? (c.position.onward i)) := by
    rw [Scan.eq_ahead_of_readTimes hreads, Source.ahead_eq_map]
  refine ⟨hxs, fun i hi => ?_, c.peekNth_eq_onward S, c.peekNth_zero S,
    Scan.eq_onward_of_readTimes hreads, fun m hm => ?_⟩
  · rw [hxs, Cursor.peekNth_eq_onward]
    simp [Nat.lt_succ_of_le hi]
  · obtain ⟨e, hfirst, hrest⟩ := Scan.exists_readTimes_take hreads hm
    refine ⟨e, hfirst, hrest, fun i j hj => ?_, exists_play_scouting hc hfirst⟩
    rw [Cursor.peekNth_eq_onward, Cursor.peekNth_eq_onward, Scan.eq_onward_of_readTimes hfirst,
      Word.onward_onward, hj]

/-- A bare cursor, and one with two counters before the last two positions. -/
def brinkBench : Bench := { cursors := #[.startingAt 0, .brink] }

/-- A copy of the second cursor reads the last item twice, as the cursor foresees. -/
theorem reads_foretold_brink :
    brinkBench.cursors[1]? = some .brink ∧
    (Scan.readTimes 3).Yields .brink .brink [some 'a', some '\n', some '\n'] .brinkEnd ∧
    Cursor.brink.peekNth .brink 2 = some '\n' ∧
    Cursor.brinkEnd.position = Cursor.brink.position.onward 3 ∧
    ∃ e, (Scan.readTimes 1).Yields .brink .brink [some 'a'] e ∧
      e.peekNth .brink 1 = Cursor.brink.peekNth .brink 2 ∧
      ∃ p, (scouting (ε := Unit) 1 2 1 1 2).play .full .brink brinkBench = .ok p ∧
        p.records = [(.cursor 2, .brink), (.items [some 'a'], e),
          (.item (e.peekNth .brink 1), e), (.item (some '\n'), .brink)] := by
  have hc : brinkBench.cursors[1]? = some .brink := rfl
  have hreads : (Scan.readTimes 3).Yields .brink .brink [some 'a', some '\n', some '\n']
      .brinkEnd := ⟨_, rfl⟩
  obtain ⟨-, hseen, -, -, hposition, hparts⟩ := reads_foretold (ε := Unit) hc hreads
  have hlast : Cursor.brink.peekNth .brink 2 = some '\n' :=
    (Option.some.inj (hseen 2 (by decide))).symm
  obtain ⟨e, hfirst, -, hmoved, hplay⟩ := hparts 1 (by decide)
  obtain ⟨p, hp, hrecords⟩ := hplay 1 2
  rw [hlast] at hrecords
  exact ⟨hc, hreads, hlast, hposition, e, hfirst, hmoved 1 2 (by decide), p, hp, hrecords⟩

end Session

end ScanCursor
