import ScanCursor.Proofs.Stretch
import ScanCursor.Proofs.Tally
import ScanCursor.Proofs.Views

/-!
# ScanCursor.Proofs.Room

There is room for everything that scanning can count.

A cursor that goes back goes back with its counters.  So as long as it is moved by
scanning alone, no counter has counted more than the items between the start and
the position (`Cursor.Held`), and these are fewer than the words if there is none
at the largest position.  Jumps undo this: an item may be read again and again.
Then the tally of the reads is still a bound.
-/

namespace ScanCursor

variable {α ε : Type} {S : Source α} {s : Word} {layers : Nat}

/-- The position is not before `s`, and no counter has counted more than the items
that are held between them. -/
structure Cursor.Held (S : Source α) (s : Word) (layers : Nat) (c : Cursor) : Prop where
  start_le : s ≤ c.position
  tallied : c.Tallied layers (S.held s c.position)

/-- Both signed views of every counter are there. -/
def Cursor.Signed (c : Cursor) : Prop :=
  ∀ k ∈ c.counters, ∃ i j, k.readRow = .ok i ∧ k.readColumn = .ok j

/-- A read comes by what it finds. -/
theorem Source.held_addSat (htop : S.get? Word.top = none) {p : Word} (h : s ≤ p) :
    S.held s (Word.addSat p 1) = S.held s p + S.hit p := by
  by_cases hp : p = Word.top
  · have hhit : S.hit p = 0 := by simp [hit, hp, htop]
    rw [hhit, hp, Word.addSat_top, Nat.add_zero]
  · exact held_succ h (Word.toNat_addSat_one hp)

namespace Cursor.Held

variable {c : Cursor}

theorem fresh (S : Source α) (s : Word) (layers : Nat) :
    (Cursor.fresh s layers).Held S s layers where
  start_le := UInt64.le_refl s
  tallied := (Tallied.fresh s layers).mono (Nat.zero_le _)

/-- A counter that is made anew has counted none of the items yet. -/
theorem recount (hc : c.Held S s layers) : c.recount.Held S s layers where
  start_le := hc.start_le
  tallied := hc.tallied.recount

/-- There is room for the next item, since the stretch up to it is a stretch of words. -/
theorem read [Item α] (htop : S.get? Word.top = none) (hc : c.Held S s layers) :
    ∃ x c', c.read S = .ok (x, c') ∧ c'.Held S s layers := by
  have hheld := Source.held_addSat htop hc.start_le
  have hroom : S.held s c.position + S.hit c.position ≤ Word.top.toNat := by
    have hle := S.held_le s (Word.addSat c.position 1)
    have htoNat := Word.toNat_le_top (Word.addSat c.position 1)
    omega
  obtain ⟨x, c', hread⟩ := hc.tallied.exists_read hroom
  have hposition := (read_eq_ok_iff.1 hread).2.1
  refine ⟨x, c', hread, ?_, ?_⟩
  · rw [hposition]
    exact UInt64.le_trans hc.start_le (Word.le_addSat c.position 1)
  · rw [hposition, hheld]
    exact hc.tallied.read hread

/-- Where all items are in the lower half of the words there is a sign bit to spare. -/
theorem signed (hc : c.Held S s layers)
    (hhalf : ∀ q, (S.get? q).isSome → q.toNat < 2 ^ 63 - 1) : c.Signed := by
  intro k hk
  have hsize := hc.tallied.size_le k hk
  have hheld := Source.held_le_of_forall_lt hhalf s c.position
  rw [Extent.size, Location.rows_extent, Location.columns_extent] at hsize
  obtain ⟨i, j, hi, hj, -⟩ := Counter.exists_signed (k := k) (by omega) (by omega)
  exact ⟨i, j, hi, hj⟩

end Cursor.Held

namespace Session

variable [DecidableEq α] [Item α]

/-- Scanning without jumps is never refused where the largest position is empty: no
counter gets ahead of the items between the start and its cursor.  Whatever else a
session does, no counter gets ahead of the reads that found an item, and it takes
more of these than a word can count to be refused. -/
theorem play_has_room (S : Source α) (s : Word) (layers : Nat) (P : Session α ε) :
    (S.get? Word.top = none → P.Only (fun a => ∀ p, a ≠ .jump p) →
      (∃ p, P.play .full S (.single (Cursor.fresh s layers)) = .ok p) ∧
      ∀ b ∈ P.moments .full S (.single (Cursor.fresh s layers)),
        b.All (Cursor.Held S s layers) ∧
        ((∀ q, (S.get? q).isSome → q.toNat < 2 ^ 63 - 1) → b.All Cursor.Signed)) ∧
    List.Forall₂ (fun n b => b.All (Cursor.Tallied layers n))
      (P.tallies S (.single (Cursor.fresh s layers)) 0)
      (P.moments .full S (.single (Cursor.fresh s layers))) ∧
    (P.found S (.single (Cursor.fresh s layers)) ≤ Word.top.toNat →
      ∃ p, P.play .full S (.single (Cursor.fresh s layers)) = .ok p ∧
        Trace.found p.trace = P.found S (.single (Cursor.fresh s layers)) * layers) := by
  have hfresh := Bench.All.single (Cursor.Tallied.fresh s layers)
  refine ⟨fun htop hP => ?scanning, tallied_moments P hfresh, fun hfound => ?counted⟩
  case scanning =>
    have hread : Scan.Keeps S False (Cursor.Held S s layers) (Scan.read : Scan α (Option α)) :=
      Scan.keeps_of_exists_read fun c hc => hc.read htop
    have hstep := Action.ends_step (A := fun a : Action α ε => ∀ p, a ≠ .jump p) hread
      (.inr htop) (fun p hp => absurd rfl (hp p)) (fun _ c hc => hc.recount)
    have hheld := Bench.All.single (Cursor.Held.fresh S s layers)
    obtain ⟨p, hp, -⟩ := (ends_play hstep hP hheld).exists_ok
    refine ⟨⟨p, hp⟩, fun b hb => ?_⟩
    have hall := all_moments hstep hP hheld b hb
    exact ⟨hall, fun hhalf => hall.mono fun c hc => hc.signed hhalf⟩
  case counted =>
    have hends := ends_play_found (S := S) P hfresh
    cases hp : P.play .full S (.single (Cursor.fresh s layers)) with
    | error =>
        have hlt := hends.of_eq_error hp
        omega
    | ok p => exact ⟨p, rfl, (hends.of_eq_ok hp).trace⟩

/-- A copy counts anew, reads to the end and leaves a checkpoint in a body that is
taken back; the first cursor goes to that checkpoint. -/
def scout : Session Char Char :=
  act 0 (.readTimes 2) fun _ => act 0 .clone fun _ =>
    trying 1 (fun _ => true)
      (act 1 .recount fun _ => act 1 (.readWhile fun _ _ => true) fun _ =>
        act 1 .checkpoint fun _ => done) fun _ =>
      act 0 (.restore 0) fun _ => act 0 .read fun _ => done

/-- The bench at the end of `scout`, inside two counters that started at the second
item. -/
def scouted : Bench where
  cursors := #[⟨5, [⟨⟨0, 1⟩, some ⟨0, 0⟩⟩, ⟨⟨1, 2⟩, some ⟨1, 1⟩⟩]⟩,
    ⟨3, [⟨⟨1, 1⟩, some ⟨1, 0⟩⟩, ⟨⟨1, 1⟩, some ⟨1, 0⟩⟩]⟩]
  checkpoints := #[⟨4, [⟨⟨0, 1⟩, some ⟨0, 0⟩⟩, ⟨⟨1, 2⟩, some ⟨1, 1⟩⟩]⟩]

/-- An item is read, jumped back to, read for another one and read again. -/
def reread : Session Char Char :=
  act 0 .read fun _ => act 0 (.jump 1) fun _ => act 0 (.expect 'b') fun _ =>
    act 0 (.expect '\n') fun _ => done

/-- After a copy, a recount and a checkpoint no counter has more than the items that are
held from the second one on.  An item that is read three times is tallied three times, and
told so by both counters. -/
theorem play_has_room_scout :
    scout.Only (fun a => ∀ p, a ≠ .jump p) ∧
    scouted ∈ scout.moments .full (Source.ofArray #['a', '\n', 'b', 'c'])
      (.single (Cursor.fresh 1 2)) ∧
    scouted.All (Cursor.Held (Source.ofArray #['a', '\n', 'b', 'c']) 1 2) ∧
    scouted.All Cursor.Signed ∧
    reread.tallies (Source.ofArray #['a', '\n', 'b', 'c']) (.single (Cursor.fresh 1 2)) 0 =
      [0, 1, 1, 2, 3] ∧
    reread.found (Source.ofArray #['a', '\n', 'b', 'c']) (.single (Cursor.fresh 1 2)) = 3 ∧
    ∃ p, reread.play .full (Source.ofArray #['a', '\n', 'b', 'c'])
      (.single (Cursor.fresh 1 2)) = .ok p ∧ Trace.found p.trace = 3 * 2 := by
  have honly : scout.Only (fun a => ∀ p, a ≠ .jump p) := by simp [scout, Only]
  have htop : (Source.ofArray #['a', '\n', 'b', 'c']).get? Word.top = none := by decide
  have hhalf (q : Word) (hq : ((Source.ofArray #['a', '\n', 'b', 'c']).get? q).isSome) :
      q.toNat < 2 ^ 63 - 1 := by
    rw [Source.isSome_get?_ofArray_iff (by decide), UInt64.lt_iff_toNat_lt] at hq
    exact Nat.lt_trans hq (by decide)
  have hmoment : scouted ∈ scout.moments .full (Source.ofArray #['a', '\n', 'b', 'c'])
      (.single (Cursor.fresh 1 2)) := by decide +kernel
  have hfound : reread.found (Source.ofArray #['a', '\n', 'b', 'c'])
      (.single (Cursor.fresh 1 2)) = 3 := by decide +kernel
  obtain ⟨-, hmoments⟩ :=
    (play_has_room (Source.ofArray #['a', '\n', 'b', 'c']) 1 2 scout).1 htop honly
  obtain ⟨hheld, hsigned⟩ := hmoments scouted hmoment
  have hcounted := (play_has_room (Source.ofArray #['a', '\n', 'b', 'c']) 1 2 reread).2.2
  rw [hfound] at hcounted
  exact ⟨honly, hmoment, hheld, hsigned hhalf, by decide +kernel, hfound, hcounted (by decide)⟩

end Session

end ScanCursor
