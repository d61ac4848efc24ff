import Mathlib.Order.Bounds.Basic
import ScanCursor.Collection
import ScanCursor.Proofs.Lookahead

/-!
# ScanCursor.Proofs.Exhaustion

The end of a collection, seen in several ways.

That nothing is at the position, that nothing remains, how far ahead there still is an
item, how many reads find one and how many items are read when all are accepted: in
general these are different questions, since a source may have gaps, or items beyond its
size.  Where the items fill exactly the positions below the size they have one answer,
which is the number of items that remain; and collections are such sources
(`Source.IsCollection.exhausted`).
-/

namespace ScanCursor

variable {α : Type}

/-- Fewer positions on than remain is before the end. -/
theorem Word.onward_lt_iff (p s : Word) (n : Nat) : p.onward n < s ↔ n < (subSat s p).toNat := by
  have hs := s.toNat_lt
  rw [UInt64.lt_iff_toNat_lt, toNat_onward, toNat_subSat]
  omega

/-- Going on by all that remains leads to the end, or nowhere if the end is behind. -/
theorem Word.onward_subSat (p s : Word) : p.onward (subSat s p).toNat = max p s := by
  have hp := p.toNat_lt
  have hs := s.toNat_lt
  apply UInt64.toNat.inj
  rw [toNat_max, toNat_onward, toNat_subSat]
  omega

/-- Nothing remains from the size on. -/
theorem Cursor.remaining_eq_zero_iff (S : Source α) (c : Cursor) :
    c.remaining S = 0 ↔ S.size ≤ c.position := by
  rw [remaining, ← UInt64.toNat_inj, Word.toNat_subSat, UInt64.toNat_zero,
    UInt64.le_iff_toNat_le]
  omega

/-! ## where the items fill the positions below the size -/

section

variable {S : Source α} (hS : ∀ p, (S.get? p).isSome ↔ p < S.size)

include hS

/-- So far ahead there is an item just if more positions than that remain. -/
theorem Source.isSome_onward_iff (p : Word) (n : Nat) :
    (S.get? (p.onward n)).isSome ↔ n < (Word.subSat S.size p).toNat := by
  rw [hS, Word.onward_lt_iff]

/-- A cursor is at the end where nothing remains. -/
theorem Cursor.atEnd_iff (c : Cursor) : c.atEnd S ↔ c.remaining S = 0 := by
  rw [remaining_eq_zero_iff, atEnd, peek, ← Option.not_isSome, Bool.not_eq_true',
    ← Bool.not_eq_true, hS, UInt64.not_lt]

/-- Looking ahead finds an item at as many distances as positions remain. -/
theorem Cursor.isSome_peekNth_iff (c : Cursor) (n : Word) :
    (c.peekNth S n).isSome ↔ n < c.remaining S := by
  rw [peekNth_eq_onward, Source.isSome_onward_iff hS, UInt64.lt_iff_toNat_lt, remaining]

/-- First come the items that remain, and then nothing. -/
theorem Source.exists_ahead_eq (m : Nat) (p : Word) :
    ∃ items : List α, items.length = min m (Word.subSat S.size p).toNat ∧
      S.ahead m p = items.map some ++ List.replicate (m - items.length) none := by
  induction m generalizing p with
  | zero => exact ⟨[], by simp, rfl⟩
  | succ m ih =>
      obtain ⟨items, hlength, hitems⟩ := ih (Word.addSat p 1)
      have hs := S.size.toNat_lt
      rw [Word.toNat_subSat, Word.toNat_addSat, UInt64.toNat_one] at hlength
      rw [ahead, hitems]
      cases hx : S.get? p with
      | none =>
          have hle : S.size.toNat ≤ p.toNat := by
            rw [← UInt64.le_iff_toNat_le, ← UInt64.not_lt, ← hS, hx]
            exact Bool.false_ne_true
          obtain rfl : items = [] := List.eq_nil_of_length_eq_zero (by omega)
          exact ⟨[], by simp [hle], rfl⟩
      | some x =>
          have hlt : p.toNat < S.size.toNat := by
            rw [← UInt64.lt_iff_toNat_lt, ← hS, hx]
            rfl
          refine ⟨x :: items, ?_, ?_⟩
          · rw [List.length_cons, Word.toNat_subSat]
            omega
          · rw [List.length_cons, Nat.add_sub_add_right, List.map_cons, List.cons_append]

/-- A read that finds an item leaves one less. -/
theorem Cursor.remaining_of_read [Item α] {c d : Cursor} {x : α}
    (h : c.read S = .ok (some x, d)) : (d.remaining S).toNat + 1 = (c.remaining S).toNat := by
  obtain ⟨hx, hposition, -⟩ := read_eq_ok_iff.1 h
  have hlt : c.position < S.size := by
    rw [← hS, ← peek, ← hx]
    rfl
  have hs := S.size.toNat_lt
  rw [UInt64.lt_iff_toNat_lt] at hlt
  rw [remaining, remaining, hposition]
  simp only [Word.toNat_subSat, Word.toNat_addSat, UInt64.toNat_one]
  omega

/-! ## accepting all -/

/-- Who accepts all stops where nothing remains. -/
theorem Source.stopsAt_always_iff {p : Word} {n : Nat} :
    S.StopsAt (.ofPredicate fun _ => true) () p n ↔ (Word.subSat S.size p).toNat ≤ n := by
  rw [StopsAt, ← Nat.not_lt, ← isSome_onward_iff hS, Option.not_isSome_iff_eq_none]
  simp [Refuses, Judge.ofPredicate]

variable [Item α] {c d : Cursor} {n : Nat}

/-- All that remains is accepted, counted and read. -/
theorem Scan.yields_readAll_iff :
    (readWhile (.ofPredicate fun _ => true) ()).Yields S c (n, ()) d ↔
      n = (c.remaining S).toNat ∧ ∃ xs, (readTimes n).Yields S c xs d := by
  have hleast : IsLeast {i | S.StopsAt (.ofPredicate fun _ => true) () c.position i} n ↔
      n = (c.remaining S).toNat := by
    simp only [Source.stopsAt_always_iff hS]
    exact ⟨fun h => h.unique isLeast_Ici, fun h => h ▸ isLeast_Ici⟩
  rw [yields_readWhile_iff, hleast]
  constructor
  · rintro ⟨-, hn, -, hxs⟩
    exact ⟨hn, hxs⟩
  · rintro ⟨rfl, hxs⟩
    exact ⟨Word.toNat_le_top _, rfl, rfl, hxs⟩

end

/-- In a collection, or behind references to one, the items fill the positions below the
length.  So wherever a cursor has been put, there are as many items ahead as remain: it is
at the end when none do, it sees those and no others when it looks ahead, and reads find
them and then nothing, each of them leaving one item less.  If all are accepted they are
all read, wherever they can be, and the cursor is at the end, or where it was if that is
behind. -/
theorem Source.IsCollection.exhausted [Item α] {S : Source α} (h : S.IsCollection) :
    (∀ p, (S.get? p).isSome ↔ p < S.size) ∧
    ∀ c : Cursor,
      (c.atEnd S ↔ c.remaining S = 0) ∧ (c.remaining S = 0 ↔ S.size ≤ c.position) ∧
      (∀ n, (c.peekNth S n).isSome ↔ n < c.remaining S) ∧
      (∀ m xs d, (Scan.readTimes m).Yields S c xs d →
        ∃ items : List α, items.length = min m (c.remaining S).toNat ∧
          xs = items.map some ++ List.replicate (m - items.length) none) ∧
      (∀ x d, c.read S = .ok (some x, d) →
        (d.remaining S).toNat + 1 = (c.remaining S).toNat) ∧
      ((∃ n d, (Scan.readWhile (.ofPredicate fun _ => true) ()).Yields S c (n, ()) d) ↔
        ∃ xs d, (Scan.readTimes (c.remaining S).toNat).Yields S c xs d) ∧
      ∀ n d, (Scan.readWhile (.ofPredicate fun _ => true) ()).Yields S c (n, ()) d →
        n = (c.remaining S).toNat ∧ d.position = max c.position S.size ∧ d.atEnd S := by
  have hS := h.isSome_get?_iff
  refine ⟨hS, fun c => ⟨c.atEnd_iff hS, c.remaining_eq_zero_iff S, c.isSome_peekNth_iff hS,
    fun m xs d hreads => ?reads, fun x d => Cursor.remaining_of_read hS, ?returns,
    fun n d hall => ?all⟩⟩
  case reads =>
    rw [Scan.eq_ahead_of_readTimes hreads]
    exact Source.exists_ahead_eq hS m c.position
  case returns =>
    simp only [Scan.yields_readAll_iff hS]
    constructor
    · rintro ⟨n, d, rfl, xs, hxs⟩
      exact ⟨xs, d, hxs⟩
    · rintro ⟨xs, d, hxs⟩
      exact ⟨_, d, rfl, xs, hxs⟩
  case all =>
    obtain ⟨rfl, xs, hxs⟩ := (Scan.yields_readAll_iff hS).1 hall
    have hposition : d.position = max c.position S.size := by
      rw [Scan.eq_onward_of_readTimes hxs, Cursor.remaining, Word.onward_subSat]
    refine ⟨rfl, hposition, (d.atEnd_iff hS).2 ((d.remaining_eq_zero_iff S).2 ?_)⟩
    rw [hposition, UInt64.le_iff_toNat_le, Word.toNat_max]
    omega

/-- Three characters, by two references. -/
def Source.referred : Source Char := (Text.source ⟨#['a', '\n', 'b']⟩).ref.ref

/-- Two counters behind the first character. -/
def Cursor.midway : Cursor := ⟨1, [{}, ⟨⟨3, 0⟩, some ⟨2, 5⟩⟩]⟩

/-- The same counters behind the last one. -/
def Cursor.spent : Cursor := ⟨3, [⟨⟨1, 1⟩, some ⟨1, 0⟩⟩, ⟨⟨4, 1⟩, some ⟨4, 0⟩⟩]⟩

/-- From the middle of a text, read to its end and further. -/
theorem Source.IsCollection.exhausted_referred :
    referred.IsCollection ∧
    ((referred.get? 2).isSome ↔ (2 : Word) < referred.size) ∧
    (Scan.readTimes 4).Yields referred .midway [some '\n', some 'b', none, none]
      (.jump 5 .spent) ∧
    (∃ items : List Char, items.length = min 4 (Cursor.midway.remaining referred).toNat ∧
      [some '\n', some 'b', none, none] =
        items.map some ++ List.replicate (4 - items.length) none) ∧
    (∃ d, Cursor.midway.read referred = .ok (some '\n', d) ∧
      (d.remaining referred).toNat + 1 = (Cursor.midway.remaining referred).toNat) ∧
    (Scan.readWhile (.ofPredicate fun _ => true) ()).Yields referred .midway (2, ()) .spent ∧
    2 = (Cursor.midway.remaining referred).toNat ∧ Cursor.spent.atEnd referred := by
  have hcollection : referred.IsCollection := .ref (.ref (.text _ (by decide)))
  have hreads : (Scan.readTimes 4).Yields referred .midway [some '\n', some 'b', none, none]
      (.jump 5 .spent) := ⟨_, rfl⟩
  have hread : Cursor.midway.read referred =
      .ok (some '\n', ⟨2, [⟨⟨1, 0⟩, some ⟨0, 0⟩⟩, ⟨⟨4, 0⟩, some ⟨3, 0⟩⟩]⟩) := rfl
  have hall : (Scan.readWhile (.ofPredicate fun _ => true) ()).Yields referred .midway (2, ())
      .spent := ⟨_, rfl⟩
  obtain ⟨hfilled, hcursor⟩ := hcollection.exhausted
  obtain ⟨-, -, -, hitems, hless, -, hends⟩ := hcursor .midway
  obtain ⟨hcount, -, hend⟩ := hends 2 .spent hall
  exact ⟨hcollection, hfilled 2, hreads, hitems 4 _ _ hreads, ⟨_, hread, hless _ _ hread⟩, hall,
    hcount, hend⟩

end ScanCursor
