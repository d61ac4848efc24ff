import Mathlib.Data.List.DropRight
import ScanCursor.Proofs.Aligned
import ScanCursor.Script.Basic

/-!
# ScanCursor.Proofs.Lineage

Every cursor is explained by its lineage.

Over a bench of cursors that descend from one fresh cursor, steps of single
cursors, copies, checkpoints and returns may alternate in any order.  Each
cursor and each checkpoint has a lineage: the steps that a fresh cursor has to
make to become like it.  A step is appended to the lineage of its cursor, a copy
and a checkpoint take over a lineage as it is, a return goes back to the lineage
that was recorded.

`Family.explained_follow` says that every cursor is what its lineage makes of a
fresh cursor, and that each of its counters has counted exactly the items that
the lineage's reads found since that counter was made.
-/

namespace ScanCursor

/-! ## steps of one cursor -/

/-- What changes a single cursor. -/
inductive Step where
  | read
  | jump (p : Word)
  | recount
  deriving DecidableEq

/-- The steps that a cursor has come by, the earliest first. -/
abbrev Lineage := List Step

/-- A cursor at a position, inside so many fresh counters. -/
def Cursor.fresh (s : Word) (layers : Nat) : Cursor where
  position := s
  counters := List.replicate layers {}

variable {α : Type}

/-- The cursor after the step. -/
def Step.run [Item α] (S : Source α) : Step → Cursor → Except Overflow Cursor
  | .read, c => (c.read S).map Prod.snd
  | .jump p, c => .ok (c.jump p)
  | .recount, c => .ok c.recount

/-- The position after the step. -/
def Step.move : Step → Word → Word
  | .read, p => Word.addSat p 1
  | .jump q, _ => q
  | .recount, p => p

namespace Lineage

/-- The cursor after the steps. -/
def run [Item α] (S : Source α) (ℓ : Lineage) (c : Cursor) : Except Overflow Cursor :=
  ℓ.foldlM (fun c t => t.run S c) c

/-- The position after the steps. -/
def place (s : Word) (ℓ : Lineage) : Word := ℓ.foldl (fun p t => t.move p) s

/-- Every step with the position at which it is made. -/
def placed : Word → Lineage → List (Word × Step)
  | _, [] => []
  | p, t :: ℓ => (p, t) :: placed (t.move p) ℓ

/-- The steps since a counter was made, where the outermost counter has the
number `0`: only that one is ever made anew. -/
def since (s : Word) (layer : Nat) (ℓ : Lineage) : List (Word × Step) :=
  if layer = 0 then (placed s ℓ).rtakeWhile fun t => t.2 ≠ .recount else placed s ℓ

/-- The items that the reads found since a counter was made. -/
def items (S : Source α) (s : Word) (layer : Nat) (ℓ : Lineage) : List α :=
  (since s layer ℓ).filterMap fun t => if t.2 = .read then S.get? t.1 else none

end Lineage

/-- A fresh counter after the items. -/
def Counter.count [Item α] (xs : List α) : Except Overflow Counter :=
  xs.foldlM (fun k x => k.advance (Item.endsLine x)) {}

/-- The cursor is what the lineage makes of a fresh one with so many counters, and
each counter is what the items make of it that were read since it was made. -/
structure Lineage.Explains [Item α] (S : Source α) (s : Word) (layers : Nat) (ℓ : Lineage)
    (c : Cursor) : Prop where
  run : ℓ.run S (Cursor.fresh s layers) = .ok c
  position : c.position = ℓ.place s
  layers : c.counters.length = layers
  counters : ∀ i k, c.counters[i]? = some k → Counter.count (ℓ.items S s i) = .ok k

/-! ## one step more -/

namespace Lineage

variable {S : Source α} {s : Word} {ℓ : Lineage} {t : Step}

theorem items_nil (layer : Nat) : items S s layer [] = [] := by
  rw [items, since, placed, List.rtakeWhile_nil, ite_self, List.filterMap_nil]

/-- The last step is made by the cursor that the steps before it have left. -/
theorem run_concat [Item α] (c : Cursor) : (ℓ ++ [t]).run S c = ℓ.run S c >>= t.run S := by
  rw [run, List.foldlM_append]
  simp only [List.foldlM_cons, List.foldlM_nil, bind_pure]
  rfl

/-- The last step moves the position that the steps before it have led to. -/
theorem place_concat : place s (ℓ ++ [t]) = t.move (place s ℓ) := by
  rw [place, List.foldl_append]
  rfl

/-- The last step is made where the steps before it have led to. -/
theorem placed_concat : placed s (ℓ ++ [t]) = placed s ℓ ++ [(place s ℓ, t)] := by
  induction ℓ generalizing s with
  | nil => rfl
  | cons u ℓ ih =>
      rw [List.cons_append, placed, ih, placed, List.cons_append]
      rfl

/-- A step that makes no counter is made since every counter was made. -/
theorem since_concat (ht : t ≠ .recount) (layer : Nat) :
    since s layer (ℓ ++ [t]) = since s layer ℓ ++ [(place s ℓ, t)] := by
  by_cases h : layer = 0
  · rw [since, since, if_pos h, if_pos h, placed_concat,
      List.rtakeWhile_concat_pos _ _ _ (by simpa using ht)]
  · rw [since, since, if_neg h, if_neg h, placed_concat]

/-- A read adds the item that it finds, if any, to what each counter has counted. -/
theorem items_concat_read (layer : Nat) :
    items S s layer (ℓ ++ [.read]) = items S s layer ℓ ++ (S.get? (place s ℓ)).toList := by
  have hne : Step.read ≠ .recount := by decide
  rw [items, items, since_concat hne, List.filterMap_append]
  cases hx : S.get? (place s ℓ) <;> simp [hx]

/-- A jump adds nothing to what was counted. -/
theorem items_concat_jump (layer : Nat) (p : Word) :
    items S s layer (ℓ ++ [.jump p]) = items S s layer ℓ := by
  have hne : Step.jump p ≠ .recount := by simp
  rw [items, items, since_concat hne, List.filterMap_append]
  simp

/-- The outermost counter has nothing to do with what was read before it was made. -/
theorem items_concat_recount_zero : items S s 0 (ℓ ++ [.recount]) = [] := by
  rw [items, since, if_pos rfl, placed_concat, List.rtakeWhile_concat_neg _ _ _ (by simp)]
  rfl

/-- The counters inside the outermost one go on as before a recount. -/
theorem items_concat_recount_succ (layer : Nat) :
    items S s (layer + 1) (ℓ ++ [.recount]) = items S s (layer + 1) ℓ := by
  have hne : layer + 1 ≠ 0 := Nat.succ_ne_zero layer
  rw [items, items, since, since, if_neg hne, if_neg hne, placed_concat, List.filterMap_append]
  simp

end Lineage

/-- The last item is counted behind those before it. -/
theorem Counter.count_concat [Item α] {xs : List α} {x : α} {k l : Counter} (hk : count xs = .ok k)
    (hl : k.advance (Item.endsLine x) = .ok l) : count (xs ++ [x]) = .ok l := by
  rw [count] at hk
  rw [count, List.foldlM_append, hk]
  simp only [List.foldlM_cons, List.foldlM_nil, bind_pure]
  exact hl

namespace Lineage.Explains

variable [Item α] {S : Source α} {s : Word} {layers : Nat} {ℓ : Lineage} {c c' : Cursor}

theorem fresh (S : Source α) (s : Word) (layers : Nat) :
    Explains S s layers [] (Cursor.fresh s layers) where
  run := rfl
  position := rfl
  layers := List.length_replicate
  counters i k hk := by
    have hmem := List.mem_of_getElem? hk
    rw [List.eq_of_mem_replicate hmem, items_nil]
    rfl

/-- After a read each counter has counted the item that was found, too. -/
theorem read (h : Explains S s layers ℓ c) {x : Option α} (hread : c.read S = .ok (x, c')) :
    Explains S s layers (ℓ ++ [.read]) c' := by
  obtain ⟨-, hposition, hcounters⟩ := Cursor.read_eq_ok_iff.1 hread
  have hpeek : c.peek S = S.get? (ℓ.place s) := by rw [Cursor.peek, h.position]
  refine ⟨?_, ?_, ?_, fun i k hk => ?_⟩
  · rw [run_concat, h.run]
    change (c.read S).map Prod.snd = .ok c'
    rw [hread]
    rfl
  · rw [place_concat, hposition, h.position]
    rfl
  · cases hx : c.peek S with
    | none =>
        rw [hx] at hcounters
        rw [hcounters, h.layers]
    | some y =>
        rw [hx] at hcounters
        rw [Cursor.length_of_advanceAll hcounters, h.layers]
  · -- A counter that is there now was there before, and saw the same item.
    rw [items_concat_read, ← hpeek]
    cases hx : c.peek S with
    | none =>
        rw [hx] at hcounters
        rw [hcounters] at hk
        rw [Option.toList_none, List.append_nil]
        exact h.counters i k hk
    | some y =>
        rw [hx] at hcounters
        obtain ⟨k₀, hk₀, hadvance⟩ := Cursor.exists_of_advanceAll hcounters hk
        exact Counter.count_concat (h.counters i k₀ hk₀) hadvance

/-- After a jump the counters are what they were. -/
theorem jump (h : Explains S s layers ℓ c) (p : Word) :
    Explains S s layers (ℓ ++ [.jump p]) (c.jump p) := by
  refine ⟨?_, ?_, h.layers, fun i k hk => ?_⟩
  · rw [run_concat, h.run]
    rfl
  · rw [place_concat]
    rfl
  · rw [items_concat_jump]
    exact h.counters i k hk

/-- After a recount the outermost counter is fresh, and the others are what they were. -/
theorem recount (h : Explains S s layers ℓ c) :
    Explains S s layers (ℓ ++ [.recount]) c.recount := by
  refine ⟨?_, ?_, ?_, fun i k hk => ?_⟩
  · rw [run_concat, h.run]
    rfl
  · rw [place_concat]
    exact h.position
  · rw [← h.layers, Cursor.recount, List.length_modifyHead]
  · rw [Cursor.recount, List.getElem?_modifyHead] at hk
    cases i with
    | zero =>
        rw [items_concat_recount_zero]
        rw [if_pos rfl] at hk
        obtain ⟨k₀, -, rfl⟩ := Option.map_eq_some_iff.1 hk
        rfl
    | succ i =>
        rw [items_concat_recount_succ]
        rw [if_neg (Nat.succ_ne_zero i)] at hk
        exact h.counters _ k hk

/-- A step that is made is a step of the lineage. -/
theorem step (h : Explains S s layers ℓ c) {t : Step} (ht : t.run S c = .ok c') :
    Explains S s layers (ℓ ++ [t]) c' := by
  cases t with
  | read =>
      cases hread : c.read S with
      | error => rw [Step.run, hread] at ht; cases ht
      | ok r =>
          rw [Step.run, hread] at ht
          cases ht
          exact h.read hread
  | jump p =>
      cases ht
      exact h.jump p
  | recount =>
      cases ht
      exact h.recount

end Lineage.Explains

/-! ## steps of many cursors -/

/-- What is done with one cursor of many. -/
inductive Turn where
  | step (t : Step)
  | clone
  | checkpoint
  | restore (index : Nat)
  deriving DecidableEq

/-- The turn as a step of a script. -/
def Turn.action {ε : Type} : Turn → Action α ε
  | .step .read => .read
  | .step (.jump p) => .jump p
  | .step .recount => .recount
  | .clone => .clone
  | .checkpoint => .checkpoint
  | .restore index => .restore index

/-- Turns of cursors, each with the cursor's slot, the earliest first. -/
abbrev History := List (Nat × Turn)

/-- The lineages of the cursors and of the checkpoints of a bench. -/
structure Family where
  cursors : Array Lineage := #[[]]
  checkpoints : Array Lineage := #[]

/-- A step goes to the end of its cursor's lineage; a copy and a checkpoint take
the lineage over; a return goes back to the one that was recorded. -/
def Family.turn (f : Family) (slot : Nat) (t : Turn) : Family :=
  match f.cursors[slot]? with
  | none => f
  | some ℓ =>
    match t with
    | .step t => { f with cursors := f.cursors.setIfInBounds slot (ℓ ++ [t]) }
    | .clone => { f with cursors := f.cursors.push ℓ }
    | .checkpoint => { f with checkpoints := f.checkpoints.push ℓ }
    | .restore index =>
      match f.checkpoints[index]? with
      | none => f
      | some k => { f with cursors := f.cursors.setIfInBounds slot k }

/-- The lineages after a history. -/
def Family.follow (f : Family) (h : History) : Family :=
  h.foldl (fun f t => f.turn t.1 t.2) f

/-! ## every cursor explained -/

/-- Every cursor and every checkpoint is explained by its lineage. -/
structure Family.Explained [Item α] (S : Source α) (s : Word) (layers : Nat) (f : Family)
    (b : Bench) : Prop where
  cursors : Aligned (Lineage.Explains S s layers) f.cursors b.cursors
  checkpoints : Aligned (Lineage.Explains S s layers) f.checkpoints b.checkpoints

/-- A bench with one fresh cursor has one lineage, without a step. -/
theorem Family.explained_single [Item α] (S : Source α) (s : Word) (layers : Nat) :
    Explained S s layers {} (.single (Cursor.fresh s layers)) :=
  ⟨Aligned.empty.push (.fresh S s layers), .empty⟩

section

variable [Item α] [DecidableEq α]

/-- The bench after one turn of the cursor in a slot. -/
def Bench.turn (S : Source α) (b : Bench) (slot : Nat) (t : Turn) : Except Overflow Bench :=
  (b.perform S slot (.act t.action .done : Script α Unit)).map Performance.bench

/-- The bench after a history. -/
def Bench.follow (S : Source α) (b : Bench) (h : History) : Except Overflow Bench :=
  h.foldlM (fun b t => b.turn S t.1 t.2) b

namespace Bench

variable {S : Source α} {b : Bench} {slot : Nat} {c : Cursor}

theorem turn_missing (hc : b.cursors[slot]? = none) (t : Turn) : b.turn S slot t = .ok b := by
  rw [turn, perform, hc]
  rfl

/-- What a turn comes to is what its action comes to. -/
theorem turn_eq (hc : b.cursors[slot]? = some c) (t : Turn) :
    b.turn S slot t =
      ((t.action : Action α Unit).scan b |>.run S c).map fun r =>
        r.value.2.update slot r.cursor := by
  simp only [turn, perform, hc, Script.run_act]
  cases ((t.action : Action α Unit).scan b).run S c <;> rfl

/-- A step changes its cursor and nothing else on the bench. -/
theorem turn_step (hc : b.cursors[slot]? = some c) (t : Step) :
    b.turn S slot (.step t) = (t.run S c).map (b.update slot) := by
  rw [turn_eq hc]
  cases t with
  | jump p => rfl
  | recount => rfl
  | read =>
      rw [Turn.action, Action.scan, bind_pure_comp, Scan.run_map, Step.run]
      change (((c.read S).map _).map _).map _ = _
      cases c.read S <;> rfl

/-- A copy takes a slot of its own, and the cursor stays. -/
theorem turn_clone (hc : b.cursors[slot]? = some c) :
    b.turn S slot .clone = .ok (b.addCursor c) := by
  have hslot : slot < b.cursors.size := (Array.getElem?_eq_some_iff.1 hc).1
  rw [turn_eq hc]
  change Except.ok ((b.addCursor c).update slot c) = _
  rw [← addCursor_update hslot, update_self hc]

/-- A checkpoint records the cursor as it is. -/
theorem turn_checkpoint (hc : b.cursors[slot]? = some c) :
    b.turn S slot .checkpoint = .ok (b.addCheckpoint c) := by
  rw [turn_eq hc]
  change Except.ok ((b.addCheckpoint c).update slot c) = _
  rw [← addCheckpoint_update, update_self hc]

theorem turn_restore_missing (hc : b.cursors[slot]? = some c) {index : Nat}
    (hk : b.checkpoints[index]? = none) : b.turn S slot (.restore index) = .ok b := by
  rw [turn_eq hc, Turn.action, Action.scan, hk]
  change Except.ok (b.update slot c) = _
  rw [update_self hc]

/-- A return puts the recorded cursor in place of the one that goes back. -/
theorem turn_restore (hc : b.cursors[slot]? = some c) {index : Nat} {k : Cursor}
    (hk : b.checkpoints[index]? = some k) :
    b.turn S slot (.restore index) = .ok (b.update slot k) := by
  rw [turn_eq hc, Turn.action, Action.scan, hk]
  rfl

end Bench

namespace Family

variable {S : Source α} {s : Word} {layers : Nat} {f : Family} {b b' : Bench}

/-- No turn leaves a cursor unexplained, its own or another. -/
theorem explained_turn (h : Explained S s layers f b) {slot : Nat} {t : Turn}
    (hb : b.turn S slot t = .ok b') : Explained S s layers (f.turn slot t) b' := by
  cases hℓ : f.cursors[slot]? with
  | none =>
      rw [Bench.turn_missing (h.cursors.getElem?_eq_none_iff.2 hℓ)] at hb
      cases hb
      rw [turn, hℓ]
      exact h
  | some ℓ =>
      obtain ⟨c, hc, hexplains⟩ := h.cursors.exists_of_getElem? hℓ
      simp only [turn, hℓ]
      cases t with
      | step t =>
          rw [Bench.turn_step hc] at hb
          cases ht : t.run S c with
          | error => rw [ht] at hb; cases hb
          | ok c' =>
              rw [ht] at hb
              cases hb
              exact ⟨h.cursors.setIfInBounds (hexplains.step ht), h.checkpoints⟩
      | clone =>
          rw [Bench.turn_clone hc] at hb
          cases hb
          exact ⟨h.cursors.push hexplains, h.checkpoints⟩
      | checkpoint =>
          rw [Bench.turn_checkpoint hc] at hb
          cases hb
          exact ⟨h.cursors, h.checkpoints.push hexplains⟩
      | restore index =>
          cases hm : f.checkpoints[index]? with
          | none =>
              rw [Bench.turn_restore_missing hc (h.checkpoints.getElem?_eq_none_iff.2 hm)] at hb
              cases hb
              simp only [hm]
              exact h
          | some m =>
              obtain ⟨k, hk, hexplains'⟩ := h.checkpoints.exists_of_getElem? hm
              rw [Bench.turn_restore hc hk] at hb
              cases hb
              simp only [hm]
              exact ⟨h.cursors.setIfInBounds hexplains', h.checkpoints⟩

/-- Lineages that explain a bench explain it at the end of any history. -/
theorem explained_of_follow (h : Explained S s layers f b) {history : History}
    (hb : b.follow S history = .ok b') : Explained S s layers (f.follow history) b' := by
  induction history generalizing f b with
  | nil =>
      cases hb
      exact h
  | cons t history ih =>
      rw [Bench.follow, List.foldlM_cons, bind_eq_ok_iff] at hb
      obtain ⟨b₁, hturn, hrest⟩ := hb
      have hturned := explained_turn h hturn
      exact ih hturned hrest

/-- At every moment of a history that is not refused, the cursors that descend
from a fresh one, and their checkpoints, are what their lineages make of a fresh
cursor, and their counters have counted what was read since they were made. -/
theorem explained_follow (S : Source α) (s : Word) (layers : Nat) {earlier later : History}
    (hb : (Bench.single (Cursor.fresh s layers)).follow S (earlier ++ later) = .ok b') :
    ∃ b, (Bench.single (Cursor.fresh s layers)).follow S earlier = .ok b ∧
      b.follow S later = .ok b' ∧ Explained S s layers (follow {} earlier) b := by
  rw [Bench.follow, List.foldlM_append, bind_eq_ok_iff] at hb
  obtain ⟨b, hearlier, hlater⟩ := hb
  have hfresh := explained_single S s layers
  exact ⟨b, hearlier, hlater, explained_of_follow hfresh hearlier⟩

/-- Inside two counters: a copy reads on and leaves a checkpoint, and the first
cursor, after a jump and a recount of its own, goes to it. -/
theorem explained_follow_crossing :
    ∃ b b' : Bench,
      (Bench.single (Cursor.fresh 0 2)).follow (Source.ofArray #['a', '\n', 'b'])
        ([(0, .step .read), (0, .clone), (1, .step .read), (1, .checkpoint),
          (0, .step (.jump 2)), (0, .step .recount), (0, .step .read)] ++ [(0, .restore 0)]) =
            .ok b' ∧
      b'.cursors.map Cursor.position = #[2, 2] ∧
      b.follow (Source.ofArray #['a', '\n', 'b']) [(0, .restore 0)] = .ok b' ∧
      Explained (Source.ofArray #['a', '\n', 'b']) 0 2
        ⟨#[[.read, .jump 2, .recount, .read], [.read, .read]], #[[.read, .read]]⟩ b := by
  have hrun : ((Bench.single (Cursor.fresh 0 2)).follow (Source.ofArray #['a', '\n', 'b'])
      ([(0, .step .read), (0, .clone), (1, .step .read), (1, .checkpoint),
        (0, .step (.jump 2)), (0, .step .recount), (0, .step .read)] ++ [(0, .restore 0)])
      ).toOption.map (fun b' => b'.cursors.map Cursor.position) = some #[2, 2] := by
    decide +kernel
  obtain ⟨b', hb', hposition⟩ := Option.map_eq_some_iff.1 hrun
  obtain ⟨b, -, hlater, hexplained⟩ := explained_follow _ 0 2 (eq_ok_of_toOption hb')
  exact ⟨b, b', eq_ok_of_toOption hb', hposition, hlater, hexplained⟩

end Family

end

end ScanCursor
