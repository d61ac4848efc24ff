import Mathlib.Data.List.Forall2
import ScanCursor.Proofs.Session

/-!
# ScanCursor.Proofs.Sentinel

Sentinels are seen in the answers and nowhere else.

A sentinel stands for an item that is not there.  It may be of any type that items can be
turned into, each call may have another one, and it may well look like an item of the source:
like a line feed, for one.  Nothing that is done to a cursor depends on it.

`Call.scan_asked` says so of one step: asked with a sentinel it is the same scan, with
another answer made of the same one.  So is a whole sequence of steps of any of the cursors of
a bench (`Session.play_asked`, `Session.moments_asked`), and two sequences with different
sentinels differ only in what they answer where nothing was (`Session.sentinels_unseen`).
-/

namespace ScanCursor

variable {α ε ι : Type} {E : ι → Type}

/-- A value of one of several types, to be answered for an item that is not there. -/
abbrev Sentinel (E : ι → Type) := (i : ι) × E i

/-- A step, or a step that looks for an item and is asked with a sentinel. -/
inductive Call (α : Type) (E : ι → Type) where
  | plain (a : Action α (Sentinel E))
  | peek (eof : Sentinel E)
  | read (eof : Sentinel E)

namespace Call

/-- The sentinel, if the step looks for an item. -/
def eof? : Call α E → Option (Sentinel E)
  | plain _ => none
  | peek eof | read eof => some eof

/-- The step without the sentinel. -/
def step : Call α E → Action α (Sentinel E)
  | plain a => a
  | peek _ => .peek
  | read _ => .read

section

variable (into : ∀ i, α → E i)

/-- The step with the sentinel, where items are turned into the sentinel's type. -/
def asked : Call α E → Action α (Sentinel E)
  | plain a => a
  | peek eof => .peekOr (fun x => ⟨eof.1, into eof.1 x⟩) eof
  | read eof => .readOr (fun x => ⟨eof.1, into eof.1 x⟩) eof

/-- What the step answers with the sentinel, by what it answers without: the item in the
sentinel's type, or the sentinel. -/
def reply (k : Call α E) (r : Reply α (Sentinel E)) : Reply α (Sentinel E) :=
  match k.eof?, r with
  | some eof, .item x => .converted (x.elim eof fun x => ⟨eof.1, into eof.1 x⟩)
  | _, r => r

/-- The record of the step with the sentinel, by the one without. -/
def record (k : Call α E) (r : Record α (Sentinel E)) : Record α (Sentinel E) :=
  (k.reply into r.1, r.2)

/-- A step asked with a sentinel is the step without, but for its answer. -/
theorem scan_asked [DecidableEq α] [Item α] (k : Call α E) (b : Bench) :
    (k.asked into).scan b = (fun v => (k.reply into v.1, v.2)) <$> k.step.scan b := by
  cases k with
  | plain a => exact (id_map _).symm
  | _ =>
      simp only [asked, step, Action.scan, Scan.peekOr, Scan.readOr, bind_pure_comp,
        Functor.map_map]
      rfl

end

/-- A step that looks for an item answers it, or that there is none. -/
theorem item_of_run [DecidableEq α] [Item α] {k : Call α E} {S : Source α} {b : Bench}
    {c : Cursor} {r : Scanned α (Reply α (Sentinel E) × Bench)} (hk : k.eof?.isSome)
    (h : (k.step.scan b).run S c = .ok r) : ∃ x, r.value.1 = .item x := by
  cases k with
  | plain a => cases hk
  | _ =>
      simp only [step, Action.scan, bind_pure_comp] at h
      obtain ⟨s, -, rfl⟩ := Scan.run_map_eq_ok_iff.1 h
      exact ⟨s.value, rfl⟩

/-- The same step with another sentinel of the same type, if with any. -/
inductive Twin : Call α E → Call α E → Prop
  | plain (a : Action α (Sentinel E)) : Twin (.plain a) (.plain a)
  | peek (i : ι) (eof eof' : E i) : Twin (.peek ⟨i, eof⟩) (.peek ⟨i, eof'⟩)
  | read (i : ι) (eof eof' : E i) : Twin (.read ⟨i, eof⟩) (.read ⟨i, eof'⟩)

/-- Twins are the same step without their sentinels. -/
theorem Twin.step_eq {k k' : Call α E} (h : Twin k k') : k'.step = k.step := by
  cases h <;> rfl

/-- Only where nothing was found does the answer depend on the sentinel. -/
theorem Twin.reply_eq {k k' : Call α E} (h : Twin k k') (into : ∀ i, α → E i)
    {r : Reply α (Sentinel E)} (hr : r ≠ .item none) : k'.reply into r = k.reply into r := by
  cases h with
  | plain a => rfl
  | _ =>
      cases r with
      | item x =>
          cases x with
          | none => exact absurd rfl hr
          | some x => rfl
      | _ => rfl

end Call

/-! ## sequences of steps -/

namespace Session

/-- Steps one after the other, each of one of the cursors. -/
def ofSteps : List (Nat × Action α ε) → Session α ε
  | [] => .done
  | (slot, a) :: rest => .act slot a fun _ => ofSteps rest

/-- The steps of a sequence of calls, without the sentinels. -/
def plain (calls : List (Nat × Call α E)) : Session α (Sentinel E) :=
  ofSteps (calls.map fun k => (k.1, k.2.step))

section

variable (into : ∀ i, α → E i)

/-- The steps of a sequence of calls, with the sentinels. -/
def asked (calls : List (Nat × Call α E)) : Session α (Sentinel E) :=
  ofSteps (calls.map fun k => (k.1, k.2.asked into))

/-- The records with the sentinels, by those without. -/
def answered (calls : List (Nat × Call α E)) (rs : List (Record α (Sentinel E))) :
    List (Record α (Sentinel E)) :=
  List.zipWith (fun k r => k.2.record into r) calls rs

theorem plain_cons (slot : Nat) (k : Call α E) (calls : List (Nat × Call α E)) :
    plain ((slot, k) :: calls) = act slot k.step fun _ => plain calls := rfl

theorem asked_cons (slot : Nat) (k : Call α E) (calls : List (Nat × Call α E)) :
    asked into ((slot, k) :: calls) = act slot (k.asked into) fun _ => asked into calls := rfl

variable [DecidableEq α] [Item α] (S : Source α)

/-- A call ends as its step does, with the answer that the sentinel makes of it. -/
theorem run_asked (k : Call α E) (b : Bench) (c : Cursor) :
    (Interpreter.full.step (k.asked into) b).run S c =
      ((Interpreter.full.step k.step b).run S c).map fun r =>
        { r with value := (k.reply into r.value.1, r.value.2) } := by
  change ((k.asked into).scan b).run S c = ((k.step.scan b).run S c).map _
  rw [Call.scan_asked, Scan.run_map]

/-- Steps with sentinels are carried out as without, and refused where these are refused. -/
theorem play_asked (calls : List (Nat × Call α E)) (b : Bench) :
    (asked into calls).play .full S b =
      ((plain calls).play .full S b).map fun p =>
        { p with records := answered into calls p.records } := by
  induction calls generalizing b with
  | nil => rfl
  | cons call calls ih =>
      obtain ⟨slot, k⟩ := call
      rw [plain_cons, asked_cons]
      cases hc : b.cursors[slot]? with
      | none =>
          rw [play_act_missing hc, play_act_missing hc]
          rfl
      | some c =>
          rw [play_act hc, play_act hc, run_asked]
          cases (Interpreter.full.step k.step b).run S c with
          | error => rfl
          | ok r =>
              simp only [Except.map, bind, Except.bind, ih]
              cases (plain calls).play .full S (r.value.2.update slot r.cursor) <;> rfl

/-- Where a sentinel is asked for, there is an item or none in the record without it. -/
theorem item_of_play {S : Source α} {calls : List (Nat × Call α E)} {b : Bench}
    {p : Performance α (Sentinel E)} (hp : (plain calls).play .full S b = .ok p)
    {k : Nat × Call α E} {r : Record α (Sentinel E)} (hmem : (k, r) ∈ calls.zip p.records)
    (hk : k.2.eof?.isSome) : ∃ x, r.1 = .item x := by
  induction calls generalizing b p with
  | nil => cases hmem
  | cons call calls ih =>
      obtain ⟨slot, call⟩ := call
      rw [plain_cons] at hp
      cases hc : b.cursors[slot]? with
      | none =>
          rw [play_act_missing hc] at hp
          cases hp
          cases hmem
      | some c =>
          obtain ⟨s, rest, hs, hrest, rfl⟩ := (play_act_eq_ok_iff hc).1 hp
          rw [Performance.records_after, List.zip_cons_cons, List.mem_cons] at hmem
          rcases hmem with hfirst | hmem
          · cases hfirst
            exact Call.item_of_run hk hs
          · exact ih hrest hmem

/-- The benches that steps with sentinels pass through are those passed through without. -/
theorem moments_asked (calls : List (Nat × Call α E)) (b : Bench) :
    (asked into calls).moments .full S b = (plain calls).moments .full S b := by
  induction calls generalizing b with
  | nil => rfl
  | cons call calls ih =>
      obtain ⟨slot, k⟩ := call
      rw [plain_cons, asked_cons]
      cases hc : b.cursors[slot]? with
      | none => rw [moments_act_missing hc, moments_act_missing hc]
      | some c =>
          simp only [moments, hc, run_asked]
          cases (Interpreter.full.step k.step b).run S c with
          | error => rfl
          | ok r => exact congrArg _ (ih _)

end

/-- The same sequence with other sentinels of the same types. -/
abbrev Twins (calls calls' : List (Nat × Call α E)) : Prop :=
  List.Forall₂ (fun k k' => k'.1 = k.1 ∧ k.2.Twin k'.2) calls calls'

variable {calls calls' : List (Nat × Call α E)}

/-- Twins are the same sequence without their sentinels. -/
theorem Twins.plain_eq (h : Twins calls calls') : plain calls' = plain calls := by
  induction h with
  | nil => rfl
  | @cons k k' ks ks' hk _ ih =>
      obtain ⟨slot, k⟩ := k
      obtain ⟨slot', k'⟩ := k'
      obtain ⟨rfl, htwin⟩ := hk
      rw [plain_cons, plain_cons, htwin.step_eq, ih]

/-- Only where nothing was found do the records depend on the sentinels. -/
theorem Twins.answered_eq (h : Twins calls calls') (into : ∀ i, α → E i)
    (rs : List (Record α (Sentinel E))) (i : Nat)
    (hi : ∀ c, rs[i]? ≠ some (.item none, c)) :
    (answered into calls' rs)[i]? = (answered into calls rs)[i]? := by
  induction h generalizing rs i with
  | nil => rfl
  | cons hk _ ih =>
      cases rs with
      | nil => rfl
      | cons r rs =>
          cases i with
          | zero =>
              have hr : r.1 ≠ .item none := fun hnone => hi r.2 (hnone ▸ rfl)
              simp [answered, Call.record, hk.2.reply_eq into hr]
          | succ i => exact ih rs i hi

/-- Sentinels do not influence what is done.  A sequence of steps in which some looks for an
item are asked with sentinels, of any types, is carried out as the one without: the benches
between the steps are the same, and so is what is told.  An item found is answered in the
sentinel's type, and where nothing is found the sentinel is the answer.  With other sentinels
of the same types nothing changes but the answers where nothing is found. -/
theorem sentinels_unseen [DecidableEq α] [Item α] (into : ∀ i, α → E i) (S : Source α)
    (calls : List (Nat × Call α E)) (b : Bench) {p : Performance α (Sentinel E)}
    (hp : (plain calls).play .full S b = .ok p) :
    ∃ q, (asked into calls).play .full S b = .ok q ∧
      (asked into calls).moments .full S b = (plain calls).moments .full S b ∧
      q.bench = p.bench ∧ q.trace = p.trace ∧ q.records = answered into calls p.records ∧
      (∀ k r, (k, r) ∈ calls.zip p.records → k.2.eof?.isSome → ∃ x, r.1 = .item x) ∧
      ∀ calls', Twins calls calls' →
        ∃ q', (asked into calls').play .full S b = .ok q' ∧
          (asked into calls').moments .full S b = (asked into calls).moments .full S b ∧
          q'.bench = q.bench ∧ q'.trace = q.trace ∧
          ∀ i : Nat, q'.records[i]? ≠ q.records[i]? →
            ∃ c, p.records[i]? = some (.item none, c) := by
  refine ⟨{ p with records := answered into calls p.records }, ?_, moments_asked into S calls b,
    rfl, rfl, rfl, fun k r => item_of_play hp, fun calls' htwins =>
      ⟨{ p with records := answered into calls' p.records }, ?_, ?_, rfl, rfl, fun i hi => ?_⟩⟩
  · rw [play_asked, hp]
    rfl
  · rw [play_asked, htwins.plain_eq, hp]
    rfl
  · rw [moments_asked, moments_asked, htwins.plain_eq]
  · by_contra hnone
    exact hi (htwins.answered_eq into p.records i fun c hc => hnone ⟨c, hc⟩)

/-- Characters, and perhaps characters. -/
def Characters : Bool → Type
  | false => Char
  | true => Option Char

/-- A character as either of them. -/
def Characters.into : ∀ i, Char → Characters i
  | false => id
  | true => some

/-- Reads up to the end and beyond, looks ahead there, and goes back to the start. -/
def beyond (eof : Char) (eof' : Option Char) : List (Nat × Call Char Characters) :=
  [(0, .plain .checkpoint), (0, .read ⟨false, eof⟩), (0, .read ⟨true, eof'⟩),
    (0, .read ⟨false, eof⟩), (0, .peek ⟨true, eof'⟩), (0, .plain (.restore 0)),
    (0, .read ⟨false, eof⟩)]

/-- A line feed that is answered at the end starts no line, and is told as an end. -/
theorem sentinels_unseen_beyond :
    ∃ p q q' : Performance Char (Sentinel Characters),
      (plain (beyond '\n' none)).play .full (.ofArray #['a', '\n'])
        (.single (Cursor.startingAt 0).withCounter) = .ok p ∧
      (asked Characters.into (beyond '\n' none)).play .full (.ofArray #['a', '\n'])
        (.single (Cursor.startingAt 0).withCounter) = .ok q ∧
      (asked Characters.into (beyond 'a' (some '\n'))).play .full (.ofArray #['a', '\n'])
        (.single (Cursor.startingAt 0).withCounter) = .ok q' ∧
      q.bench = p.bench ∧ q'.bench = p.bench ∧ q.trace = p.trace ∧ q'.trace = p.trace ∧
      q.records[2]? = some (.converted ⟨true, some '\n'⟩, ⟨2, [⟨⟨1, 0⟩, some ⟨0, 1⟩⟩]⟩) ∧
      q.records[3]? = some (.converted ⟨false, '\n'⟩, ⟨3, [⟨⟨1, 0⟩, some ⟨0, 1⟩⟩]⟩) ∧
      ∀ i : Nat, q'.records[i]? ≠ q.records[i]? →
        ∃ c, p.records[i]? = some (.item none, c) := by
  have hp : (plain (beyond '\n' none)).play .full (.ofArray #['a', '\n'])
      (.single (Cursor.startingAt 0).withCounter) = .ok _ := rfl
  have htwins : Twins (beyond '\n' none) (beyond 'a' (some '\n')) := by
    simp only [Twins, beyond, List.forall₂_cons, List.Forall₂.nil, true_and, and_true]
    exact ⟨.plain _, .read .., .read .., .read .., .peek .., .plain _, .read ..⟩
  obtain ⟨q, hq, -, hbench, htrace, hrecords, -, hothers⟩ :=
    sentinels_unseen Characters.into _ _ _ hp
  obtain ⟨q', hq', -, hbench', htrace', hdiffer⟩ := hothers _ htwins
  exact ⟨_, q, q', hp, hq, hq', hbench, hbench'.trans hbench, htrace, htrace'.trans htrace,
    hrecords ▸ rfl, hrecords ▸ rfl, hdiffer⟩

end Session

end ScanCursor
