import ScanCursor.Script.Basic

/-!
# ScanCursor.Proofs.Erasure

Speculation that was taken back can be erased.

A routine is a program of one cursor, in which what is done next may depend on
all that was answered before.  Checkpoints are local: every body starts without
any.  From a routine and what it answered, `erase` makes the routine in which
every body that was taken back is left out, and every body that was kept stands
as a plain block.  It ends in the same cursor, and answers what the steps that
are left had answered (`yields_erase`).
-/

namespace ScanCursor

/-- A program of one cursor. -/
inductive Routine (α ε : Type) where
  | done
  | act (a : Action α ε) (next : Record α ε → Routine α ε)
  /-- A body, kept. -/
  | block (body : Routine α ε) (next : Record α ε → Routine α ε)
  /-- A body, taken back if its records are rejected. -/
  | trying (reject : List (Record α ε) → Bool) (body : Routine α ε)
      (next : Record α ε → Routine α ε)

namespace Routine

variable {α ε : Type}

/-- The routine as a scan, with the checkpoints it starts with: the records of its
steps.  Bodies start with no checkpoints. -/
def scan [DecidableEq α] [Item α] : Routine α ε → Bench → Scan α (List (Record α ε))
  | .done, _ => return []
  | .act a next, b => do
    let (reply, b) ← a.scan b
    let c ← Scan.checkpoint
    ((reply, c) :: ·) <$> (next (reply, c)).scan b
  | .block body next, b => do
    let inner ← body.scan {}
    let c ← Scan.checkpoint
    ((.body inner, c) :: ·) <$> (next (.body inner, c)).scan b
  | .trying reject body next, b => do
    let inner ← Scan.rewindIf reject (body.scan {})
    let c ← Scan.checkpoint
    ((.body inner, c) :: ·) <$> (next (.body inner, c)).scan b

/-- The routine without what was taken back when it answered `rs`. -/
def erase : Routine α ε → List (Record α ε) → Routine α ε
  | .act a next, r :: rs => .act a fun _ => (next r).erase rs
  | .block body next, (.body inner, c) :: rs =>
    .block (body.erase inner) fun _ => (next (.body inner, c)).erase rs
  | .trying reject body next, (.body inner, c) :: rs =>
    if reject inner then (next (.body inner, c)).erase rs
    else .block (body.erase inner) fun _ => (next (.body inner, c)).erase rs
  | _, _ => .done

/-- The records without those of the steps that are erased. -/
def kept : Routine α ε → List (Record α ε) → List (Record α ε)
  | .act _ next, r :: rs => r :: (next r).kept rs
  | .block body next, (.body inner, c) :: rs =>
    (.body (body.kept inner), c) :: (next (.body inner, c)).kept rs
  | .trying reject body next, (.body inner, c) :: rs =>
    if reject inner then (next (.body inner, c)).kept rs
    else (.body (body.kept inner), c) :: (next (.body inner, c)).kept rs
  | _, _ => []

/-- Nothing is tried. -/
def Settled : Routine α ε → Prop
  | .done => True
  | .act _ next => ∀ r, (next r).Settled
  | .block body next => body.Settled ∧ ∀ r, (next r).Settled
  | .trying _ _ _ => False

/-- What is left of a routine tries nothing. -/
theorem settled_erase (P : Routine α ε) (rs : List (Record α ε)) : (P.erase rs).Settled := by
  fun_induction erase P rs with
  | case1 a next r rs ih => exact fun _ => ih
  | case2 body next inner c rs ihb ihn => exact ⟨ihb, fun _ => ihn⟩
  | case3 reject body next inner c rs hreject ihn => exact ihn
  | case4 reject body next inner c rs hreject ihb ihn => exact ⟨ihb, fun _ => ihn⟩
  | case5 => exact trivial

/-! ## what a routine answers -/

/-- A step's record is noted before all that come after it. -/
theorem yields_note_iff {S : Source α} {c d : Cursor} {rs : List (Record α ε)}
    {reply : Reply α ε} {k : Cursor → Scan α (List (Record α ε))} :
    (do
      let c ← Scan.checkpoint
      ((reply, c) :: ·) <$> k c : Scan α (List (Record α ε))).Yields S c rs d ↔
        ∃ rest, (k c).Yields S c rest d ∧ (reply, c) :: rest = rs := by
  rw [Scan.checkpoint, Scan.yields_bind_iff]
  constructor
  · rintro ⟨e, f, hlook, hrest⟩
    obtain ⟨rfl, rfl⟩ := Scan.yields_look_iff.1 hlook
    exact Scan.yields_map_iff.1 hrest
  · intro hrest
    exact ⟨c, c, Scan.yields_look_iff.2 ⟨rfl, rfl⟩, Scan.yields_map_iff.2 hrest⟩

section

variable [DecidableEq α] [Item α] {S : Source α} {b : Bench} {c d : Cursor}
  {rs : List (Record α ε)} {body : Routine α ε} {next : Record α ε → Routine α ε}

/-- A step and what follows its record. -/
theorem yields_act_iff {a : Action α ε} :
    ((act a next).scan b).Yields S c rs d ↔
      ∃ reply b' e, (a.scan b).Yields S c (reply, b') e ∧
        ∃ rest, ((next (reply, e)).scan b').Yields S e rest d ∧ (reply, e) :: rest = rs := by
  rw [scan, Scan.yields_bind_iff]
  simp only [Prod.exists, yields_note_iff]

/-- A body, made on a bench of its own, and what follows its records. -/
theorem yields_block_iff :
    ((block body next).scan b).Yields S c rs d ↔
      ∃ inner e, (body.scan {}).Yields S c inner e ∧
        ∃ rest, ((next (.body inner, e)).scan b).Yields S e rest d ∧
          (.body inner, e) :: rest = rs := by
  rw [scan, Scan.yields_bind_iff]
  simp only [yields_note_iff]

/-- A body that may be taken back, and what follows its records: its cursor is the one from
before if the records are rejected. -/
theorem yields_trying_iff {reject : List (Record α ε) → Bool} :
    ((trying reject body next).scan b).Yields S c rs d ↔
      ∃ inner f, (∃ e, (body.scan {}).Yields S c inner e ∧ f = if reject inner then c else e) ∧
        ∃ rest, ((next (.body inner, f)).scan b).Yields S f rest d ∧
          (.body inner, f) :: rest = rs := by
  rw [scan, Scan.yields_bind_iff]
  simp only [Scan.yields_rewindIf_iff, yields_note_iff]

end

/-- Every step's record is what the step answers where it stands; in particular a
body's record is what the body answers, also if it is taken back. -/
def Answers [DecidableEq α] [Item α] (S : Source α) :
    Routine α ε → Bench → Cursor → List (Record α ε) → Prop
  | .done, _, _, rs => rs = []
  | .act a next, b, c, rs =>
    ∃ reply b' d rest, rs = (reply, d) :: rest ∧ (a.scan b).Yields S c (reply, b') d ∧
      (next (reply, d)).Answers S b' d rest
  | .block body next, b, c, rs =>
    ∃ inner d rest, rs = (.body inner, d) :: rest ∧ (body.scan {}).Yields S c inner d ∧
      body.Answers S {} c inner ∧ (next (.body inner, d)).Answers S b d rest
  | .trying reject body next, b, c, rs =>
    ∃ inner e d rest, rs = (.body inner, d) :: rest ∧ (body.scan {}).Yields S c inner e ∧
      body.Answers S {} c inner ∧ d = (if reject inner then c else e) ∧
      (next (.body inner, d)).Answers S b d rest

/-- What a routine yields are its answers, one record after another. -/
theorem answers_of_yields [DecidableEq α] [Item α] {S : Source α} (P : Routine α ε) {b : Bench}
    {c d : Cursor} {rs : List (Record α ε)} (h : (P.scan b).Yields S c rs d) :
    P.Answers S b c rs := by
  induction P generalizing b c d rs with
  | done =>
      rw [scan, Scan.yields_pure_iff] at h
      exact h.1
  | act a next ih =>
      obtain ⟨reply, b', e, ha, rest, hrest, hrs⟩ := yields_act_iff.1 h
      exact ⟨reply, b', e, rest, hrs.symm, ha, ih _ hrest⟩
  | block body next ihb ihn =>
      obtain ⟨inner, e, hbody, rest, hrest, hrs⟩ := yields_block_iff.1 h
      exact ⟨inner, e, rest, hrs.symm, hbody, ihb hbody, ihn _ hrest⟩
  | trying reject body next ihb ihn =>
      obtain ⟨inner, f, ⟨e, hbody, hf⟩, rest, hrest, hrs⟩ := yields_trying_iff.1 h
      exact ⟨inner, e, f, rest, hrs.symm, hbody, ihb hbody, hf, ihn _ hrest⟩

/-! ## erasing -/

/-- What is left of a routine yields the records that are kept, and ends at the same
cursor. -/
theorem yields_erase_kept [DecidableEq α] [Item α] {S : Source α} (P : Routine α ε) {b : Bench}
    {c d : Cursor} {rs : List (Record α ε)} (h : (P.scan b).Yields S c rs d) :
    ((P.erase rs).scan b).Yields S c (P.kept rs) d := by
  induction P generalizing b c d rs with
  | done =>
      obtain ⟨rfl, rfl⟩ := Scan.yields_pure_iff.1 h
      exact Scan.yields_pure_iff.2 ⟨rfl, rfl⟩
  | act a next ih =>
      obtain ⟨reply, b', e, ha, rest, hrest, rfl⟩ := yields_act_iff.1 h
      have hrest' := ih (reply, e) hrest
      rw [erase, kept, yields_act_iff]
      exact ⟨reply, b', e, ha, _, hrest', rfl⟩
  | block body next ihb ihn =>
      obtain ⟨inner, e, hbody, rest, hrest, rfl⟩ := yields_block_iff.1 h
      have hbody' := ihb hbody
      have hrest' := ihn (.body inner, e) hrest
      rw [erase, kept, yields_block_iff]
      exact ⟨_, e, hbody', _, hrest', rfl⟩
  | trying reject body next ihb ihn =>
      obtain ⟨inner, f, ⟨e, hbody, hf⟩, rest, hrest, rfl⟩ := yields_trying_iff.1 h
      have hbody' := ihb hbody
      have hrest' := ihn (.body inner, f) hrest
      rw [erase, kept]
      by_cases hreject : reject inner
      · -- The rest starts where the body began, with the checkpoints it began with.
        rw [if_pos hreject] at hf
        rw [if_pos hreject, if_pos hreject]
        rw [hf] at hrest' ⊢
        exact hrest'
      · rw [if_neg hreject] at hf
        rw [if_neg hreject, if_neg hreject, yields_block_iff]
        rw [← hf] at hbody'
        exact ⟨_, f, hbody', _, hrest', rfl⟩

/-- A routine answers what its steps answer, bodies that are taken back included.
The routine without them tries nothing, ends in the same cursor and answers what
the steps that are left had answered. -/
theorem yields_erase [DecidableEq α] [Item α] (S : Source α) (P : Routine α ε) (b : Bench)
    (c : Cursor) {rs : List (Record α ε)} {d : Cursor} (h : (P.scan b).Yields S c rs d) :
    P.Answers S b c rs ∧ (P.erase rs).Settled ∧
      ((P.erase rs).scan b).Yields S c (P.kept rs) d :=
  ⟨P.answers_of_yields h, P.settled_erase rs, P.yields_erase_kept h⟩

/-- In a body that is kept, a body that is taken back after it went to another
place and back to a checkpoint of its own. -/
def detour : Routine Char Char :=
  trying (fun _ => false)
    (act .read fun _ =>
      trying (fun _ => true)
        (act .checkpoint fun _ => act (.jump 0) fun _ => act .read fun _ =>
          act (.restore 0) fun _ => act (.expect 'x') fun _ => done) fun _ =>
        act .read fun _ => done) fun _ =>
    act (.expect 'b') fun _ => done

/-- A routine that reads, tries two ways inside one another and takes back one of them. -/
theorem yields_erase_detour :
    ∃ rs d,
      (detour.scan {}).Yields (Source.ofArray #['a', '\n', 'b'])
        (Cursor.startingAt 0).withCounter rs d ∧
      d.position = 3 ∧ rs.length = 2 ∧ (detour.erase rs).Settled ∧
      ((detour.erase rs).scan {}).Yields (Source.ofArray #['a', '\n', 'b'])
        (Cursor.startingAt 0).withCounter (detour.kept rs) d := by
  have hrun : ((detour.scan {}).run (Source.ofArray #['a', '\n', 'b'])
      (Cursor.startingAt 0).withCounter).toOption.map
        (fun r => (r.cursor.position, r.value.length)) = some (3, 2) := by decide +kernel
  obtain ⟨r, hr, hends⟩ := Option.map_eq_some_iff.1 hrun
  have hyields := Scan.yields_of_run (eq_ok_of_toOption hr)
  obtain ⟨hposition, hlength⟩ := Prod.mk.inj hends
  obtain ⟨-, hsettled, herase⟩ := yields_erase _ _ _ _ hyields
  exact ⟨r.value, r.cursor, hyields, hposition, hlength, hsettled, herase⟩

/-! ## scripts -/

/-- A script as a routine that does not look at its answers. -/
def ofScript : Script α ε → Routine α ε
  | .done => .done
  | .act a rest => .act a fun _ => ofScript rest
  | .trying reject body rest => .trying reject (ofScript body) fun _ => ofScript rest

end Routine

section

variable {α ε : Type}

/-- A step that leaves the bench alone. -/
def Action.IsLocal : Action α ε → Prop
  | .clone | .checkpoint | .restore _ => False
  | _ => True

/-- Whether the script takes no other steps. -/
def Script.Only (A : Action α ε → Prop) : Script α ε → Prop
  | .done => True
  | .act a rest => A a ∧ rest.Only A
  | .trying _ body rest => body.Only A ∧ rest.Only A

variable [DecidableEq α] [Item α] {S : Source α} {c d : Cursor} {b b₀ b' : Bench}

/-- A local step neither reads the bench nor changes it. -/
theorem Action.scan_of_isLocal {a : Action α ε} (ha : a.IsLocal) (b b₀ : Bench) :
    a.scan b = (fun v => (v.1, b)) <$> a.scan b₀ := by
  cases a <;> simp only [Action.scan, bind_pure_comp, Functor.map_map] <;> exact ha.elim

/-- A script that makes and uses no checkpoints and no copies does, on any bench,
what it does as a routine. -/
theorem Script.scan_eq_ofScript {s : Script α ε} (hs : s.Only Action.IsLocal) (b b₀ : Bench) :
    s.scan b = (fun rs => (rs, b)) <$> (Routine.ofScript s).scan b₀ := by
  induction s generalizing b b₀ with
  | done => rfl
  | act a rest ih =>
      rw [Script.scan, Action.scan_of_isLocal hs.1 b b₀, Routine.ofScript, Routine.scan]
      simp only [bind_map_left, map_bind, Functor.map_map]
      congr 1
      funext v
      congr 1
      funext c
      rw [ih hs.2 b v.2, Functor.map_map]
      rfl
  | trying reject body rest ihb ihr =>
      rw [Script.scan, ihb hs.1 b {}, Routine.ofScript, Routine.scan, Scan.rewindIf_map]
      simp only [bind_map_left, map_bind, Functor.map_map]
      congr 1
      funext inner
      congr 1
      funext c
      rw [ihr hs.2 b b₀, Functor.map_map]
      rfl

end

end ScanCursor
