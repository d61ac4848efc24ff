import Mathlib.Algebra.GroupWithZero.Nat
import Mathlib.Data.List.ReduceOption
import ScanCursor.Proofs.Course
import ScanCursor.Proofs.Erasure
import ScanCursor.Proofs.Slice

/-!
# ScanCursor.Proofs.Tiling

The spans of the steps tile the text.

A step covers the positions from where the cursor was to where it left it.  In a routine
that reads, and tries what it reads, no step goes back behind where it began; so one
after the other the spans join to the span of the whole, their lengths add up, and what
the text has at each of them is, put together, what it has at the whole
(`Text.Tiles`).  At a single step it is what the step has consumed
(`Routine.tiles_of_yields`).

Positions may lie past the end: there spans go on growing, and what the text has at them
is nothing.
-/

namespace ScanCursor

variable {α ε : Type}

/-! ## reads in a row -/

namespace Text

variable {t : Text}

/-- What the text has where reads in a row have gone. -/
theorem slice_readTimes (ht : t.toList.length ≤ Word.top.toNat) {n : Nat} {c d : Cursor}
    {xs : List (Option Char)} {es : Trace Char}
    (h : (Scan.readTimes n).run t.source c = .ok ⟨xs, d, es⟩) :
    c.position ≤ d.position ∧
      t.slice (d.spanFrom c.position) =
        String.ofList (t.source.ahead n c.position).reduceOption := by
  induction n generalizing c xs es with
  | zero =>
      rw [Scan.readTimes_zero] at h
      cases h
      exact ⟨UInt64.le_refl _, slice_self t _⟩
  | succ n ih =>
      obtain ⟨e, u, hread, hu, ⟨⟩⟩ := Scan.run_readTimes_succ_eq_ok_iff.1 h
      have hposition := (Cursor.read_eq_ok_iff.1 hread).2.1
      obtain ⟨hle, hslice⟩ := ih hu
      rw [hposition] at hle hslice
      have hfirst := Word.le_addSat c.position 1
      refine ⟨UInt64.le_trans hfirst hle, ?_⟩
      calc
        t.slice (u.cursor.spanFrom c.position) =
            t.slice ⟨c.position, Word.addSat c.position 1⟩ ++
              t.slice ⟨Word.addSat c.position 1, u.cursor.position⟩ :=
          (slice_append t hfirst hle).symm
        _ = String.ofList ((t.source.get? c.position).toList ++
              (t.source.ahead n (Word.addSat c.position 1)).reduceOption) := by
          rw [slice_succ ht, String.ofList_append, ← hslice]
          rfl
        _ = String.ofList (t.source.ahead (n + 1) c.position).reduceOption := by
          rw [Source.ahead, ← List.singleton_append, List.reduceOption_append,
            List.reduceOption_singleton]

end Text

/-! ## what a step consumes -/

/-- A step that reads, by a judge or by a wish if not by itself. -/
def Action.IsReading : Action α ε → Prop
  | .read | .readIf _ | .readWhile _ | .expect _ => True
  | _ => False

/-- What one read finds, or none. -/
theorem Source.reduceOption_ahead (S : Source α) {n : Nat} (hn : n ≤ 1) (p : Word) :
    (S.ahead n p).reduceOption = (S.ahead n p).head?.join.toList := by
  match n, hn with
  | 0, _ => rfl
  | 1, _ => exact List.reduceOption_singleton _

/-- A judge that recalls what it was shown recalls first what it accepted. -/
theorem Source.items_remembered (S : Source α) (passes : Shown α → α → Bool) (n : Nat)
    (shown : Shown α) (p : Word) :
    ∃ rest, (S.remembered (Judge.recalling passes) n shown p).items.reverse =
        shown.items.reverse ++
          (S.ahead (S.accepted (Judge.recalling passes) n shown p) p).reduceOption ++ rest ∧
      (S.ahead (S.accepted (Judge.recalling passes) n shown p) p).reduceOption.length =
        S.accepted (Judge.recalling passes) n shown p := by
  induction n, shown, p using judged_induction S (Judge.recalling passes) with
  | zero => exact ⟨[], by simp [remembered, accepted, ahead], rfl⟩
  | absent hx =>
      rw [accepted_absent hx, remembered_absent hx]
      exact ⟨[], by simp [ahead], rfl⟩
  | @refused _ shown p x hx hj =>
      rw [accepted_refused hx hj, remembered_refused hx hj]
      exact ⟨[x], by simp [ahead, Judge.recalling], rfl⟩
  | accepted hx hj ih =>
      obtain ⟨rest, hitems, hlength⟩ := ih
      rw [accepted_succ hx hj, remembered_succ hx hj, Nat.add_comm 1, ahead, hx,
        List.reduceOption_cons_of_some]
      refine ⟨rest, ?_, ?_⟩
      · rw [hitems, Judge.recalling]
        simp
      · rw [List.length_cons]
        exact congrArg (· + 1) hlength

section

variable [DecidableEq α] [Item α] {S : Source α}

/-- What the step consumes between `c` and `d` when it answers the reply: the item that it
read, accepted or expected, or as many of the items shown to its judge as it counted. -/
def Action.Consumes (S : Source α) (c d : Cursor) (xs : List α) :
    Action α ε → Reply α ε → Prop
  | .read, .item x | .readIf _, .accepted x _ => xs = x.toList
  | .readWhile passes, .counted n _ =>
    ∃ shown, (Scan.readWhile (Judge.recalling passes) (.ofList [])).Yields S c (n, shown) d ∧
      xs = shown.items.reverse.take n
  | .expect _, .expected result => xs = result.toOption.toList
  | _, _ => False

/-- What the reads of the course have found; nothing if they are taken back. -/
def Course.consumed (S : Source α) (c : Cursor) : Course → List α
  | reads n => (S.ahead n c.position).reduceOption
  | attempt | jump _ | recount | back _ => []

variable {a : Action α ε} {b : Bench} {c : Cursor} {r : Scanned α (Reply α ε × Bench)}

/-- What a step consumes is what the reads of its course have found. -/
theorem Action.consumes_course (ha : a.IsReading) (h : (a.scan b).run S c = .ok r) :
    a.Consumes S c r.cursor ((a.course S b c).consumed S c) r.value.1 := by
  cases a with
  | read =>
      rw [scan, bind_pure_comp, Scan.run_map_eq_ok_iff] at h
      obtain ⟨t, ht, rfl⟩ := h
      have hvalue := (Cursor.read_eq_ok_iff.1 (Scan.run_read_eq_ok_iff.1 ht).1).1
      rw [Consumes, hvalue, course, Course.consumed]
      exact List.reduceOption_singleton _
  | readIf passes =>
      simp only [scan, bind_pure_comp] at h
      obtain ⟨t, ht, rfl⟩ := Scan.run_map_eq_ok_iff.1 h
      rw [Scan.run_readIf, map_eq_ok_iff] at ht
      obtain ⟨u, hu, rfl⟩ := ht
      have hle := S.accepted_le (Judge.recalling passes) 1 (.ofList []) c.position
      rw [Consumes, course, Course.consumed, Scan.value_of_readTimes hu]
      exact S.reduceOption_ahead hle c.position
  | readWhile passes =>
      simp only [scan, bind_pure_comp] at h
      obtain ⟨t, ht, rfl⟩ := Scan.run_map_eq_ok_iff.1 h
      obtain ⟨-, u, hu, rfl⟩ := Scan.run_readWhile_eq_ok_iff.1 ht
      -- The judge remembers what it was shown; the items it accepted are the first of them.
      obtain ⟨rest, hitems, hlength⟩ :=
        S.items_remembered passes (Word.top.toNat + 1) {} c.position
      refine ⟨_, Scan.yields_of_run ht, ?_⟩
      rw [hitems, course, Course.consumed]
      simp only [List.reverse_nil, List.nil_append]
      exact (List.take_left' hlength).symm
  | expect wanted =>
      rw [scan, bind_pure_comp, Scan.run_map_eq_ok_iff] at h
      obtain ⟨t, ht, rfl⟩ := h
      rw [Consumes, Scan.value_of_expect ht, course]
      by_cases hfound : S.get? c.position = some wanted
      · rw [if_pos hfound, if_pos hfound, Course.consumed, Source.ahead, hfound]
        rfl
      · rw [if_neg hfound, if_neg hfound]
        rfl
  | _ => exact ha.elim

end

/-- A course of reads, taken back or not. -/
def Course.IsReading : Course → Prop
  | reads _ | attempt => True
  | jump _ | recount | back _ => False

/-- A step that reads takes a course of reads. -/
theorem Action.isReading_course [DecidableEq α] {S : Source α} {b : Bench} {c : Cursor}
    {a : Action α ε} (ha : a.IsReading) : (a.course S b c).IsReading := by
  cases a with
  | read | readIf | readWhile => trivial
  | expect wanted =>
      simp only [course]
      split <;> trivial
  | _ => exact ha.elim

/-- Where reads have gone the text has what they have found. -/
theorem Course.Leads.slice_eq {t : Text} (ht : t.toList.length ≤ Word.top.toNat) {x : Course}
    {c d : Cursor} {es : Trace Char} (h : x.Leads t.source c es d) (hx : x.IsReading) :
    c.position ≤ d.position ∧
      t.slice (d.spanFrom c.position) = String.ofList (x.consumed t.source c) := by
  cases x with
  | reads n =>
      obtain ⟨xs, hrun⟩ := h
      exact t.slice_readTimes ht hrun
  | attempt =>
      obtain ⟨e, -, rfl, -⟩ := h
      exact ⟨UInt64.le_refl _, t.slice_self _⟩
  | jump | recount | back => exact hx.elim

/-! ## tilings -/

instance : Std.Associative Span.join := ⟨fun _ _ _ => rfl⟩

/-- The spans of the steps one after the other, the first one from `p`. -/
def Record.spans (p : Word) : List (Record α ε) → List Span
  | [] => []
  | r :: rs => r.2.spanFrom p :: spans r.2.position rs

/-- From `p` to the cursor `d` no step goes back behind where it began, and the spans of
the steps, and what the text has at them, put together are those of the whole. -/
structure Text.Tiles (t : Text) (p : Word) (rs : List (Record Char ε)) (d : Cursor) : Prop where
  le : p ≤ d.position
  ascending : (p :: rs.map fun r => r.2.position).Pairwise (· ≤ ·)
  length : ((Record.spans p rs).map fun s => s.length.toNat).sum = (d.spanFrom p).length.toNat
  join : ∀ s ss, Record.spans p rs = s :: ss → ss.foldl Span.join s = d.spanFrom p
  slice : String.join ((Record.spans p rs).map t.slice) = t.slice (d.spanFrom p)

namespace Text.Tiles

variable {t : Text} {p : Word} {rs : List (Record Char ε)} {d e : Cursor}

/-- Without a step nothing is consumed. -/
theorem nil (t : Text) (d : Cursor) : t.Tiles d.position ([] : List (Record Char ε)) d where
  le := UInt64.le_refl _
  ascending := List.pairwise_singleton _ _
  length := by
    rw [Cursor.spanFrom, Span.toNat_length, Nat.sub_self]
    rfl
  join s ss h := by cases h
  slice := (t.slice_self d.position).symm

/-- One more step before the others. -/
theorem cons (h : t.Tiles e.position rs d) (hpe : p ≤ e.position) (reply : Reply Char ε) :
    t.Tiles p ((reply, e) :: rs) d where
  le := UInt64.le_trans hpe h.le
  ascending := by
    refine List.pairwise_cons.2 ⟨fun q hq => ?_, h.ascending⟩
    rcases List.mem_cons.1 hq with rfl | hq
    · exact hpe
    · exact UInt64.le_trans hpe ((List.pairwise_cons.1 h.ascending).1 q hq)
  length := by
    have hrest := h.length
    have hle := UInt64.le_iff_toNat_le.1 hpe
    have hle' := UInt64.le_iff_toNat_le.1 h.le
    simp only [Record.spans, List.map_cons, List.sum_cons, Cursor.spanFrom,
      Span.toNat_length] at hrest ⊢
    omega
  join s ss hs := by
    obtain ⟨rfl, rfl⟩ := List.cons_eq_cons.1 hs
    cases hspans : Record.spans e.position rs with
    | nil =>
        -- Nothing comes after the step, so it ends where the whole ends.
        have hlength := h.length
        have hle := UInt64.le_iff_toNat_le.1 h.le
        simp only [hspans, Cursor.spanFrom, Span.toNat_length, List.map_nil,
          List.sum_nil] at hlength
        have hend : d.position = e.position := UInt64.toNat.inj (by omega)
        rw [List.foldl_nil, Cursor.spanFrom, Cursor.spanFrom, hend]
    | cons s ss => rw [List.foldl_cons, List.foldl_assoc, h.join s ss hspans]; rfl
  slice := by
    rw [Record.spans, List.map_cons, String.join_cons, h.slice]
    exact t.slice_append hpe h.le

end Text.Tiles

/-! ## routines -/

namespace Routine

/-- Whether the routine takes no other steps, whatever it is answered. -/
def Only (A : Action α ε → Prop) : Routine α ε → Prop
  | .done => True
  | .act a next => A a ∧ ∀ record, (next record).Only A
  | .block body next | .trying _ body next => body.Only A ∧ ∀ record, (next record).Only A

/-- At every step the text has what the step has consumed; and every body's steps tile
what the body has come by, which is nothing in the end if the body is taken back. -/
def Covers (t : Text) : Routine Char ε → Cursor → List (Record Char ε) → Prop
  | .done, _, rs => rs = []
  | .act a next, c, rs =>
    ∃ reply d rest, rs = (reply, d) :: rest ∧
      (∃ xs, a.Consumes t.source c d xs reply ∧
        t.slice (d.spanFrom c.position) = String.ofList xs) ∧
      (next (reply, d)).Covers t d rest
  | .block body next, c, rs =>
    ∃ inner d rest, rs = (.body inner, d) :: rest ∧
      t.Tiles c.position inner d ∧ body.Covers t c inner ∧ (next (.body inner, d)).Covers t d rest
  | .trying reject body next, c, rs =>
    ∃ inner e d rest, rs = (.body inner, d) :: rest ∧
      t.Tiles c.position inner e ∧ body.Covers t c inner ∧ d = (if reject inner then c else e) ∧
      (next (.body inner, d)).Covers t d rest

/-- The spans of a routine's steps tile the text from where the routine begins to where it
ends, and at every step the text has what the step has consumed. -/
theorem tiles_of_yields {t : Text} (ht : t.toList.length ≤ Word.top.toNat) {P : Routine Char ε}
    (hP : P.Only Action.IsReading) {b : Bench} {c d : Cursor} {rs : List (Record Char ε)}
    (h : (P.scan b).Yields t.source c rs d) :
    t.Tiles c.position rs d ∧ P.Covers t c rs := by
  induction P generalizing b c d rs with
  | done =>
      obtain ⟨rfl, rfl⟩ := Scan.yields_pure_iff.1 h
      exact ⟨.nil t _, rfl⟩
  | act a next ih =>
      obtain ⟨reply, b', e, ⟨es, ha⟩, rest, hrest, rfl⟩ := yields_act_iff.1 h
      obtain ⟨htiles, hcovers⟩ := ih _ (hP.2 _) hrest
      have hcourse := Action.run_course ha
      obtain ⟨hle, hslice⟩ := hcourse.slice_eq ht (Action.isReading_course hP.1)
      have hconsumes := Action.consumes_course hP.1 ha
      exact ⟨htiles.cons hle reply, reply, e, rest, rfl, ⟨_, hconsumes, hslice⟩, hcovers⟩
  | block body next ihb ihn =>
      obtain ⟨inner, e, hbody, rest, hrest, rfl⟩ := yields_block_iff.1 h
      obtain ⟨htiles, hcovers⟩ := ihb hP.1 hbody
      obtain ⟨htiles', hcovers'⟩ := ihn _ (hP.2 _) hrest
      exact ⟨htiles'.cons htiles.le _, inner, e, rest, rfl, htiles, hcovers, hcovers'⟩
  | trying reject body next ihb ihn =>
      obtain ⟨inner, f, ⟨e, hbody, hf⟩, rest, hrest, rfl⟩ := yields_trying_iff.1 h
      obtain ⟨htiles, hcovers⟩ := ihb hP.1 hbody
      obtain ⟨htiles', hcovers'⟩ := ihn _ (hP.2 _) hrest
      -- kept or taken back, the body ends no earlier than where it began
      have hle : c.position ≤ f.position := by
        rw [hf]
        split
        · exact UInt64.le_refl _
        · exact htiles.le
      exact ⟨htiles'.cons hle _, inner, e, f, rest, rfl, htiles, hcovers, hf, hcovers'⟩

/-- A blank, a body that is taken back after it read a word and did not find what it
wants, the word, and two reads past it. -/
def words : Routine Char Char :=
  act (.readIf fun _ x => x = ' ') fun _ =>
    trying (fun _ => true)
      (act (.readWhile fun _ x => x ≠ '\n') fun _ => act (.expect '.') fun _ => done) fun _ =>
      act (.readWhile fun _ x => x ≠ '\n') fun _ => act .read fun _ => act .read fun _ => done

/-- The word that the body gives back is read again behind it; the read past the end takes a
position, and nothing of the text. -/
theorem tiles_of_yields_words :
    ((Text.ofString " ab\n").toList.length ≤ Word.top.toNat ∧ words.Only Action.IsReading) ∧
    ∃ rs d,
      (words.scan {}).Yields (Text.ofString " ab\n").source (Cursor.startingAt 0).withCounter rs d ∧
      (Record.spans 0 rs = [⟨0, 1⟩, ⟨1, 1⟩, ⟨1, 3⟩, ⟨3, 4⟩, ⟨4, 5⟩] ∧ d.position = 5) ∧
      (Text.ofString " ab\n").Tiles 0 rs d ∧
      words.Covers (Text.ofString " ab\n") (Cursor.startingAt 0).withCounter rs := by
  have hlength : (Text.ofString " ab\n").toList.length ≤ Word.top.toNat := by decide
  have honly : words.Only Action.IsReading := by simp [words, Only, Action.IsReading]
  have hrun : ((words.scan {}).run (Text.ofString " ab\n").source
      (Cursor.startingAt 0).withCounter).toOption.map
        (fun r => (Record.spans 0 r.value, r.cursor.position)) =
          some ([⟨0, 1⟩, ⟨1, 1⟩, ⟨1, 3⟩, ⟨3, 4⟩, ⟨4, 5⟩], 5) := by decide +kernel
  obtain ⟨r, hr, hends⟩ := Option.map_eq_some_iff.1 hrun
  have hyields := Scan.yields_of_run (eq_ok_of_toOption hr)
  obtain ⟨htiles, hcovers⟩ := tiles_of_yields hlength honly hyields
  exact ⟨⟨hlength, honly⟩, r.value, r.cursor, hyields, Prod.mk.inj hends, htiles, hcovers⟩

end Routine

end ScanCursor
