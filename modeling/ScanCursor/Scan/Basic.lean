import ScanCursor.Trace

/-!
# ScanCursor.Scan.Basic

A scan is a program that moves one cursor over one source.  It ends with a
value, the cursor where it left it, and the trace of what it did; or it is
refused because a counter or a count overflowed.

Scans form a lawful monad: one after the other, the second starts where the
first left the cursor, and their traces follow one another.  `run_bind` is the
equation to compute with.
-/

namespace ScanCursor

/-- How a scan ends. -/
structure Scanned (α β : Type) where
  value : β
  cursor : Cursor
  trace : Trace α

/-- A program that moves a cursor over a source of `α`, for a `β`. -/
def Scan (α β : Type) : Type := Source α → Cursor → Except Overflow (Scanned α β)

namespace Scan

variable {α β γ : Type}

/-- The scan made over a source from a cursor. -/
def run (x : Scan α β) (S : Source α) (c : Cursor) : Except Overflow (Scanned α β) := x S c

/-- Scans that run alike over all sources from all cursors are the same. -/
@[ext] theorem ext {x y : Scan α β} (h : ∀ S c, x.run S c = y.run S c) : x = y :=
  funext fun S => funext fun c => h S c

instance : Monad (Scan α) where
  pure b := fun _ c => .ok ⟨b, c, []⟩
  map f x := fun S c => (x S c).map fun r => ⟨f r.value, r.cursor, r.trace⟩
  bind x f := fun S c =>
    match x S c with
    | .error o => .error o
    | .ok r =>
      match f r.value S r.cursor with
      | .error o => .error o
      | .ok s => .ok ⟨s.value, s.cursor, r.trace ++ s.trace⟩

@[simp] theorem run_pure (b : β) (S : Source α) (c : Cursor) :
    (pure b : Scan α β).run S c = .ok ⟨b, c, []⟩ := rfl

/-- The second scan starts where the first one left the cursor, and its trace follows. -/
theorem run_bind (x : Scan α β) (f : β → Scan α γ) (S : Source α) (c : Cursor) :
    (x >>= f).run S c =
      match x.run S c with
      | .error o => .error o
      | .ok r =>
        match (f r.value).run S r.cursor with
        | .error o => .error o
        | .ok s => .ok ⟨s.value, s.cursor, r.trace ++ s.trace⟩ := rfl

@[simp] theorem run_map (f : β → γ) (x : Scan α β) (S : Source α) (c : Cursor) :
    (f <$> x).run S c = (x.run S c).map fun r => ⟨f r.value, r.cursor, r.trace⟩ := rfl

instance : LawfulMonad (Scan α) := LawfulMonad.mk' (Scan α)
  (by
    intro β x
    ext S c
    rw [run_map]
    cases x.run S c <;> rfl)
  (by
    intro β γ b f
    ext S c
    rw [run_bind, run_pure]
    cases h : (f b).run S c <;> simp [h])
  (by
    intro β γ δ x f g
    ext S c
    simp only [run_bind]
    cases x.run S c with
    | error => rfl
    | ok r =>
      simp only []
      cases (f r.value).run S r.cursor with
      | error => rfl
      | ok s =>
        simp only []
        cases (g s.value).run S s.cursor with
        | error => rfl
        | ok t => simp)
  (by
    intro β γ b x
    rfl)
  (by
    intro β γ x y
    rfl)
  (by
    intro β γ x y
    rfl)
  (by
    intro β γ f x
    ext S c
    rw [run_bind, run_map]
    cases x.run S c <;> simp [Except.map])

/-- A scan ends well exactly when its first part does and the second part does
from there. -/
theorem run_bind_eq_ok_iff {x : Scan α β} {f : β → Scan α γ} {S : Source α} {c : Cursor}
    {t : Scanned α γ} :
    (x >>= f).run S c = .ok t ↔
      ∃ r s, x.run S c = .ok r ∧ (f r.value).run S r.cursor = .ok s ∧
        t = ⟨s.value, s.cursor, r.trace ++ s.trace⟩ := by
  rw [run_bind]
  cases x.run S c with
  | error => simp
  | ok r =>
    cases h : (f r.value).run S r.cursor <;> simp [h, eq_comm]

/-- A scan whose value is turned into another ends where it ended before. -/
theorem run_map_eq_ok_iff {f : β → γ} {x : Scan α β} {S : Source α} {c : Cursor}
    {t : Scanned α γ} :
    (f <$> x).run S c = .ok t ↔
      ∃ r, x.run S c = .ok r ∧ t = ⟨f r.value, r.cursor, r.trace⟩ := by
  rw [run_map]
  cases x.run S c <;> simp [Except.map, eq_comm]

/-! ## looking -/

/-- A scan that looks at the source and the cursor and leaves both alone. -/
def look (f : Source α → Cursor → β) : Scan α β := fun S c => .ok ⟨f S c, c, []⟩

@[simp] theorem run_look (f : Source α → Cursor → β) (S : Source α) (c : Cursor) :
    (look f).run S c = .ok ⟨f S c, c, []⟩ := rfl

/-- The item at the position. -/
def peek : Scan α (Option α) := look fun S c => c.peek S

/-- The item at the position turned into an `ε`, or `eof` if there is none. -/
def peekOr {ε : Type} (into : α → ε) (eof : ε) : Scan α ε :=
  return (← peek).elim eof into

/-- The cursor as it is, to come back to. -/
def checkpoint : Scan α Cursor := look fun _ c => c

/-- Where the next item is, by the outermost counter. -/
def location : Scan α Location := look fun _ c => c.location

/-! ## moving -/

/-- A scan that only moves the cursor, unseen by the trace. -/
def move (f : Cursor → Cursor) : Scan α Unit := fun _ c => .ok ⟨(), f c, []⟩

@[simp] theorem run_move (f : Cursor → Cursor) (S : Source α) (c : Cursor) :
    (move f).run S c = .ok ⟨(), f c, []⟩ := rfl

/-- A scan refused. -/
def overflow (o : Overflow) : Scan α β := fun _ _ => .error o

@[simp] theorem run_overflow (o : Overflow) (S : Source α) (c : Cursor) :
    (overflow o : Scan α β).run S c = .error o := rfl

/-- Back to an earlier cursor. -/
def restore (k : Cursor) : Scan α Unit := fun _ c => .ok ⟨(), k, c.restoreEvents k⟩

@[simp] theorem run_restore (k : Cursor) (S : Source α) (c : Cursor) :
    (restore k).run S c = .ok ⟨(), k, c.restoreEvents k⟩ := rfl

/-- The item at the position, if there is one, and one position on. -/
def read [Item α] : Scan α (Option α) := fun S c =>
  (c.read S).map fun (x, c') => ⟨x, c', c'.readEvents x⟩

/-- A read is a read of the cursor, told with the cursor that it leaves. -/
theorem run_read_eq_ok_iff [Item α] {S : Source α} {c : Cursor} {t : Scanned α (Option α)} :
    read.run S c = .ok t ↔
      c.read S = .ok (t.value, t.cursor) ∧ t.trace = t.cursor.readEvents t.value := by
  obtain ⟨x, c', es⟩ := t
  change (c.read S).map _ = _ ↔ _
  cases c.read S with
  | error => simp [Except.map]
  | ok r =>
    obtain ⟨y, d⟩ := r
    simp only [Except.map, Except.ok.injEq, Scanned.mk.injEq, Prod.mk.injEq]
    constructor
    · rintro ⟨rfl, rfl, rfl⟩
      exact ⟨⟨rfl, rfl⟩, rfl⟩
    · rintro ⟨⟨rfl, rfl⟩, rfl⟩
      exact ⟨rfl, rfl, rfl⟩

/-- The item read turned into an `ε`, or `eof` if there was none. -/
def readOr [Item α] {ε : Type} (into : α → ε) (eof : ε) : Scan α ε :=
  return (← read).elim eof into

/-! ## the trace left out -/

/-- From `c` the scan ends with the value `b` and the cursor `d`. -/
def Yields (S : Source α) (x : Scan α β) (c : Cursor) (b : β) (d : Cursor) : Prop :=
  ∃ es, x.run S c = .ok ⟨b, d, es⟩

section

variable {S : Source α} {x : Scan α β} {c d : Cursor} {b : β}

/-- What a run ends with, its trace left out. -/
theorem yields_of_run {r : Scanned α β} (h : x.run S c = .ok r) : x.Yields S c r.value r.cursor :=
  ⟨r.trace, h⟩

/-- A scan ends in one way only. -/
theorem yields_unique {b' : β} {d' : Cursor} (h : x.Yields S c b d) (h' : x.Yields S c b' d') :
    b = b' ∧ d = d' := by
  obtain ⟨es, hr⟩ := h
  obtain ⟨es', hr'⟩ := h'
  have hscanned := Except.ok.inj (hr.symm.trans hr')
  cases hscanned
  exact ⟨rfl, rfl⟩

@[simp] theorem yields_pure_iff {b' : β} :
    (pure b' : Scan α β).Yields S c b d ↔ b = b' ∧ d = c := by
  simp [Yields, eq_comm]

@[simp] theorem yields_look_iff {f : Source α → Cursor → β} :
    (look f).Yields S c b d ↔ b = f S c ∧ d = c := by
  simp [Yields, eq_comm]

/-- One scan after another, with the cursor that stands between them. -/
theorem yields_bind_iff {f : β → Scan α γ} {b' : γ} :
    (x >>= f).Yields S c b' d ↔ ∃ b e, x.Yields S c b e ∧ (f b).Yields S e b' d := by
  constructor
  · rintro ⟨es, h⟩
    obtain ⟨r, t, hr, ht, ⟨⟩⟩ := run_bind_eq_ok_iff.1 h
    exact ⟨r.value, r.cursor, yields_of_run hr, yields_of_run ht⟩
  · rintro ⟨b, e, ⟨es, hx⟩, ⟨fs, hf⟩⟩
    exact ⟨es ++ fs, run_bind_eq_ok_iff.2 ⟨_, _, hx, hf, rfl⟩⟩

/-- Turning the value into another leaves the cursor as it is. -/
theorem yields_map_iff {f : β → γ} {b' : γ} :
    (f <$> x).Yields S c b' d ↔ ∃ b, x.Yields S c b d ∧ f b = b' := by
  constructor
  · rintro ⟨es, h⟩
    obtain ⟨r, hr, ⟨⟩⟩ := run_map_eq_ok_iff.1 h
    exact ⟨r.value, yields_of_run hr, rfl⟩
  · rintro ⟨b, ⟨es, hx⟩, rfl⟩
    exact ⟨es, run_map_eq_ok_iff.2 ⟨_, hx, rfl⟩⟩

/-- A read ends as the read of the cursor does. -/
theorem yields_read_iff [Item α] {item : Option α} :
    (read : Scan α (Option α)).Yields S c item d ↔ c.read S = .ok (item, d) := by
  constructor
  · rintro ⟨es, h⟩
    exact (run_read_eq_ok_iff.1 h).1
  · intro h
    exact ⟨d.readEvents item, run_read_eq_ok_iff.2 ⟨h, rfl⟩⟩

end

end Scan

end ScanCursor
