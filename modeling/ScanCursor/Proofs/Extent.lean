import ScanCursor.Cursor

/-!
# ScanCursor.Proofs.Extent

How far a run of items reaches: how many of them end a line, and how many come
after the last one that does.

Extents are counted in natural numbers, so nothing overflows.  They add up when
one run follows another (`ofList_append`): the rows are added, and the columns
too as long as the second run stays on its first row.

A location is an extent whose two counts are words.  `Counter.advance_ok_iff`
says that a counter advances by one `step` of its extent, and
`Counter.exists_advance` that it can as long as row and column together are
below the largest word.
-/

namespace ScanCursor

/-- How many items end a line, and how many come after the last of these. -/
@[ext] structure Extent where
  rows : Nat := 0
  columns : Nat := 0
  deriving DecidableEq

namespace Extent

variable {α : Type}

/-- The extent with one more item. -/
def step (e : Extent) (endsLine : Bool) : Extent :=
  if endsLine then ⟨e.rows + 1, 0⟩ else ⟨e.rows, e.columns + 1⟩

/-- The extent of a run and of another one behind it. -/
instance : Add Extent where
  add d e := ⟨d.rows + e.rows, if e.rows = 0 then d.columns + e.columns else e.columns⟩

/-- Rows and columns together. -/
def size (e : Extent) : Nat := e.rows + e.columns

/-- The extent of a list of items. -/
def ofList [Item α] (xs : List α) : Extent :=
  xs.foldl (fun e x => e.step (Item.endsLine x)) {}

@[simp] theorem step_true (e : Extent) : e.step true = ⟨e.rows + 1, 0⟩ := rfl

@[simp] theorem step_false (e : Extent) : e.step false = ⟨e.rows, e.columns + 1⟩ := rfl

@[simp] theorem rows_add (d e : Extent) : (d + e).rows = d.rows + e.rows := rfl

@[simp] theorem columns_add (d e : Extent) :
    (d + e).columns = if e.rows = 0 then d.columns + e.columns else e.columns := rfl

@[simp] theorem nil_add (e : Extent) : {} + e = e := by
  ext <;> simp

@[simp] theorem add_nil (e : Extent) : e + {} = e := by
  ext <;> simp

/-- Three runs may be put together in either way. -/
theorem add_assoc (d e f : Extent) : d + e + f = d + (e + f) := by
  ext
  · simp only [rows_add]
    omega
  · by_cases hf : f.rows = 0
    · by_cases he : e.rows = 0
      · simp [he, hf, Nat.add_assoc]
      · simp [he, hf]
    · simp [hf]

/-- A step behind two runs is a step of the second one. -/
theorem add_step (d e : Extent) (b : Bool) : d + e.step b = (d + e).step b := by
  cases b with
  | true => ext <;> simp [Nat.add_assoc]
  | false => by_cases he : e.rows = 0 <;> simp [Extent.ext_iff, he, Nat.add_assoc]

/-- One more item adds at most one. -/
theorem size_step_le (e : Extent) (b : Bool) : (e.step b).size ≤ e.size + 1 := by
  cases b with
  | false =>
      simp [size]
      omega
  | true => simp [size]

/-- Only an empty run adds nothing. -/
theorem eq_nil_of_add_eq_self {d e : Extent} (h : d + e = d) : e = {} := by
  have hrows : d.rows + e.rows = d.rows := congrArg rows h
  have hrow : e.rows = 0 := by omega
  have hcolumns : d.columns + e.columns = d.columns := by
    simpa [hrow] using congrArg columns h
  ext
  · exact hrow
  · show e.columns = 0
    omega

/-! ## lists of items -/

section

variable [Item α]

@[simp] theorem ofList_nil : ofList ([] : List α) = {} := rfl

/-- Items that come behind a run reach as far as they do by themselves, added to it. -/
theorem foldl_step (d : Extent) (xs : List α) :
    xs.foldl (fun e x => e.step (Item.endsLine x)) d = d + ofList xs := by
  induction xs generalizing d with
  | nil => simp
  | cons x xs ih =>
      have hhead : d.step (Item.endsLine x) = d + ({} : Extent).step (Item.endsLine x) := by
        rw [add_step, add_nil]
      have hlist : ofList (x :: xs) = ({} : Extent).step (Item.endsLine x) + ofList xs := ih _
      rw [List.foldl_cons, ih, hlist, hhead, add_assoc]

/-- The extent of two lists is that of the first and of the second behind it. -/
theorem ofList_append (xs ys : List α) : ofList (xs ++ ys) = ofList xs + ofList ys := by
  rw [ofList, List.foldl_append, foldl_step]
  rfl

/-- The extent of a list, its first item taken off. -/
theorem ofList_cons (x : α) (xs : List α) :
    ofList (x :: xs) = ({} : Extent).step (Item.endsLine x) + ofList xs :=
  foldl_step _ xs

/-- The extent of a list with one more item at its end. -/
theorem ofList_concat (xs : List α) (x : α) :
    ofList (xs ++ [x]) = (ofList xs).step (Item.endsLine x) := by
  rw [ofList, List.foldl_append]
  rfl

/-- A list reaches no further than it has items. -/
theorem size_ofList_le (xs : List α) : (ofList xs).size ≤ xs.length := by
  induction xs with
  | nil => simp [size]
  | cons x xs ih =>
      rw [ofList_cons, List.length_cons]
      rw [size] at ih ⊢
      cases Item.endsLine x with
      | true =>
          simp only [step_true, rows_add, columns_add]
          split <;> omega
      | false =>
          simp only [step_false, rows_add, columns_add]
          split <;> omega

/-- Items that are there reach somewhere. -/
theorem eq_nil_of_ofList_eq_nil {xs : List α} (h : ofList xs = {}) : xs = [] := by
  cases xs with
  | nil => rfl
  | cons x xs =>
      rw [ofList_cons] at h
      have hrows := congrArg rows h
      have hcolumns := congrArg columns h
      cases hx : Item.endsLine x <;> simp [hx] at hrows hcolumns
      · simp [hrows] at hcolumns

/-- A longer beginning of a list reaches to another place. -/
theorem ofList_take_ne {xs : List α} {i j : Nat} (hij : i < j) (hj : j ≤ xs.length) :
    ofList (xs.take i) ≠ ofList (xs.take j) := by
  intro h
  have htake : (xs.take j).take i = xs.take i := by
    rw [List.take_take, Nat.min_eq_left (Nat.le_of_lt hij)]
  have hsplit : xs.take j = xs.take i ++ (xs.take j).drop i := by
    rw [← htake, List.take_append_drop]
  rw [hsplit, ofList_append] at h
  have hrest := eq_nil_of_ofList_eq_nil (eq_nil_of_add_eq_self h.symm)
  have hlength := congrArg List.length hrest
  simp only [List.length_drop, List.length_take, List.length_nil] at hlength
  omega

/-- Two beginnings of a list that reach equally far are the same. -/
theorem ofList_take_inj {xs : List α} {i j : Nat} (hi : i ≤ xs.length) (hj : j ≤ xs.length)
    (h : ofList (xs.take i) = ofList (xs.take j)) : i = j := by
  rcases Nat.lt_trichotomy i j with hij | hij | hij
  · exact absurd h (ofList_take_ne hij hj)
  · exact hij
  · exact absurd h.symm (ofList_take_ne hij hi)

end

end Extent

/-! ## locations and counters -/

/-- The row and the column as numbers. -/
def Location.extent (l : Location) : Extent := ⟨l.row.toNat, l.column.toNat⟩

@[simp] theorem Location.rows_extent (l : Location) : l.extent.rows = l.row.toNat := rfl

@[simp] theorem Location.columns_extent (l : Location) : l.extent.columns = l.column.toNat := rfl

/-- A location is determined by its two numbers. -/
theorem Location.extent_inj {l k : Location} : l.extent = k.extent ↔ l = k := by
  obtain ⟨r, c⟩ := l
  obtain ⟨r', c'⟩ := k
  simp [extent, UInt64.toNat_inj]

/-- A location moves by one step of its extent. -/
theorem Location.after_ok_iff {l k : Location} {b : Bool} :
    l.after (Counter.move b) = .ok k ↔ k.extent = l.extent.step b := by
  cases b with
  | true =>
      have hcolumn : k.column = 0 ↔ k.column.toNat = 0 := by
        rw [← UInt64.toNat_inj, UInt64.toNat_zero]
      rw [Counter.move, if_pos rfl, after, nextRow_eq_ok_iff, hcolumn]
      simp [extent]
  | false =>
      rw [Counter.move, if_neg (by decide), after, nextColumn_eq_ok_iff, ← UInt64.toNat_inj]
      simp [extent]

/-- A counter advances by one step of its extent. -/
theorem Counter.advance_ok_iff {k k' : Counter} {b : Bool} :
    k.advance b = .ok k' ↔ k'.next.extent = k.next.extent.step b ∧ k'.last = some k.next := by
  rw [advance_eq_ok_iff, Location.after_ok_iff]

/-- Below the largest word there is room for one more item. -/
theorem Counter.exists_advance {k : Counter} (h : k.next.extent.size < Word.top.toNat)
    (b : Bool) : ∃ k', k.advance b = .ok k' := by
  rw [Extent.size, Location.rows_extent, Location.columns_extent] at h
  have hlocation : ∃ l, k.next.after (move b) = .ok l := by
    cases b with
    | true => exact Location.exists_nextRow (by omega)
    | false => exact Location.exists_nextColumn (by omega)
  obtain ⟨l, hl⟩ := hlocation
  exact ⟨⟨l, some k.next⟩, advance_eq_ok_iff.2 ⟨hl, rfl⟩⟩

/-- Counters with room for one more item can all advance. -/
theorem Cursor.exists_advanceAll {ks : List Counter}
    (h : ∀ k ∈ ks, k.next.extent.size < Word.top.toNat) (b : Bool) :
    ∃ ls, advanceAll b ks = .ok ls := by
  induction ks with
  | nil => exact ⟨[], rfl⟩
  | cons k ks ih =>
      obtain ⟨k', hk⟩ := Counter.exists_advance (h k List.mem_cons_self) b
      obtain ⟨ls, hls⟩ := ih fun l hl => h l (List.mem_cons_of_mem k hl)
      exact ⟨k' :: ls, advanceAll_cons_eq_ok_iff.2 ⟨k', ls, hk, hls, rfl⟩⟩

end ScanCursor
