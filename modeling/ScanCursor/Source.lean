import ScanCursor.Word

/-!
# ScanCursor.Source

What a cursor scans: a lookup by position, and a size.

The two need not agree.  `ofArray` gives a source whose items fill exactly the
positions below its size; `ofCells` places items at chosen positions and takes
its size as given, so that items may be missing before the size and present
after it.
-/

namespace ScanCursor

/-- Items addressed by position, and how many there are said to be. -/
structure Source (α : Type) where
  get? : Word → Option α
  size : Word

namespace Source

variable {α : Type}

/-- Whether the source is said to hold no items. -/
def isEmpty (S : Source α) : Bool := S.size = 0

/-- The items of an array, each at its index. -/
def ofArray (xs : Array α) : Source α where
  get? p := xs[p.toNat]?
  size := Word.ofNatSat xs.size

/-- Single items at single positions, with a size that is independent of them. -/
def ofCells (cells : List (Word × α)) (size : Word) : Source α where
  get? p := cells.lookup p
  size := size

@[simp] theorem get?_ofArray (xs : Array α) (p : Word) : (ofArray xs).get? p = xs[p.toNat]? := rfl

/-- An array that words can count has its items exactly below its size. -/
theorem isSome_get?_ofArray_iff {xs : Array α} (h : xs.size ≤ Word.top.toNat) {p : Word} :
    ((ofArray xs).get? p).isSome ↔ p < (ofArray xs).size := by
  have htop := Word.toNat_top
  have hsize : (ofArray xs).size.toNat = min xs.size Word.top.toNat := Word.toNat_ofNatSat _
  rw [UInt64.lt_iff_toNat_lt, hsize, Option.isSome_iff_ne_none, ne_eq, get?_ofArray,
    Array.getElem?_eq_none_iff]
  omega

end Source

end ScanCursor
