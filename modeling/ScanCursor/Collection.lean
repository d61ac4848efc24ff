import ScanCursor.Text

/-!
# ScanCursor.Collection

What is scanned in earnest: lists, arrays, vectors of a fixed length and texts, each with
a lookup and a length of its own, and references to them, which hand both on.

They are all the same to a cursor.  Each is the source of some array, and it is no longer
than a word can count (`Source.IsCollection.exists_eq_ofArray`); so its items fill exactly
the positions below its size.
-/

namespace ScanCursor.Source

variable {α : Type}

/-- The items of a list, each at its place. -/
def ofList (xs : List α) : Source α where
  get? p := xs[p.toNat]?
  size := Word.ofNatSat xs.length

/-- The items of a vector, which has its length from its type. -/
def ofVector {n : Nat} (xs : Vector α n) : Source α where
  get? p := xs[p.toNat]?
  size := Word.ofNatSat n

/-- A reference to a source. -/
def ref (S : Source α) : Source α where
  get? p := S.get? p
  size := S.size

/-- A source made of a collection, or of references to one. -/
inductive IsCollection : {α : Type} → Source α → Prop
  | list {α : Type} (xs : List α) (h : xs.length ≤ Word.top.toNat) : IsCollection (ofList xs)
  | array {α : Type} (xs : Array α) (h : xs.size ≤ Word.top.toNat) : IsCollection (ofArray xs)
  | vector {α : Type} {n : Nat} (xs : Vector α n) (h : n ≤ Word.top.toNat) :
      IsCollection (ofVector xs)
  | text (t : Text) (h : t.chars.size ≤ Word.top.toNat) : IsCollection t.source
  | ref {α : Type} {S : Source α} (h : IsCollection S) : IsCollection S.ref

/-- A list is the source that the array of its items is. -/
theorem ofList_eq_ofArray (xs : List α) : ofList xs = ofArray xs.toArray := by
  simp [ofList, ofArray]

/-- A vector is the source that the array of its items is. -/
theorem ofVector_eq_ofArray {n : Nat} (xs : Vector α n) : ofVector xs = ofArray xs.toArray := by
  simp [ofVector, ofArray]

/-- Whatever a collection is made of, a cursor sees an array. -/
theorem IsCollection.exists_eq_ofArray {S : Source α} (h : S.IsCollection) :
    ∃ xs : Array α, xs.size ≤ Word.top.toNat ∧ S = ofArray xs := by
  induction h with
  | list xs h => exact ⟨xs.toArray, h, ofList_eq_ofArray xs⟩
  | array xs h => exact ⟨xs, h, rfl⟩
  | vector xs h => exact ⟨xs.toArray, by rwa [xs.size_toArray], ofVector_eq_ofArray xs⟩
  | text t h => exact ⟨t.chars, h, rfl⟩
  | ref _ ih => exact ih

/-- A collection has its items exactly below its size. -/
theorem IsCollection.isSome_get?_iff {S : Source α} (h : S.IsCollection) (p : Word) :
    (S.get? p).isSome ↔ p < S.size := by
  obtain ⟨xs, hxs, rfl⟩ := h.exists_eq_ofArray
  exact isSome_get?_ofArray_iff hxs

end ScanCursor.Source
