import ScanCursor.Quoted

/-!
# ScanCursor.Item

What scanning has to know of an item: whether it ends a line, and how it is
written in a message.  Only the line feed ends a line; a carriage return is an
ordinary character.
-/

namespace ScanCursor

/-- Things that a cursor can read. -/
class Item (α : Type) where
  /-- Whether what follows the item is on the next row. -/
  endsLine : α → Bool
  /-- The item as a message shows it. -/
  quoted : α → String

instance : Item Char where
  endsLine c := c = '\n'
  quoted := Quoted.char

instance : Item String where
  endsLine _ := false
  quoted := Quoted.string

instance : Item Int where
  endsLine _ := false
  quoted := toString

/-- Of the characters only the line feed ends a line. -/
@[simp] theorem endsLine_iff {c : Char} : Item.endsLine c ↔ c = '\n' := by
  simp [Item.endsLine]

end ScanCursor
