import ScanCursor.Cursor

/-!
# ScanCursor.Trace

What reads and returns tell about themselves.  A read is told once by every
counter, the innermost first, each with its own next location.  A return to an
earlier cursor is told by every counter, the outermost first, and at last by
the position.  A bare cursor tells only the positions it returns to.
-/

namespace ScanCursor

/-- One line of a trace. -/
inductive Event (α : Type) where
  /-- A counter saw a read, and expects the next item at `next`. -/
  | read (item : Option α) (next : Location)
  /-- A counter went back. -/
  | restore (old new : Location)
  /-- The position went back. -/
  | position (old new : Word)
  deriving DecidableEq

/-- A list of events, the earliest first. -/
abbrev Trace (α : Type) := List (Event α)

namespace Event

variable {α : Type}

/-- The words of an absent or present item. -/
def item [Item α] : Option α → String
  | none => "None"
  | some x => "Some(" ++ Item.quoted x ++ ")"

/-- The event as a line of text. -/
def line [Item α] : Event α → String
  | .read x next => "[sift] read " ++ item x ++ ", next at " ++ next.display
  | .restore old new => "[sift] restore " ++ old.display ++ " -> " ++ new.display
  | .position old new =>
    "[sift] restore position " ++ toString old.toNat ++ " -> " ++ toString new.toNat

end Event

namespace Cursor

variable {α : Type}

/-- What is told of a read that answered `x` and left the cursor as it is. -/
def readEvents (x : Option α) (c : Cursor) : Trace α :=
  c.counters.reverse.map fun k => .read x k.next

/-- What is told when one cursor goes back to another. -/
def restoreEvents (old new : Cursor) : Trace α :=
  List.zipWith (fun k l => .restore k.next l.next) old.counters new.counters
    ++ [.position old.position new.position]

@[simp] theorem readEvents_bare (x : Option α) (p : Word) : (startingAt p).readEvents x = [] := rfl

/-- A bare cursor tells where its position goes back to, and no more. -/
@[simp] theorem restoreEvents_bare (p q : Word) :
    (startingAt p).restoreEvents (startingAt q) = [(.position p q : Event α)] := rfl

end Cursor

end ScanCursor
