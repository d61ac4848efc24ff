import ScanCursor.Diagnostic
import ScanCursor.Cursor

/-!
# ScanCursor.Script.Reply

What the steps of a script answer.  A record is a reply together with the
cursor after the step.

A step *failed* if it answered nothing where an item could have been: no item
read or seen, an item refused or not expected, an absent item turned into a
sentinel that stands for nothing.  Steps that have nothing to answer count as
failed too.
-/

namespace ScanCursor

/-- The answer of one step, with items of type `α` and sentinels of type `ε`. -/
inductive Reply (α ε : Type) where
  /-- Nothing to answer. -/
  | done
  /-- An item, if there was one. -/
  | item (x : Option α)
  /-- One answer for each of several reads. -/
  | items (xs : List (Option α))
  /-- What an item, or its absence, was turned into. -/
  | converted (x : ε)
  | flag (b : Bool)
  | word (w : Word)
  /-- The source's size, and the item at a position. -/
  | lookup (size : Word) (x : Option α)
  /-- The item that was accepted, and how many items were shown to the judge. -/
  | accepted (x : Option α) (shown : Nat)
  /-- How many items were accepted, and how many were shown to the judge. -/
  | counted (count shown : Nat)
  | span (s : Span)
  /-- The number of a new cursor. -/
  | cursor (slot : Nat)
  /-- The number of a new checkpoint. -/
  | checkpoint (index : Nat)
  /-- The expected item, or the complaint. -/
  | expected (result : Except Diagnostic α)
  /-- The cursor inside the outermost counter, and the item it would read. -/
  | inner (c : Cursor) (next : Option α)
  /-- The records of a body. -/
  | body (records : List (Reply α ε × Cursor))

/-- A reply, and the cursor after the step. -/
abbrev Record (α ε : Type) := Reply α ε × Cursor

/-- Whether a step failed; `blank` tells the sentinels that stand for nothing. -/
def Reply.isFailure {α ε : Type} (blank : ε → Bool) : Reply α ε → Bool
  | .done => true
  | .item x | .accepted x _ => x.isNone
  | .converted x => blank x
  | .expected result => !result.isOk
  | .items _ | .flag _ | .word _ | .lookup _ _ | .counted _ _ | .span _ | .cursor _
  | .checkpoint _ | .inner _ _ | .body _ => false

namespace Record

variable {α ε : Type}

/-- Whether the last step failed; there has to be one. -/
def lastFailed (blank : ε → Bool) (rs : List (Record α ε)) : Bool :=
  rs.getLast?.any fun r => r.1.isFailure blank

/-- Whether some step failed. -/
def anyFailed (blank : ε → Bool) (rs : List (Record α ε)) : Bool :=
  rs.any fun r => r.1.isFailure blank

end Record

end ScanCursor
