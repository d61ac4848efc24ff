import ScanCursor.Unicode.Category
import ScanCursor.Unicode.DefaultIgnorable
import ScanCursor.Unicode.GraphemeExtend
import ScanCursor.Unicode.Unassigned

/-!
# ScanCursor.Quoted

How characters are written in messages: between quotes, so that blanks,
controls and combining marks can be told apart.

1. NUL, tab, carriage return, line feed, the backslash and the quote itself
   are written as a backslash and one more character;
2. other characters that would not be seen, or would attach to the character
   before them, are written by their code point, as `\u`, an opening brace, the
   lower-case hexadecimal digits and a closing brace;
3. every other character stands for itself.
-/

namespace ScanCursor.Quoted

open Unicode

/-- Whether a character attaches to the one before it. -/
def isAttached (c : Char) : Bool :=
  c.toNat ∈ graphemeExtend && c.toNat ∉ graphemeExtendLetter

/-- Whether a character has no picture that all readers share. -/
def isUnseen (c : Char) : Bool :=
  c.toNat ∈ control || c.toNat ∈ format || c.toNat ∈ defaultIgnorable
    || c.toNat ∈ unassigned || c.toNat ∈ privateUse

/-- Whether a character is a space or a separator, other than the plain blank. -/
def isSeparator (c : Char) : Bool :=
  c.toNat ∈ lineSeparator || c.toNat ∈ paragraphSeparator
    || (c.toNat ∈ spaceSeparator && c != ' ')

/-- Whether a character is seen, and on its own, when it is printed. -/
def isVisible (c : Char) : Bool :=
  !(isAttached c || isUnseen c || isSeparator c)

/-- What follows the backslash in the short escape of a character that has one. -/
def shortEscape (quote c : Char) : Option Char :=
  if c = '\x00' then some '0'
  else if c = '\t' then some 't'
  else if c = '\r' then some 'r'
  else if c = '\n' then some 'n'
  else if c = '\\' ∨ c = quote then some c
  else none

/-- The escape of a character by its code point. -/
def codePointEscape (c : Char) : List Char :=
  ['\\', 'u', '\x7b'] ++ Nat.toDigits 16 c.toNat ++ ['\x7d']

/-- One character as it is written between two quotes. -/
def body (quote c : Char) : List Char :=
  match shortEscape quote c with
  | some e => ['\\', e]
  | none => if isVisible c then [c] else codePointEscape c

/-- Characters between two quotes. -/
def form (quote : Char) (cs : List Char) : List Char :=
  quote :: cs.flatMap (body quote) ++ [quote]

/-- A character between single quotes. -/
def char (c : Char) : String := String.ofList (form '\'' [c])

/-- A string between double quotes. -/
def string (s : String) : String := String.ofList (form '"' s.toList)

example : char 'a' = "'a'" := by decide +kernel

example : char '"' = "'\"'" := by decide +kernel

example : char '\'' = "'\\''" := by decide +kernel

example : char '\n' = "'\\n'" := by decide +kernel

example : isVisible '\uFF9E' ∧ isVisible '\u2800' := by decide +kernel

example : ¬ isVisible '\u3164' ∧ ¬ isVisible '\u3000' := by decide +kernel

example : char '\u0301' = "'\\u\x7b301\x7d'" := by decide +kernel

end ScanCursor.Quoted
