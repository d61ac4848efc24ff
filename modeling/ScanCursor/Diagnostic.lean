import ScanCursor.Location

/-!
# ScanCursor.Diagnostic

A complaint about scanned text, at a location.  There are two kinds: a free
message, and the end of the input where something was expected.  Both are
displayed as the location, a colon and a blank, and the text.
-/

namespace ScanCursor

/-- What was found wrong, and where. -/
inductive Diagnostic where
  | message (location : Location) (content : String)
  | unexpectedEnd (location : Location) (expected : String)
  deriving DecidableEq

namespace Diagnostic

/-- Something was expected. -/
def expected (l : Location) (what : String) : Diagnostic :=
  .message l ("expected " ++ what)

/-- Something was expected, and something else was found. -/
def expectedGot (l : Location) (what got : String) : Diagnostic :=
  .message l ("expected " ++ what ++ " got " ++ got)

/-- Something was found in a construct that cannot hold it. -/
def unexpected (l : Location) (construct got : String) : Diagnostic :=
  .message l ("unexpected " ++ construct ++ " '" ++ got ++ "'")

/-- Where the complaint is about. -/
def location : Diagnostic → Location
  | .message l _ | .unexpectedEnd l _ => l

/-- What is said after the location. -/
def text : Diagnostic → String
  | .message _ content => content
  | .unexpectedEnd _ expected => "unexpected end of input, expected " ++ expected

/-- The whole complaint in one line. -/
def display (d : Diagnostic) : String :=
  d.location.display ++ ": " ++ d.text

@[simp] theorem location_message (l : Location) (content : String) :
    (message l content).location = l := rfl

@[simp] theorem location_unexpectedEnd (l : Location) (expected : String) :
    (unexpectedEnd l expected).location = l := rfl

@[simp] theorem text_message (l : Location) (content : String) :
    (message l content).text = content := rfl

@[simp] theorem text_unexpectedEnd (l : Location) (expected : String) :
    (unexpectedEnd l expected).text = "unexpected end of input, expected " ++ expected := rfl

end Diagnostic

end ScanCursor
