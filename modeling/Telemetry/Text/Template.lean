/-! Templates of messages. A pair of braces is a place for an argument; after a colon and an angle
bracket it may give the least width, to which the argument is filled up from the left. Braces that
are meant as such are written twice. -/

namespace Telemetry

/-- An argument, filled up with blanks on the left. -/
def padLeft (width : Nat) (cs : List Char) : List Char :=
  List.replicate (width - cs.length) ' ' ++ cs

/-- The width that a place asks for. -/
def placeWidth (place : List Char) : Nat :=
  (String.ofList (place.filter Char.isDigit)).toNat?.getD 0

/-- The characters of a filled template; `place` is the place being read, if there is one. -/
def fillChars : List Char → Option (List Char) → List (List Char) → List Char
  | [], _, _ => []
  | '\x7b' :: '\x7b' :: cs, none, args => '\x7b' :: fillChars cs none args
  | '\x7d' :: '\x7d' :: cs, none, args => '\x7d' :: fillChars cs none args
  | '\x7b' :: cs, none, args => fillChars cs (some []) args
  | c :: cs, none, args => c :: fillChars cs none args
  | '\x7d' :: cs, some place, args =>
    padLeft (placeWidth place) (args.headD []) ++ fillChars cs none args.tail
  | c :: cs, some place, args => fillChars cs (some (place ++ [c])) args

/-- A template with its arguments in place, one after the other. -/
def fillTemplate (template : String) (arguments : List String) : String :=
  String.ofList (fillChars template.toList none (arguments.map String.toList))

end Telemetry
