/-! White space as Unicode defines it, and text without it at either end. -/

namespace Telemetry

/-- The characters with the property White_Space. -/
def isBlank (c : Char) : Bool :=
  let n := c.toNat
  (0x9 ≤ n && n ≤ 0xD) || n == 0x20 || n == 0x85 || n == 0xA0 || n == 0x1680 ||
    (0x2000 ≤ n && n ≤ 0x200A) || n == 0x2028 || n == 0x2029 || n == 0x202F || n == 0x205F ||
    n == 0x3000

/-- The characters without those in `p` at either end. -/
def trimList (p : Char → Bool) (cs : List Char) : List Char :=
  ((cs.dropWhile p).reverse.dropWhile p).reverse

/-- The text without white space at either end. -/
def trimBlank (s : String) : String := String.ofList (trimList isBlank s.toList)

/-- The pieces of a text between the separators, at least one. -/
def splitList (sep : Char) : List Char → List (List Char)
  | [] => [[]]
  | c :: cs =>
    let rest := splitList sep cs
    if c = sep then [] :: rest
    else match rest with
      | [] => [[c]]
      | p :: ps => (c :: p) :: ps

/-- The pieces of a string between the separators. -/
def splitText (sep : Char) (s : String) : List String :=
  (splitList sep s.toList).map String.ofList

end Telemetry
