import Telemetry.Text.Printable
import Telemetry.Url.Folding
import Telemetry.Url.Host
import Telemetry.Url.Punycode

/-! Domain names in their ASCII form, for programs that run: characters are folded one by one, and
what is left beyond ASCII is encoded label by label. -/

namespace Telemetry.Host

/-- A character with capitals folded, or nothing if it is left out. -/
def foldChar (c : Char) : List Char :=
  if c.toNat < 128 then [c.toLower]
  else if Folding.ignored c.toNat then []
  else [Char.ofNat (Folding.fold c.toNat)]

/-- Whether a label beyond ASCII may be part of a domain name. -/
def isValidLabel (label : List Char) : Bool :=
  label.all (fun c => c.toNat < 128 || !Printable.within Printable.invisible c.toNat) &&
    (match label with
     | [] => true
     | c :: _ => !Printable.within Printable.extending c.toNat)

/-- The mark in front of an encoded label. -/
def mark : List Char := ['x', 'n', '-', '-']

/-- The ASCII form of a folded label. -/
def labelToAscii? (label : List Char) : Option (List Char) :=
  if label.all fun c => c.toNat < 128 then
    if mark.isPrefixOf label then
      match Punycode.decode? (label.drop 4) with
      | some decoded =>
        if decoded.any (fun c => 128 ≤ c.toNat) && isValidLabel decoded &&
            decoded.flatMap foldChar = decoded && Punycode.encode decoded = label.drop 4 then
          some label
        else none
      | none => none
    else some label
  else if isValidLabel label then some (mark ++ Punycode.encode label)
  else none

/-- The ASCII form of a domain name. -/
def domainToAscii? (cs : List Char) : Option (List Char) := do
  let labels ← (splitList '.' (cs.flatMap foldChar)).mapM labelToAscii?
  let out := List.intercalate ['.'] labels
  if out.any isForbidden then none else some out

end Telemetry.Host
