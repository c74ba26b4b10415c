import IncidentRelay.Text.Case
import IncidentRelay.Text.Percent
import IncidentRelay.Text.Punycode
import IncidentRelay.Text.Lines

/-!
# Hosts of web addresses

The part of a web address that names a machine, in its normal form. Names are in small ASCII
letters, with labels beyond ASCII in Punycode; a name that ends in a number is an address of four
bytes, which can be given in several notations; an address in brackets stays as it is.
-/

namespace IncidentRelay.Http

open Text

/-- The characters that no name holds. -/
def isForbidden (c : Char) : Bool :=
  c.toNat ≤ 32 || c.toNat == 127
    || ['#', '%', '/', ':', '<', '>', '?', '@', '[', '\\', ']', '^', '|'].contains c

/-- The number of a part of a numeric address, in decimal, or in the bases that a leading zero
announces. -/
def hostNumber? (cs : List Char) : Option Nat :=
  let (base, digits) := match cs with
    | '0' :: 'x' :: rest | '0' :: 'X' :: rest => (16, rest)
    | '0' :: c :: rest => (8, c :: rest)
    | _ => (10, cs)
  if cs = [] then none
  else digits.foldl (fun n c => n.bind fun n => (hexValue? c).bind fun d =>
    if d < base then some (n * base + d) else none) (some 0)

/-- The parts of a name, without the empty one after a dot at the end. -/
def hostParts (cs : List Char) : List (List Char) :=
  let parts := segments '.' cs
  if parts.length > 1 ∧ parts.getLast? = some [] then parts.dropLast else parts

/-- Whether a name has to be a numeric address: its last part is a number. -/
def endsInNumber (cs : List Char) : Bool :=
  match (hostParts cs).getLast? with
  | some last => (last ≠ [] && last.all isDigit) || (last ≠ [] && (hostNumber? last).isSome)
  | none => false

/-- Four bytes with dots between them. -/
def dotted (n : Nat) : String :=
  toString (n / 0x1000000) ++ "." ++ toString (n / 0x10000 % 256) ++ "." ++ toString (n / 256 % 256)
    ++ "." ++ toString (n % 256)

/-- A numeric address: up to three bytes, and a number for the bytes that are left. -/
def numericHost? (cs : List Char) : Option String :=
  ((hostParts cs).mapM hostNumber?).bind fun numbers =>
    let count := numbers.length
    let leading := numbers.dropLast
    let last := numbers.getLast?.getD 0
    if count = 0 ∨ 4 < count ∨ leading.any (255 < ·) ∨ Nat.pow 256 (5 - count) ≤ last then none
    else
      let high := leading.foldl (fun n b => n * 256 + b) 0
      some (dotted (high * Nat.pow 256 (5 - count) + last))

/-- A host in its normal form. -/
def host? (cs : List Char) : Option String :=
  match cs with
  | [] => none
  | '[' :: inner =>
    if inner.getLast? = some ']' ∧
        inner.dropLast.all fun c => (hexValue? c).isSome || c == ':' || c == '.'
    then some (String.ofList (cs.map lowerAscii)) else none
  | _ =>
    (Utf8.decode? (percentDecode cs)).bind fun decoded =>
      let labels := segments '.' (lower (String.ofList decoded)).toList
      let name := ['.'].intercalate (labels.map Punycode.toAscii)
      if name = [] ∨ name.any isForbidden then none
      else if endsInNumber name then numericHost? name
      else some (String.ofList name)

end IncidentRelay.Http
