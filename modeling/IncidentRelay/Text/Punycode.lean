import IncidentRelay.Text.Ascii

/-!
# Punycode

Labels of domain names with characters beyond ASCII, written in ASCII alone: first the characters
that are in ASCII, then the others in the order of their numbers, each as the distance from the one
before in digits whose weights adapt to the distances seen so far.
-/

namespace IncidentRelay.Text.Punycode

/-- The digit of a number below thirty-six. -/
def digit (n : Nat) : Char := if n < 26 then Char.ofNat (97 + n) else Char.ofNat (22 + n)

/-- The threshold of the digit at a position. -/
def threshold (position bias : Nat) : Nat := min 26 (max 1 (position - bias))

/-- A distance in digits. A distance has at most as many digits as its fuel. -/
def digits (bias : Nat) : (fuel position n : Nat) → List Char
  | 0, _, _ => []
  | fuel + 1, position, n =>
    let t := threshold position bias
    if n < t then [digit n]
    else digit (t + (n - t) % (36 - t)) :: digits bias fuel (position + 36) ((n - t) / (36 - t))

/-- Scales a distance down to a bias. -/
def settle : (fuel delta k : Nat) → Nat
  | 0, _, k => k
  | fuel + 1, delta, k =>
    if 455 < delta then settle fuel (delta / 35) (k + 36) else k + 36 * delta / (delta + 38)

/-- The bias after a distance, with so many characters written. -/
def adapt (delta written : Nat) (first : Bool) : Nat :=
  let delta := if first then delta / 700 else delta / 2
  let delta := delta + delta / written
  settle delta delta 0

/-- What the encoder knows between two characters. -/
structure State where
  output : List Char
  delta : Nat
  bias : Nat
  written : Nat

/-- Looks at one character while those with number `m` are written. -/
def State.look (s : State) (basic m : Nat) (c : Char) : State :=
  if c.toNat < m then { s with delta := s.delta + 1 }
  else if c.toNat = m then
    { output := s.output ++ digits s.bias (s.delta + 1) 36 s.delta
      delta := 0
      bias := adapt s.delta (s.written + 1) (s.written = basic)
      written := s.written + 1 }
  else s

/-- Writes the characters with each of these numbers, the last of which was `m - 1`. -/
def State.write (s : State) (input : List Char) (basic : Nat) : (m : Nat) → List Nat → State
  | _, [] => s
  | m, next :: rest =>
    let s := { s with delta := s.delta + (next - m) * (s.written + 1) }
    let s := input.foldl (fun s c => s.look basic next c) s
    State.write { s with delta := s.delta + 1 } input basic (next + 1) rest

/-- A label in ASCII. -/
def encode (label : List Char) : List Char :=
  let basic := label.filter fun c => c.toNat < 0x80
  let further := ((label.filter fun c => 0x80 ≤ c.toNat).map Char.toNat).mergeSort.eraseDups
  let start : State := { output := [], delta := 0, bias := 72, written := basic.length }
  basic ++ (if basic = [] then [] else ['-'])
    ++ (start.write label basic.length 128 further).output

/-- A label of a domain name: as it is if it is ASCII, and else encoded behind a mark. -/
def toAscii (label : List Char) : List Char :=
  if label.all fun c => c.toNat < 0x80 then label else "xn--".toList ++ encode label

end IncidentRelay.Text.Punycode
