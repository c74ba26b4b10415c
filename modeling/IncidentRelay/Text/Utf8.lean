/-!
# UTF-8

Characters as bytes and back. The decoder reads one byte at a time and marks each malformed
sequence once: a sequence ends where the next byte cannot continue it, and that byte is read again
as the start of a new one. Strict reading refuses a text with a mark, lenient reading puts the
replacement character in its place.

## Main statements

* `decode?_ascii`: bytes below 128 decode to the characters with their numbers.
-/

namespace IncidentRelay.Text.Utf8

/-- The bytes of one character. -/
def encodeChar (c : Char) : List UInt8 :=
  let n := c.toNat
  if n < 0x80 then [UInt8.ofNat n]
  else if n < 0x800 then [UInt8.ofNat (0xC0 + n / 64), UInt8.ofNat (0x80 + n % 64)]
  else if n < 0x10000 then
    [UInt8.ofNat (0xE0 + n / 4096), UInt8.ofNat (0x80 + n / 64 % 64), UInt8.ofNat (0x80 + n % 64)]
  else
    [UInt8.ofNat (0xF0 + n / 262144), UInt8.ofNat (0x80 + n / 4096 % 64),
      UInt8.ofNat (0x80 + n / 64 % 64), UInt8.ofNat (0x80 + n % 64)]

/-- The bytes of a text. -/
def encode (s : String) : List UInt8 := s.toList.flatMap encodeChar

/-- A sequence that has begun: how many bytes follow the next one, the range of the next one, and
the number read so far. -/
structure Pending where
  after : Nat
  low : Nat
  high : Nat
  value : Nat

/-- What the first byte of a sequence tells. -/
inductive Lead
  /-- The byte is a character of its own. -/
  | whole (c : Char)
  /-- The byte begins a longer sequence. -/
  | begins (p : Pending)
  /-- No sequence begins with this byte. -/
  | malformed

/-- Reads the first byte of a sequence. The ranges exclude overlong forms, surrogates and numbers
beyond the last character. -/
def lead (b : Nat) : Lead :=
  if b < 0x80 then .whole (Char.ofNat b)
  else if b < 0xC2 then .malformed
  else if b < 0xE0 then .begins ⟨0, 0x80, 0xBF, b - 0xC0⟩
  else if b = 0xE0 then .begins ⟨1, 0xA0, 0xBF, 0⟩
  else if b = 0xED then .begins ⟨1, 0x80, 0x9F, 0xD⟩
  else if b < 0xF0 then .begins ⟨1, 0x80, 0xBF, b - 0xE0⟩
  else if b = 0xF0 then .begins ⟨2, 0x90, 0xBF, 0⟩
  else if b < 0xF4 then .begins ⟨2, 0x80, 0xBF, b - 0xF0⟩
  else if b = 0xF4 then .begins ⟨2, 0x80, 0x8F, 4⟩
  else .malformed

/-- Reads bytes into characters, `none` marking a malformed sequence. `done` holds what was read,
last first. -/
def decodeAux (done : List (Option Char)) : Option Pending → List UInt8 → List (Option Char)
  | none, [] => done.reverse
  | some _, [] => (none :: done).reverse
  | none, b :: rest =>
    match lead b.toNat with
    | .whole c => decodeAux (some c :: done) none rest
    | .begins p => decodeAux done (some p) rest
    | .malformed => decodeAux (none :: done) none rest
  | some p, b :: rest =>
    let n := b.toNat
    if p.low ≤ n ∧ n ≤ p.high then
      let value := p.value * 64 + (n - 0x80)
      match p.after with
      | 0 => decodeAux (some (Char.ofNat value) :: done) none rest
      | k + 1 => decodeAux done (some ⟨k, 0x80, 0xBF, value⟩) rest
    else
      match lead n with
      | .whole c => decodeAux (some c :: none :: done) none rest
      | .begins q => decodeAux (none :: done) (some q) rest
      | .malformed => decodeAux (none :: none :: done) none rest

/-- The characters of a row of bytes, `none` for each malformed sequence. -/
def decode (bytes : List UInt8) : List (Option Char) := decodeAux [] none bytes

/-- Strict reading: only well-formed bytes are a text. -/
def decode? (bytes : List UInt8) : Option (List Char) :=
  let cs := decode bytes
  if cs.all Option.isSome then some (cs.filterMap id) else none

/-- Lenient reading: each malformed sequence becomes the replacement character. -/
def decodeLossy (bytes : List UInt8) : List Char :=
  (decode bytes).map (·.getD (Char.ofNat 0xFFFD))

/-- ASCII characters are decoded one byte at a time. -/
theorem decodeAux_ascii (done : List (Option Char)) (cs : List Char)
    (h : ∀ c ∈ cs, c.toNat < 128) :
    decodeAux done none (cs.flatMap encodeChar) = done.reverse ++ cs.map some := by
  induction cs generalizing done with
  | nil => simp [decodeAux]
  | cons c cs ih =>
    have hc : c.toNat < 128 := h c (by simp)
    have hb : (UInt8.ofNat c.toNat).toNat = c.toNat := by
      simp [Nat.mod_eq_of_lt (show c.toNat < 256 by omega)]
    have hl : lead (UInt8.ofNat c.toNat).toNat = .whole c := by
      rw [hb]; simp [lead, hc, Char.ofNat_toNat]
    have he : encodeChar c = [UInt8.ofNat c.toNat] := by simp [encodeChar, hc]
    rw [List.flatMap_cons, he, List.singleton_append, decodeAux, hl]
    simp [ih _ (fun d hd => h d (by simp [hd]))]

/-- ASCII text is decoded as it was encoded. -/
theorem decode?_ascii (cs : List Char) (h : ∀ c ∈ cs, c.toNat < 128) :
    decode? (cs.flatMap encodeChar) = some cs := by
  simp [decode?, decode, decodeAux_ascii [] cs h, List.filterMap_map]

end IncidentRelay.Text.Utf8
