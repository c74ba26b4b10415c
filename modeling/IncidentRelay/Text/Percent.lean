import IncidentRelay.Text.Ascii
import IncidentRelay.Text.Utf8

/-!
# Percent coding

Bytes that cannot stand in an address are written as a percent sign and two hexadecimal digits. A
percent sign that no two digits follow stands for itself.

## Main statements

* `percentDecode_of_no_percent`: a text without percent signs decodes to its own bytes.
-/

namespace IncidentRelay.Text

/-- A byte as a percent sign and two capital digits. -/
def percentByte (b : UInt8) : List Char :=
  ['%', hexDigit true (b.toNat / 16), hexDigit true (b.toNat % 16)]

/-- The text with the characters of a class, and all beyond ASCII, percent coded. -/
def percentEncode (coded : Char → Bool) (cs : List Char) : List Char :=
  cs.flatMap fun c =>
    if coded c || 0x80 ≤ c.toNat then (Utf8.encodeChar c).flatMap percentByte else [c]

/-- The bytes of a text in percent coding. -/
def percentDecode : List Char → List UInt8
  | [] => []
  | '%' :: a :: b :: rest =>
    match hexValue? a, hexValue? b with
    | some x, some y => UInt8.ofNat (16 * x + y) :: percentDecode rest
    | _, _ => 37 :: percentDecode (a :: b :: rest)
  | c :: rest => Utf8.encodeChar c ++ percentDecode rest

/-- Without a percent sign there is nothing to decode. -/
theorem percentDecode_of_no_percent (cs : List Char) (h : '%' ∉ cs) :
    percentDecode cs = cs.flatMap Utf8.encodeChar := by
  induction cs with
  | nil => rfl
  | cons c rest ih =>
    have hc : c ≠ '%' := fun e => h (by simp [e])
    have hr : '%' ∉ rest := fun e => h (by simp [e])
    rw [percentDecode]
    · simp [ih hr]
    · intro a b r e _
      exact hc e

end IncidentRelay.Text
