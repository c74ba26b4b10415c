import IncidentRelay.Text.Utf8

/-!
# Base64

Bytes as letters of the standard alphabet, three bytes in four letters, padded at the end.

## Main statements

* `length_base64`: every group of three bytes, full or not, takes four letters.
-/

namespace IncidentRelay.Text

/-- The letter of a number below sixty-four. -/
def base64Letter (n : Nat) : Char :=
  if n < 26 then Char.ofNat (65 + n)
  else if n < 52 then Char.ofNat (71 + n)
  else if n < 62 then Char.ofNat (n - 4)
  else if n = 62 then '+' else '/'

/-- The four letters of a full group. -/
def base64Group (a b c : Nat) : List Char :=
  [base64Letter (a / 4), base64Letter (a % 4 * 16 + b / 16), base64Letter (b % 16 * 4 + c / 64),
    base64Letter (c % 64)]

/-- Bytes in base64. -/
def base64 : List UInt8 → List Char
  | [] => []
  | [a] => (base64Group a.toNat 0 0).take 2 ++ ['=', '=']
  | [a, b] => (base64Group a.toNat b.toNat 0).take 3 ++ ['=']
  | a :: b :: c :: rest => base64Group a.toNat b.toNat c.toNat ++ base64 rest

/-- Three bytes, or what is left of them, become four characters. -/
theorem length_base64 (bytes : List UInt8) :
    (base64 bytes).length = 4 * ((bytes.length + 2) / 3) := by
  fun_induction base64 bytes with
  | case1 => rfl
  | case2 a => simp [base64Group]
  | case3 a b => simp [base64Group]
  | case4 a b c rest ih =>
    simp only [List.length_append, ih, base64Group, List.length_cons, List.length_nil]
    omega

end IncidentRelay.Text
