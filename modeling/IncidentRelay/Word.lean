/-!
# Numbers of 64 bits

The bounds of the numbers that fit in a word of 64 bits, without and with a sign.
-/

namespace IncidentRelay

/-- The largest number of 64 bits. -/
def maxWord : Nat := 0xFFFFFFFFFFFFFFFF

/-- The size of the smallest signed number of 64 bits. -/
def minSignedSize : Nat := 0x8000000000000000

end IncidentRelay
