import IncidentRelay.Mail.Header

/-!
# Mail messages

A message with its headers and its body. The body is HTML, with line breaks of carriage return and
line feed, and is sent in one of three codings: as it is when it is ASCII in short lines, and else
in quoted-printable, unless more than a third of its bytes would have to be escaped.

## Main statements

* `breakLines_of_no_break`: a text without line feeds is not changed.
-/

namespace IncidentRelay.Mail

open Text

/-- How a body is made fit for transport. -/
inductive TransferCoding
  | sevenBit
  | quotedPrintable
  | base64
  deriving DecidableEq

/-- The name of a coding. -/
def TransferCoding.name : TransferCoding → String
  | .sevenBit => "7bit"
  | .quotedPrintable => "quoted-printable"
  | .base64 => "base64"

/-- Whether a line is too long to be sent as it is. Every line but the first counts with the line
feed before it. -/
def hasLongLine (cs : List Char) : Bool :=
  match segments '\n' cs with
  | [] => false
  | first :: rest => lineWidth ≤ byteCount first || rest.any fun l => lineWidth ≤ byteCount l + 1

/-- How many bytes of a text cannot stand for themselves. -/
def escapedBytes (cs : List Char) : Nat :=
  byteCount (cs.filter fun c => !(c == '\t' || (32 ≤ c.toNat && c.toNat ≤ 126)))

/-- The coding of a body. -/
def TransferCoding.ofText (cs : List Char) : TransferCoding :=
  if !hasLongLine cs && cs.all fun c => c.toNat < 0x80 then .sevenBit
  else if escapedBytes cs ≤ byteCount cs / 3 then .quotedPrintable
  else .base64

/-- The text with a carriage return before every line feed. `previous` is the character before. -/
def breakLines (previous : Option Char) : List Char → List Char
  | [] => []
  | c :: rest =>
    if c = '\n' ∧ previous ≠ some '\r' then '\r' :: c :: breakLines (some c) rest
    else c :: breakLines (some c) rest

/-- A text without line breaks is left as it is. -/
theorem breakLines_of_no_break (previous : Option Char) (cs : List Char) (h : '\n' ∉ cs) :
    breakLines previous cs = cs := by
  induction cs generalizing previous with
  | nil => rfl
  | cons c rest ih =>
    have hc : c ≠ '\n' := fun e => h (by simp [e])
    have hr : '\n' ∉ rest := fun e => h (by simp [e])
    simp [breakLines, hc, ih _ hr]

/-- A message. -/
structure Message where
  sender : Mailbox
  recipients : List Mailbox
  subject : String
  /-- The text as it was given. -/
  body : String

namespace Message

/-- The coding of the body. -/
def coding (m : Message) : TransferCoding := .ofText m.body.toList

/-- The lines of the headers. -/
def headers (m : Message) : List String :=
  mailboxHeader "From" [m.sender] ++ textHeader "Subject" m.subject
    ++ mailboxHeader "To" m.recipients
    ++ ["Content-Type: text/html; charset=utf-8",
      "Content-Transfer-Encoding: " ++ m.coding.name]

/-- The body with the line breaks of mail. -/
def text (m : Message) : String := String.ofList (breakLines none m.body.toList)

/-- Whether an address goes beyond ASCII. -/
def hasWideAddress (m : Message) : Bool :=
  (m.sender :: m.recipients).any fun a => a.address.toList.any fun c => 0x80 ≤ c.toNat

/-- Whether the message as it is sent goes beyond ASCII. Bodies never do. -/
def isWide (m : Message) : Bool :=
  m.headers.any fun h => h.toList.any fun c => 0x80 ≤ c.toNat

end Message

end IncidentRelay.Mail
