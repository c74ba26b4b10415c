import IncidentRelay.Text.Ascii
import IncidentRelay.Text.Blank
import IncidentRelay.Text.Lines
import IncidentRelay.Text.Punycode
import IncidentRelay.Text.Quoted
import IncidentRelay.Text.Utf8

/-!
# Mailboxes

The addresses of mail, each with an optional name in front. A name is a row of words, bare or
quoted, and of dots; the address follows in angle brackets, or stands alone. Characters beyond ASCII
may stand in words and addresses. Lists of recipients are separated by commas, wherever these stand.

## Main statements

* `recipientTexts_append`: two lists joined by a comma have the texts of both.
-/

namespace IncidentRelay.Mail

open Text

/-- A mail address with an optional name. -/
structure Mailbox where
  name : Option String := none
  user : String
  domain : String
  deriving DecidableEq

/-- Why a text is no mailbox. -/
inductive MailboxError
  | malformed
  | user
  | domain
  deriving DecidableEq

/-- The text of a mailbox error. -/
def MailboxError.message : MailboxError → String
  | .malformed => "Invalid input"
  | .user => "Invalid email user"
  | .domain => "Invalid email domain"

/-- The address without the name. -/
def Mailbox.address (m : Mailbox) : String := m.user ++ "@" ++ m.domain

/-! ### Words -/

/-- The characters of bare words: letters, digits, a number of marks, and all beyond ASCII. -/
def isWordChar (c : Char) : Bool :=
  isAlphanumeric c || 0x80 ≤ c.toNat
    || ['!', '#', '$', '%', '&', '\'', '*', '+', '-', '/', '=', '?', '^', '_', '\x60', '{', '|',
      '}', '~'].contains c

/-- A space or a tab. -/
def isSpace (c : Char) : Bool := c == ' ' || c == '\t'

/-- Control characters that may stand in a quoted word. -/
def isQuotedControl (n : Nat) : Bool :=
  (1 ≤ n && n ≤ 8) || n == 11 || n == 12 || (14 ≤ n && n ≤ 31) || n == 127

/-- The characters that stand for themselves in a quoted word. -/
def isQuotedChar (c : Char) : Bool :=
  let n := c.toNat
  n == 33 || (35 ≤ n && n ≤ 91) || (93 ≤ n && n ≤ 126) || isQuotedControl n || 0x80 ≤ n

/-- The characters that a backslash can stand before. -/
def isEscapable (c : Char) : Bool :=
  let n := c.toNat
  (1 ≤ n && n ≤ 9) || n == 11 || n == 12 || (14 ≤ n && n ≤ 127)

/-- Blanks, of which the first alone counts. -/
def blanks (cs : List Char) : List Char × List Char :=
  ((cs.takeWhile isSpace).take 1, cs.dropWhile isSpace)

/-- A bare word. -/
def bareWord? (cs : List Char) : Option (List Char × List Char) :=
  let word := cs.takeWhile isWordChar
  if word = [] then none else some (word, cs.dropWhile isWordChar)

/-- A quoted word from behind its opening quote. -/
def quotedTail? : (fuel : Nat) → List Char → Option (List Char × List Char)
  | 0, _ => none
  | fuel + 1, cs =>
    let (blank, rest) := blanks cs
    match rest with
    | '"' :: rest => some ([], rest)
    | '\\' :: c :: rest =>
      if isEscapable c then (quotedTail? fuel rest).map fun (w, rest) => (blank ++ c :: w, rest)
      else none
    | c :: rest =>
      if isQuotedChar c then (quotedTail? fuel rest).map fun (w, rest) => (blank ++ c :: w, rest)
      else none
    | [] => none

/-- A quoted word. -/
def quotedWord? (cs : List Char) : Option (List Char × List Char) :=
  match cs with
  | '"' :: rest => quotedTail? (rest.length + 1) rest
  | _ => none

/-- A word with the blanks before it. -/
def word? (cs : List Char) : Option (List Char × List Char) :=
  let (blank, rest) := blanks cs
  ((quotedWord? rest).or (bareWord? rest)).map fun (w, rest) => (blank ++ w, rest)

/-- Further words and dots of a name. -/
def furtherWords : (fuel : Nat) → List Char → List Char × List Char
  | 0, cs => ([], cs)
  | fuel + 1, cs =>
    match word? cs, cs with
    | some (w, rest), _ =>
      let (more, rest) := furtherWords fuel rest
      (w ++ more, rest)
    | none, '.' :: rest =>
      let (more, rest) := furtherWords fuel rest
      ('.' :: more, rest)
    | none, _ => ([], cs)

/-- A name: a word, and further words and dots. -/
def displayName? (cs : List Char) : Option (List Char × List Char) :=
  (word? cs).map fun (w, rest) =>
    let (more, rest) := furtherWords rest.length rest
    (w ++ more, rest)

/-! ### Addresses -/

/-- Further words of an address, each with a dot before it. -/
def dottedTail : (fuel : Nat) → List Char → List Char × List Char
  | 0, cs => ([], cs)
  | fuel + 1, cs =>
    match cs with
    | '.' :: rest =>
      match bareWord? rest with
      | some (w, rest) =>
        let (more, rest) := dottedTail fuel rest
        ('.' :: w ++ more, rest)
      | none => ([], cs)
    | _ => ([], cs)

/-- Bare words with dots between them, and with the blanks before them. -/
def dottedWords? (cs : List Char) : Option (List Char × List Char) :=
  let (blank, rest) := blanks cs
  (bareWord? rest).map fun (w, rest) =>
    let (more, rest) := dottedTail rest.length rest
    (blank ++ w ++ more, rest)

/-- The two parts of an address. -/
def address? (cs : List Char) : Option (List Char × List Char × List Char) :=
  (((dottedWords? cs).or (quotedWord? cs)).or (word? cs)).bind fun (user, rest) =>
    match rest with
    | '@' :: rest => (dottedWords? rest).map fun (domain, rest) => (user, domain, rest)
    | _ => none

/-- An address in angle brackets, with blanks around it. -/
def bracketed? (cs : List Char) : Option (List Char × List Char × List Char) :=
  match cs.dropWhile isBlank with
  | '<' :: rest => (address? rest).bind fun (user, domain, rest) =>
    match rest with
    | '>' :: rest => some (user, domain, rest.dropWhile isBlank)
    | _ => none
  | _ => none

/-- A name with an address in angle brackets behind it. The name may be missing. -/
def named? (cs : List Char) :
    Option (Option (List Char) × List Char × List Char × List Char) :=
  match displayName? cs with
  | some (name, rest) => (bracketed? rest).map fun found => (some name, found)
  | none => (bracketed? cs).map fun found => (none, found)

/-- The name and the parts of the address of a mailbox. -/
def mailbox? (cs : List Char) : Option (Option (List Char) × List Char × List Char) :=
  let cs := trimBy isBlank cs
  match (named? cs).or ((address? cs).map fun found => (none, found)) with
  | some (name, user, domain, []) => some (name, user, domain)
  | _ => none

/-- How many bytes a text has. -/
def byteCount (cs : List Char) : Nat := (cs.flatMap Utf8.encodeChar).length

/-- Whether words with dots between them are well-formed. -/
def isDotted (cs : List Char) : Bool :=
  (segments '.' cs).all fun w => w ≠ [] && w.all isWordChar

/-- Whether a text can be the first part of an address: at most sixty-four bytes, in bare words
with dots between them, or quoted. -/
def isUser (cs : List Char) : Bool :=
  let quoted := match cs with
    | '"' :: rest =>
      rest.length ≥ 2 && rest.getLast? == some '"'
        && match quotedTail? (rest.length + 1) rest with
          | some (_, after) => after.isEmpty
          | none => false
    | _ => false
  byteCount cs ≤ 64 && (quoted || isDotted cs)

/-- Whether a label can stand in a domain: it begins and ends with a letter or a digit and has at
most sixty-three bytes. -/
def isLabel (cs : List Char) : Bool :=
  let atEnd (c : Option Char) : Bool := c.any fun c => isAlphanumeric c || 0x80 ≤ c.toNat
  atEnd cs.head? && atEnd cs.getLast? && byteCount cs ≤ 63 && cs.all isWordChar

/-- Whether a text is a domain as it stands. -/
def isPlainDomain (cs : List Char) : Bool :=
  byteCount cs ≤ 254 && (segments '.' cs).all isLabel

/-- Whether a text is a domain, as it stands or with its labels in ASCII. -/
def isDomain (cs : List Char) : Bool :=
  isPlainDomain cs || isPlainDomain (['.'].intercalate ((segments '.' cs).map Punycode.toAscii))

/-- Reads a mailbox. -/
def Mailbox.read (s : String) : Except MailboxError Mailbox :=
  match mailbox? s.toList with
  | none => .error .malformed
  | some (name, user, domain) =>
    if !isUser user then .error .user
    else if !isDomain domain then .error .domain
    else .ok { name := name.map String.ofList, user := String.ofList user,
               domain := String.ofList domain }

/-! ### Recipients -/

/-- Why a text is no list of recipients, if single mailboxes fail to be read for reasons in `ε`. -/
inductive RecipientError (ε : Type)
  | invalid (text : String) (e : ε)
  | nobody
  deriving DecidableEq

/-- The text of a recipient error. -/
def RecipientError.message : RecipientError MailboxError → String
  | .invalid text e => "invalid recipient " ++ quoted text ++ ": " ++ e.message
  | .nobody => "no valid email recipients found"

/-- The texts between the commas of a list, without the blanks around them; those that are blank
are left out. -/
def recipientTexts (list : String) : List String :=
  ((split ',' list).map trim).filter (· ≠ "")

section

variable {ε μ : Type} (read : String → Except ε μ)

/-- Reads all mailboxes, or tells the first that cannot be read. -/
def readAll : List String → Except (RecipientError ε) (List μ)
  | [] => .ok []
  | s :: rest =>
    match read s with
    | .error e => .error (.invalid s e)
    | .ok m =>
      match readAll rest with
      | .error e => .error e
      | .ok ms => .ok (m :: ms)

/-- The recipients of a list, of which there has to be one, by a reader of single mailboxes. -/
def recipientsBy (list : String) : Except (RecipientError ε) (List μ) :=
  match readAll read (recipientTexts list) with
  | .error e => .error e
  | .ok [] => .error .nobody
  | .ok ms => .ok ms

end

/-- The recipients of a list. -/
def parseRecipients (list : String) : Except (RecipientError MailboxError) (List Mailbox) :=
  recipientsBy Mailbox.read list

/-- A list of recipients may be written in two parts with a comma between them. -/
theorem recipientTexts_append (a b : String) :
    recipientTexts (a ++ "," ++ b) = recipientTexts a ++ recipientTexts b := by
  have h : (a ++ "," ++ b).toList = a.toList ++ ',' :: b.toList := by simp
  simp only [recipientTexts, split, h, segments_append, List.map_append, List.filter_append]

end IncidentRelay.Mail
