import IncidentRelay.Mail.Mailbox
import IncidentRelay.Text.Base64

/-!
# Mail headers

The lines of a header. A line is broken at a space before it grows beyond seventy-six bytes, and
the spaces go to the next line. Words that a header cannot hold are written as encoded words, which
fill the rest of a line with whole characters and go on behind a space on the next one.
-/

namespace IncidentRelay.Mail

open Text

/-- How many bytes a line may have. -/
def lineWidth : Nat := 76

/-- A header that is being written. -/
structure Lines where
  /-- The lines that are complete, last first. -/
  complete : List (List Char) := []
  /-- The characters of the line that is being written. -/
  line : List Char := []
  /-- The bytes of the line, with what stands in front of the text. -/
  width : Nat
  /-- Spaces that are due before the next word. -/
  spaces : Nat := 0
  /-- Whether anything was written on this line. -/
  begun : Bool := false

namespace Lines

/-- The bytes of the line with the spaces that are due. -/
def due (l : Lines) : Nat := l.width + l.spaces

/-- Adds a space that is due. -/
def space (l : Lines) : Lines := { l with spaces := l.spaces + 1 }

/-- Writes a text on the line. -/
def write (l : Lines) (s : List Char) : Lines :=
  { l with
    line := l.line ++ List.replicate l.spaces ' ' ++ s
    width := l.due + byteCount s
    spaces := 0
    begun := true }

/-- Goes to a new line. -/
def breakLine (l : Lines) : Lines :=
  { l with complete := l.line :: l.complete, line := [], width := 0, begun := false }

/-- Writes a word, on a new line if it does not fit and a space is due before it. -/
def fold (l : Lines) (word : List Char) : Lines :=
  if l.begun && 0 < l.spaces && lineWidth < l.due + byteCount word then l.breakLine.write word
  else l.write word

/-- Writes words with the spaces between them. -/
def foldWords (l : Lines) (text : List Char) : Lines :=
  let (l, word) := text.foldl (fun (l, word) c =>
    if c = ' ' then ((if word = [] then l else fold l word.reverse).space, [])
    else (l, c :: word)) (l, [])
  if word = [] then l else l.fold word.reverse

/-- The longest beginning of a text with at most so many bytes. -/
def takeBytes : Nat → List Char → List Char
  | _, [] => []
  | n, c :: rest =>
    let k := (Utf8.encodeChar c).length
    if k ≤ n then c :: takeBytes (n - k) rest else []

/-- A text as an encoded word. -/
def encodedWord (s : List Char) : List Char :=
  "=?utf-8?b?".toList ++ base64 (s.flatMap Utf8.encodeChar) ++ "?=".toList

/-- How many bytes an encoded word and a line break take besides the text. -/
def encodedOverhead : Nat := 14

/-- Writes a text in encoded words. `again` tells whether one was written already. -/
def encode : (fuel : Nat) → (again : Bool) → Lines → List Char → Lines
  | 0, _, l, _ => l
  | _, _, l, [] => l
  | fuel + 1, again, l, c :: rest =>
    let room := (lineWidth - (l.due + encodedOverhead)) / 4 * 3
    match takeBytes room (c :: rest) with
    | [] =>
      if again || 0 < l.spaces then
        let l := l.breakLine
        encode fuel again (if l.spaces = 0 then l.space else l) (c :: rest)
      else encode fuel true (l.write (encodedWord [c])) rest
    | word => encode fuel true (l.write (encodedWord word)) ((c :: rest).drop word.length)

/-- Writes a text in encoded words. -/
def encodeText (l : Lines) (text : List Char) : Lines := encode (2 * text.length + 2) false l text

/-- The lines that were written, with the spaces that are still due at the end. -/
def finish (l : Lines) : List String :=
  ((l.line ++ List.replicate l.spaces ' ') :: l.complete).reverse.map String.ofList

end Lines

/-- Whether a header can hold a character as it is. -/
def isHeaderChar (c : Char) : Bool :=
  let n := c.toNat
  (1 ≤ n && n ≤ 9) || n == 11 || n == 12 || (14 ≤ n && n ≤ 127)

/-- The words of a text, each with the space after it. -/
def spacedWords (word : List Char) : List Char → List (List Char)
  | [] => if word = [] then [] else [word.reverse]
  | c :: rest =>
    if c = ' ' then (c :: word).reverse :: spacedWords [] rest else spacedWords (c :: word) rest

/-- Writes the words that were held back as encoded words, with the spaces at their end. -/
def Lines.flush (l : Lines) (held : List Char) : Lines :=
  let text := trimRight (· == ' ') held
  let l := l.encodeText text
  { l with spaces := l.spaces + (held.length - text.length) }

/-- Writes words, those that a header cannot hold as encoded words. -/
def Lines.writeWords (l : Lines) (held : List Char) : List (List Char) → Lines
  | [] => l.flush held
  | word :: rest =>
    if word.all isHeaderChar then
      let l := if held = [] then l else l.flush held
      Lines.writeWords (l.foldWords word) [] rest
    else Lines.writeWords l (held ++ word) rest

/-- The lines of a header under a name. -/
def header (name : String) (write : Lines → Lines) : List String :=
  match (write { width := name.length + 2 }).finish with
  | [] => []
  | first :: rest => (name ++ ": " ++ first) :: rest

/-- The lines of a header with a text. -/
def textHeader (name text : String) : List String :=
  header name fun l =>
    match spacedWords [] text.toList with
    | [] => l
    | words => l.writeWords [] words

/-! ### Mailboxes -/

/-- How a name is written. -/
inductive NameForm
  | bare
  | quoted
  | encoded

/-- Whether a name has to be quoted, or even encoded. -/
def nameForm (name : List Char) : NameForm :=
  if name.any fun c => 0x80 ≤ c.toNat || (c.toNat < 32 && c != '\t') || c.toNat == 127 then .encoded
  else if name.all isWordChar then .bare
  else .quoted

/-- A name in quotes. -/
def quotedName (name : List Char) : List Char :=
  '"' :: name.flatMap (fun c => if c = '"' ∨ c = '\\' then ['\\', c] else [c]) ++ ['"']

/-- Writes a mailbox. -/
def Lines.writeMailbox (l : Lines) (m : Mailbox) : Lines :=
  match m.name with
  | none => l.write m.address.toList
  | some name =>
    let name := name.toList
    let l := match nameForm name with
      | .bare => l.foldWords name
      | .quoted => l.foldWords (quotedName name)
      | .encoded => l.encodeText name
    l.space.write ('<' :: m.address.toList ++ ['>'])

/-- Writes mailboxes with commas between them. -/
def Lines.writeMailboxes (l : Lines) : List Mailbox → Lines
  | [] => l
  | [m] => l.writeMailbox m
  | m :: rest => Lines.writeMailboxes ((l.writeMailbox m).write [',']).space rest

/-- The lines of a header with mailboxes. -/
def mailboxHeader (name : String) (ms : List Mailbox) : List String :=
  header name fun l => l.writeMailboxes ms

end IncidentRelay.Mail
