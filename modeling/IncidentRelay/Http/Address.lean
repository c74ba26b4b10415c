import IncidentRelay.Http.Host
import IncidentRelay.Text.Base64
import IncidentRelay.Text.Blank

/-!
# Web addresses

An address is brought into its normal form before anything is sent to it: scheme and host in small
letters, no port where it is the usual one, a path without steps that lead nowhere, and percent
coding of the characters that need it. Credentials in an address become a header.
-/

namespace IncidentRelay.Http

open Text

/-- Why no request can be made of an address. -/
inductive AddressError
  | malformed
  /-- The scheme is not one of the web's. The normal form comes along. -/
  | foreignScheme (text : String)
  deriving DecidableEq

/-- The address of a request. -/
structure Address where
  /-- What is asked for. -/
  target : String
  /-- The address as messages show it, with its fragment. -/
  text : String
  /-- The header that the credentials in the address become. -/
  authorization : Option String := none
  deriving DecidableEq

/-- Characters percent coded in a fragment. -/
def codedInFragment (c : Char) : Bool :=
  c.toNat < 32 || c.toNat == 127 || [' ', '"', '<', '>', '\x60'].contains c

/-- Characters percent coded in a path. -/
def codedInPath (c : Char) : Bool := codedInFragment c || ['#', '?', '{', '}'].contains c

/-- Characters percent coded in a query. -/
def codedInQuery (c : Char) : Bool :=
  c.toNat < 32 || c.toNat == 127 || [' ', '"', '#', '<', '>', '\''].contains c

/-- Control characters, the only ones percent coded everywhere. -/
def codedAnywhere (c : Char) : Bool := c.toNat < 32 || c.toNat == 127

/-- The usual port of a scheme. -/
def usualPort? (scheme : String) : Option Nat :=
  match scheme with
  | "http" | "ws" => some 80
  | "https" | "wss" => some 443
  | "ftp" => some 21
  | _ => none

/-- Splits off a scheme. -/
def scheme? (cs : List Char) : Option (String × List Char) :=
  let word := cs.takeWhile (· != ':')
  match word, cs.dropWhile (· != ':') with
  | c :: _, _ :: rest =>
    if isLetter c && word.all fun c => isAlphanumeric c || ['+', '-', '.'].contains c then
      some (String.ofList (word.map lowerAscii), rest)
    else none
  | _, _ => none

/-- Whether a character ends the steps of a path. -/
def isSlash (c : Char) : Bool := c == '/' || c == '\\'

/-- Whether a step of a path is that of a dot. -/
def isDot (s : List Char) : Bool := s.map lowerAscii == ['.'] || s.map lowerAscii == "%2e".toList

/-- Whether a step of a path leads up. -/
def isDotDot (s : List Char) : Bool :=
  ["..", "%2e.", ".%2e", "%2e%2e"].contains (String.ofList (s.map lowerAscii))

/-- The steps of a path without those that lead nowhere or up; the steps that are done come last
first. -/
def normalSegments (done : List (List Char)) : List (List Char) → List (List Char)
  | [] => done.reverse
  | s :: rest =>
    if isDotDot s then
      normalSegments (if rest = [] then [] :: done.drop 1 else done.drop 1) rest
    else if isDot s then normalSegments (if rest = [] then [] :: done else done) rest
    else normalSegments (percentEncode codedInPath s :: done) rest

/-- A path in its normal form, which begins with a slash. -/
def normalPath (cs : List Char) : List Char :=
  let cs := cs.map fun c => if c = '\\' then '/' else c
  let steps := match cs with
    | '/' :: rest => segments '/' rest
    | _ => segments '/' cs
  (normalSegments [] steps).flatMap ('/' :: ·)

/-- What stands before and after the last occurrence of a character. -/
def cutLast? (sep : Char) (cs : List Char) : Option (List Char × List Char) :=
  (cut? sep cs.reverse).map fun (after, before) => (before.reverse, after.reverse)

/-- The credentials of an address as a header. -/
def credentials? (cs : List Char) : Option String :=
  let (user, password) := match cut? ':' cs with
    | some (u, p) => (u, p)
    | none => (cs, [])
  if user = [] ∧ password = [] then none
  else
    some ("Basic " ++ String.ofList (base64 (percentDecode user ++ 58 :: percentDecode password)))

/-- Splits host and port. -/
def hostAndPort (cs : List Char) : List Char × List Char :=
  match cs with
  | '[' :: _ =>
    let inner := cs.takeWhile (· != ']')
    (inner ++ [']'], (cs.drop (inner.length + 1)).drop 1)
  | _ => (cs.takeWhile (· != ':'), (cs.dropWhile (· != ':')).drop 1)

/-- A port with its colon, empty where it is the usual one. -/
def port? (scheme : String) (cs : List Char) : Option String :=
  if cs = [] then some ""
  else if cs.all isDigit ∧ digitsValue cs < 65536 then
    some (if usualPort? scheme = some (digitsValue cs) then ""
      else ":" ++ toString (digitsValue cs))
  else none

/-- An address below a scheme of the web, from behind the colon. -/
def webAddress? (scheme : String) (cs : List Char) : Option Address :=
  let cs := cs.dropWhile isSlash
  let ends (c : Char) : Bool := isSlash c || c == '?' || c == '#'
  let authority := cs.takeWhile fun c => !ends c
  let rest := cs.dropWhile fun c => !ends c
  let (given, machine) := match cutLast? '@' authority with
    | some (u, m) => (u, m)
    | none => ([], authority)
  let (name, port) := hostAndPort machine
  (host? name).bind fun host => (port? scheme port).map fun port =>
    let (rest, fragment) := match cut? '#' rest with
      | some (r, f) => (r, "#" ++ String.ofList (percentEncode codedInFragment f))
      | none => (rest, "")
    let (path, query) := match cut? '?' rest with
      | some (p, q) => (p, "?" ++ String.ofList (percentEncode codedInQuery q))
      | none => (rest, "")
    let target := scheme ++ "://" ++ host ++ port ++ String.ofList (normalPath path) ++ query
    { target, text := target ++ fragment, authorization := credentials? given }

/-- Reads an address. -/
def Address.read (s : String) : Except AddressError Address :=
  let cs := (trimBy (fun c => c.toNat ≤ 32) s.toList).filter fun c =>
    !(c == '\t' || c == '\n' || c == '\r')
  match scheme? cs with
  | none => .error .malformed
  | some (scheme, rest) =>
    if (usualPort? scheme).isSome then
      match webAddress? scheme rest with
      | none => .error .malformed
      | some a =>
        if scheme = "http" ∨ scheme = "https" then .ok a else .error (.foreignScheme a.text)
    else
      .error (.foreignScheme (scheme ++ ":" ++ String.ofList (percentEncode codedAnywhere rest)))

end IncidentRelay.Http
