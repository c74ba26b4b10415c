import IncidentRelay.Toml.Scalar
import IncidentRelay.Toml.Text
import IncidentRelay.Toml.Tree

/-!
# Reading TOML

A document is a row of lines: keys with values, headers and comments. Reading gives the object
that the document stands for, or nothing when the document is not well-formed.
-/

namespace IncidentRelay.Toml

open Json (Value)

/-- How deep arrays and inline tables nest. -/
def nestingLimit : Nat := 80

/-- A character of a key without quotes. -/
def isKeyChar (c : Char) : Bool := Text.isAlphanumeric c || c == '_' || c == '-'

/-- Reads one part of a key. -/
def simpleKey? (cs : List Char) : Option (String × List Char) :=
  match cs with
  | '"' :: rest => basic? (cs.length + 1) [] rest
  | '\'' :: rest => literal? rest
  | _ =>
    let run := cs.takeWhile isKeyChar
    if run = [] then none else some (String.ofList run, cs.dropWhile isKeyChar)

/-- Reads a key with its dots, first part first. -/
def key? : (fuel : Nat) → List Char → Option (List String × List Char)
  | 0, _ => none
  | fuel + 1, cs =>
    (simpleKey? (skipBlanks cs)).bind fun (k, rest) =>
      match skipBlanks rest with
      | '.' :: more => (key? fuel more).map fun (ks, rest) => (k :: ks, rest)
      | rest => some ([k], rest)

mutual

/-- Reads a value. -/
def value? : (fuel depth : Nat) → List Char → Option (Value × List Char)
  | 0, _, _ => none
  | fuel + 1, depth, cs =>
    match cs with
    | '"' :: _ | '\'' :: _ => (string? cs).map fun (s, rest) => (.string s, rest)
    | '[' :: rest =>
      if depth = 0 then none
      else (items? fuel (depth - 1) rest).map fun (vs, rest) => (.array vs, rest)
    | '{' :: rest =>
      if depth = 0 then none
      else match skipBlanks rest with
        | '}' :: rest => some (.object [], rest)
        | rest => (entries? fuel (depth - 1) [] rest).map fun (t, rest) =>
          (Node.toValue (.table .header t), rest)
    | _ => scalarValue? cs

/-- Reads the items of an array up to its closing bracket. -/
def items? : (fuel depth : Nat) → List Char → Option (List Value × List Char)
  | 0, _, _ => none
  | fuel + 1, depth, cs =>
    (skipLines (fuel + 1) cs).bind fun
      | ']' :: rest => some ([], rest)
      | cs => (value? fuel depth cs).bind fun (v, rest) =>
        (skipLines (fuel + 1) rest).bind fun
          | ',' :: rest => (items? fuel depth rest).map fun (vs, rest) => (v :: vs, rest)
          | ']' :: rest => some ([v], rest)
          | _ => none

/-- Reads the entries of an inline table up to its closing brace. -/
def entries? : (fuel depth : Nat) → Tree → List Char → Option (Tree × List Char)
  | 0, _, _, _ => none
  | fuel + 1, depth, t, cs =>
    (key? (fuel + 1) cs).bind fun
      | (ks, '=' :: rest) =>
        (value? fuel depth (skipBlanks rest)).bind fun (v, rest) =>
          (Tree.assign ks.dropLast (ks.getLast?.getD "") v true t).bind fun t =>
            match skipBlanks rest with
            | ',' :: rest => entries? fuel depth t rest
            | '}' :: rest => some (t, rest)
            | _ => none
      | _ => none

end

/-- Reads a line that is not blank, under the header in force, to the header then in force. -/
def line? (fuel : Nat) (header : List String) (t : Tree) (cs : List Char) :
    Option (List String × Tree × List Char) :=
  match cs with
  | '[' :: '[' :: rest =>
    (key? fuel rest).bind fun
      | (ks, ']' :: ']' :: rest) =>
        (endLine? rest).bind fun rest => (Tree.append ks t).map fun t => (ks, t, rest)
      | _ => none
  | '[' :: rest =>
    (key? fuel rest).bind fun
      | (ks, ']' :: rest) =>
        (endLine? rest).bind fun rest => (Tree.define ks t).map fun t => (ks, t, rest)
      | _ => none
  | _ =>
    (key? fuel cs).bind fun
      | (ks, '=' :: rest) =>
        (value? fuel nestingLimit (skipBlanks rest)).bind fun (v, rest) =>
          (endLine? rest).bind fun rest =>
            (Tree.assignUnder header ks.dropLast (ks.getLast?.getD "") v t).map fun t =>
              (header, t, rest)
      | _ => none

/-- Reads the lines of a document. -/
def linesFrom? : (fuel : Nat) → (header : List String) → Tree → List Char → Option Tree
  | 0, _, _, _ => none
  | fuel + 1, header, t, cs =>
    (skipLines (fuel + 1) cs).bind fun
      | [] => some t
      | cs => (line? (fuel + 1) header t cs).bind fun (header, t, rest) =>
        linesFrom? fuel header t rest

/-- The object of a document. A byte order mark at its front is no part of it. -/
def read (text : String) : Option Value :=
  let cs := match text.toList with
    | c :: rest => if c.toNat = 0xFEFF then rest else c :: rest
    | [] => []
  (linesFrom? (cs.length + 1) [] [] cs).map fun t => Node.toValue (.table .header t)

end IncidentRelay.Toml
