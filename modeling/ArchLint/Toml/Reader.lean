import ArchLint.Toml.Table
import ArchLint.Toml.Text
import ArchLint.Toml.Word

/-!
Reading a TOML document line by line. A header says which table the following lines add to; a line
with a key adds its value to that table.
-/

namespace ArchLint.Toml

/-- Values and dotted keys nest less deep than this. -/
def maxDepth : Nat := 80

def isBareKeyChar (c : Char) : Bool := c.isAlphanum || c = '_' || c = '-'

/-- One part of a key: a word, or a string on one line. -/
def simpleKey? (cs : List Char) : Read String :=
  match cs.span isBareKeyChar with
  | ([], cs) => (lineString? cs).map fun (s, rest) => (String.ofList s, rest)
  | (word, rest) => some (String.ofList word, rest)

/-- The parts of a key with dots between them and blanks around them. -/
def keyParts? : (fuel : Nat) → List Char → Read (List String)
  | 0, _ => none
  | fuel + 1, cs =>
    (simpleKey? (skipBlank cs)).bind fun (part, rest) =>
      match skipBlank rest with
      | '.' :: rest => (keyParts? fuel rest).map fun (parts, rest) => (part :: parts, rest)
      | rest => some ([part], rest)

/-- A key as the parts before its last dot, and the part after it. -/
def key? (cs : List Char) : Read (List String × String) :=
  match keyParts? (cs.length + 1) cs with
  | some (parts, rest) =>
    if parts.length < maxDepth then
      parts.getLast?.map fun last => ((parts.dropLast, last), rest)
    else none
  | none => none

mutual

/-- A value that may hold others down to a depth. -/
def value? (room : Nat) : (fuel : Nat) → List Char → Read Document
  | 0, _ => none
  | fuel + 1, cs =>
    match cs with
    | '[' :: cs => if room = 0 then none else items? (room - 1) [] fuel cs
    | '\x7b' :: cs =>
      if room = 0 then none
      else
        match skipBlank cs with
        | '\x7d' :: cs => some (.table [], cs)
        | cs => inline? (room - 1) (.empty .header) fuel cs
    | c :: _ =>
      if c = '"' ∨ c = '\'' then (string? cs).map fun (s, rest) => (.text (String.ofList s), rest)
      else word? cs
    | [] => none

/-- The items of a list after its bracket or a comma; a comma may stand before the end. -/
def items? (room : Nat) (read : List Document) : (fuel : Nat) → List Char → Read Document
  | 0, _ => none
  | fuel + 1, cs =>
    match skipSpace (cs.length + 1) cs with
    | ']' :: rest => some (.list read.reverse, rest)
    | cs =>
      match value? room fuel cs with
      | none => none
      | some (d, rest) =>
        match skipSpace (rest.length + 1) rest with
        | ',' :: rest => items? room (d :: read) fuel rest
        | ']' :: rest => some (.list (d :: read).reverse, rest)
        | _ => none

/-- The entries of a table on one line; no comma stands before the end. -/
def inline? (room : Nat) (t : Table) : (fuel : Nat) → List Char → Read Document
  | 0, _ => none
  | fuel + 1, cs =>
    match key? cs with
    | some ((dots, key), '=' :: rest) =>
      match value? room fuel (skipBlank rest) with
      | none => none
      | some (d, rest) =>
        match t.addValue dots key d with
        | none => none
        | some t =>
          match skipBlank rest with
          | ',' :: rest => inline? room t fuel rest
          | '\x7d' :: rest => some (t.toDocument, rest)
          | _ => none
    | _ => none

end

/-- What was read so far, and the path of the table that lines add to. -/
structure Progress where
  root : Table := .empty .header
  path : List String := []

/-- A header after its brackets: opens its table. -/
def header? (p : Progress) (several : Bool) (cs : List Char) : Read Progress :=
  match key? cs with
  | some ((way, key), rest) =>
    let opened := if several then p.root.openAnother way key else p.root.openTable way key
    let rest := match several, rest with
      | true, ']' :: ']' :: rest => endOfLine? rest
      | false, ']' :: rest => endOfLine? rest
      | _, _ => none
    match opened, rest with
    | some root, some rest => some ({ root, path := way ++ [key] }, rest)
    | _, _ => none
  | none => none

/-- A line with a key and its value. -/
def entry? (p : Progress) (cs : List Char) : Read Progress :=
  match key? cs with
  | some ((dots, key), '=' :: rest) =>
    match value? (maxDepth - 1) (2 * rest.length + 2) (skipBlank rest) with
    | none => none
    | some (d, rest) =>
      match p.root.change false p.path fun t => t.addValue dots key d, endOfLine? rest with
      | some root, some rest => some ({ p with root }, rest)
      | _, _ => none
  | _ => none

/-- One line. -/
def line? (p : Progress) (cs : List Char) : Read Progress :=
  match skipBlank cs with
  | '[' :: '[' :: cs => header? p true cs
  | '[' :: cs => header? p false cs
  | cs =>
    match endOfLine? cs with
    | some rest => some (p, rest)
    | none => entry? p cs

/-- All lines; each takes a character at least. -/
def lines? (p : Progress) : (fuel : Nat) → List Char → Option Table
  | 0, _ => none
  | fuel + 1, cs =>
    match cs with
    | [] => some p.root
    | cs =>
      match line? p cs with
      | some (p, rest) => lines? p fuel rest
      | none => none

/-- The text without a mark of byte order at its head. -/
def dropMark : List Char → List Char
  | '\ufeff' :: cs => cs
  | cs => cs

/-- A list may stand for a table, and what it has too many does not count. -/
def conventions : Document.Conventions :=
  { listForTable := true, surplus := true, emptyForNull := true }

/-- The document that a text holds. -/
def readDocument? (text : String) : Option Document :=
  let cs := dropMark text.toList
  (lines? {} (cs.length + 1) cs).map Table.toDocument

end ArchLint.Toml
