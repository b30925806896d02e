import StoreClient.Toml.Literal

/-!
# TOML documents

A document is a sequence of lines: blank ones, headers of tables, and values under keys. Values
before the first header belong to the document itself, the others to the table of the header above
them. `Document.ofText?` gives the table that a document denotes.
-/

namespace StoreClient.Toml

open Text

/-- What a line says. -/
inductive Line where
  /-- Nothing. -/
  | blank
  /-- The lines below belong to this table. -/
  | table (key : Key)
  /-- The lines below belong to a new element of this array of tables. -/
  | element (key : Key)
  /-- A value under a key. -/
  | assignment (key : Key) (value : Value)

/-- Reads a header with the given brackets. -/
def header? (opening closing : List Char) (cs : List Char) : Option (Key × List Char) := do
  let (key, cs) ← key? (← word? opening cs)
  return (key, ← word? closing cs)

/-- Reads what a line says; the blanks at its front are skipped. -/
def content? (cs : List Char) : Option (Line × List Char) :=
  match cs with
  | '[' :: '[' :: _ => (header? ['[', '['] [']', ']'] cs).map fun (key, cs) => (.element key, cs)
  | '[' :: _ => (header? ['['] [']'] cs).map fun (key, cs) => (.table key, cs)
  | _ => (assignment? value? cs).map fun ((key, v), cs) => (.assignment key v, cs)

/-- Reads one line with its end. There is none in an empty text. -/
def line? (cs : List Char) : Option (Line × List Char) :=
  let cs := skipBlanks cs
  if cs.isEmpty then none
  else
    match lineEnd? cs with
    | some cs => some (.blank, cs)
    | none => do
      let (content, cs) ← content? cs
      return (content, ← lineEnd? cs)

/-- The lines of a text; a mark of the byte order at its front does not count. -/
def lines? (cs : List Char) : Option (List Line) :=
  let cs := (char? '\ufeff' cs).getD cs
  match many line? cs with
  | (lines, rest) => if (skipBlanks rest).isEmpty then some lines else none

/-- A header and the values below it. -/
structure Section where
  /-- The table, or the array of tables. -/
  key : Key
  /-- Whether the header adds an element to an array of tables. -/
  isElement : Bool
  /-- The values with their keys. -/
  assignments : List (Key × Value)

/-- The values before the first header, and the sections after them. -/
def sections : List Line → List (Key × Value) × List Section
  | [] => ([], [])
  | line :: lines =>
    let (first, rest) := sections lines
    match line with
    | .blank => (first, rest)
    | .assignment key v => ((key, v) :: first, rest)
    | .table key => ([], ⟨key, false, first⟩ :: rest)
    | .element key => ([], ⟨key, true, first⟩ :: rest)

/-- Adds a section to an unfinished document. -/
def Section.build (s : Section) (document : DraftTable) : Option DraftTable :=
  let change := if s.isElement then DraftTable.push else DraftTable.define
  DraftTable.descend (change s.key.name s.assignments) s.key.path document

/-- The table that lines denote, if no key is defined twice. -/
def tableOfLines? (lines : List Line) : Option Table := do
  let (first, rest) := sections lines
  let document ← DraftTable.assignAll [] first
  let document ← rest.foldlM (fun d s => s.build d) document
  return Draft.finishEntries document

/-- The table that a text denotes, if it is a document. -/
def document? (text : String) : Option Table := (lines? text.toList).bind tableOfLines?

end StoreClient.Toml
