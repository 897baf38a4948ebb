import SchemaDrift.Fault
import SchemaDrift.Text.Digits

/-!
# Places in a YAML text

A cursor stands at a place in a text and knows its line and column. Reading a YAML text depends
on columns, because indentation tells what belongs together.
-/

namespace SchemaDrift.Document.Yaml

def isBreak (c : Char) : Bool := c == '\n' || c == '\x85' || c == '\u2028' || c == '\u2029'

def isSpace (c : Char) : Bool := c == ' ' || c == '\t'

/-- Whether a place is followed by a blank, the end of a line or the end of the text. -/
def isGap (c : Option Char) : Bool :=
  match c with
  | none => true
  | some c => isSpace c || isBreak c

def isLineEnd (c : Option Char) : Bool :=
  match c with
  | none => true
  | some c => isBreak c

/-- Whether a place is followed by a space or is at the end of a line. -/
def isSpaceOrLineEnd (c : Option Char) : Bool := c == some ' ' || isLineEnd c

def byteOrderMark : Char := '\uFEFF'

def isAllowed (c : Char) : Bool :=
  c == '\t' || c == '\n' || c == '\x85' || (' ' ≤ c && c ≤ '~') ||
    ('\u00A0' ≤ c && c != '\uFFFE' && c != '\uFFFF')

/-- A place in a text. -/
structure Cursor where
  rest : List Char
  index : Nat := 0
  line : Nat := 0
  column : Nat := 0

namespace Cursor

def step (c : Cursor) : Cursor :=
  match c.rest with
  | [] => c
  | d :: rest =>
    if isBreak d then ⟨rest, c.index + 1, c.line + 1, 0⟩
    else if d == byteOrderMark then ⟨rest, c.index + 1, c.line, c.column⟩
    else ⟨rest, c.index + 1, c.line, c.column + 1⟩

def forward : Nat → Cursor → Cursor
  | 0, c => c
  | n + 1, c => c.step.forward n

end Cursor

/-- Reads on from a place, unless the text is at fault. -/
abbrev Scan := StateT Cursor (Except Fault)

namespace Scan

def refuse {α : Type} : Scan α := throw .yamlSyntax

/-- A result that the text may not have. -/
def ofOption {α : Type} : Option α → Scan α
  | some a => pure a
  | none => refuse

def peek (ahead : Nat) : Scan (Option Char) := return (← get).rest[ahead]?

def forward (count : Nat) : Scan Unit := modify (Cursor.forward count)

def ensure (holds : Bool) : Scan Unit := if holds then pure () else refuse

def takeWhile (p : Char → Bool) : Scan (List Char) := do
  let cs := (← get).rest.takeWhile p
  forward cs.length
  return cs

def skipWhile (p : Char → Bool) : Scan Unit := do
  let _ ← takeWhile p

/-- Moves behind the end of the line, if it is here, and tells what it counts as. -/
def lineBreak : Scan (List Char) := do
  match ← peek 0 with
  | none => return []
  | some c =>
    if isBreak c then
      forward 1
      return [if c == '\x85' then '\n' else c]
    else return []

/-- Moves to the end of the line, if a comment begins here. -/
def comment : Scan Unit := do
  if (← peek 0) == some '#' then skipWhile (!isBreak ·)

/-- Moves behind the end of the line, on which only blanks and a comment may be left. -/
def endLine : Scan Unit := do
  skipWhile (· == ' ')
  comment
  ensure (isLineEnd (← peek 0))
  let _ ← lineBreak

/-- Whether three characters that separate documents stand here. -/
def atSeparator (mark : List Char) : Scan Bool := do
  return mark.isPrefixOf (← get).rest && isGap (← peek 3)

/-- Whether a mark stands here that begins or ends a document. -/
def atDocumentMark : Scan Bool := do
  return (← atSeparator ['-', '-', '-']) || (← atSeparator ['.', '.', '.'])

def word : Scan String := do
  let cs ← takeWhile fun c => c.isAlphanum || c == '-' || c == '_'
  ensure (!cs.isEmpty)
  return String.ofList cs

end Scan

end SchemaDrift.Document.Yaml
