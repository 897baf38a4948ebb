import SchemaDrift.Document.Yaml.Cursor

/-!
# Scalars of YAML

The text of a scalar in each of its forms: in single or double quotes, as a block behind a bar or
a greater-than sign, and plain. Line ends inside a scalar become blanks where the form folds
lines.
-/

namespace SchemaDrift.Document.Yaml

/-- What one line end and the empty lines behind it become where lines are folded. -/
def folded (lineEnd more : List Char) : List Char :=
  if lineEnd != ['\n'] then lineEnd ++ more
  else if more.isEmpty then [' ']
  else more

/-- What a letter stands for behind a backslash. -/
def escaped? : Char → Option Char
  | '0' => some '\x00'
  | 'a' => some '\x07'
  | 'b' => some '\x08'
  | 't' | '\t' => some '\t'
  | 'n' => some '\n'
  | 'v' => some '\x0b'
  | 'f' => some '\x0c'
  | 'r' => some '\r'
  | 'e' => some '\x1b'
  | ' ' => some ' '
  | '"' => some '"'
  | '\\' => some '\\'
  | '/' => some '/'
  | 'N' => some '\x85'
  | '_' => some '\u00A0'
  | 'L' => some '\u2028'
  | 'P' => some '\u2029'
  | _ => none

/-- How many hexadecimal digits a letter asks for behind a backslash. -/
def escapeLength? : Char → Option Nat
  | 'x' => some 2
  | 'u' => some 4
  | 'U' => some 8
  | _ => none

/-- The character of a code point. A surrogate is replaced, because no text holds one. -/
def character (n : Nat) : Except Fault Char :=
  if n.isValidChar then .ok (Char.ofNat n)
  else if n < 0x110000 then .ok '\uFFFD'
  else if n < Nat.pow 2 31 then .error .noCodePoint
  else .error .tooLarge

def codePoint (count : Nat) : Scan Char := do
  let digits := (← get).rest.take count
  Scan.ensure (digits.length == count && digits.all Text.isHexDigit)
  let c ← character (Text.valueOf 16 digits)
  Scan.forward count
  return c

/-- The empty lines behind a line end in quotes. No document may begin or end there. -/
def quotedLines : (fuel : Nat) → Scan (List Char)
  | 0 => Scan.refuse
  | fuel + 1 => do
    Scan.ensure (!(← Scan.atDocumentMark))
    Scan.skipWhile isSpace
    match ← Scan.lineBreak with
    | [] => return []
    | lineEnd => return lineEnd ++ (← quotedLines fuel)

def escape (fuel : Nat) : Scan (List Char) := do
  match ← Scan.peek 0 with
  | none => Scan.refuse
  | some c =>
    if isBreak c then
      let _ ← Scan.lineBreak
      quotedLines fuel
    else
      Scan.forward 1
      match escaped? c, escapeLength? c with
      | some d, _ => return [d]
      | none, some count => return [← codePoint count]
      | none, none => Scan.refuse

/-- The characters in quotes up to the next blank, line end or closing quote. -/
def quotedWord (double : Bool) : (fuel : Nat) → Scan (List Char)
  | 0 => Scan.refuse
  | fuel + 1 => do
    let run ← Scan.takeWhile fun c =>
      c != '\'' && c != '"' && c != '\\' && !isSpace c && !isBreak c
    match ← Scan.peek 0, ← Scan.peek 1 with
    | some '\'', next =>
      if double then
        Scan.forward 1
        return run ++ '\'' :: (← quotedWord double fuel)
      else if next == some '\'' then
        Scan.forward 2
        return run ++ '\'' :: (← quotedWord double fuel)
      else return run
    | some c, _ =>
      if double && c == '\\' then
        Scan.forward 1
        let here ← escape fuel
        return run ++ here ++ (← quotedWord double fuel)
      else if !double && (c == '"' || c == '\\') then
        Scan.forward 1
        return run ++ c :: (← quotedWord double fuel)
      else return run
    | none, _ => return run

/-- The blanks and line ends between two words in quotes. -/
def quotedGap (fuel : Nat) : Scan (List Char) := do
  let blanks ← Scan.takeWhile isSpace
  Scan.ensure (← Scan.peek 0).isSome
  match ← Scan.lineBreak with
  | [] => return blanks
  | lineEnd => return folded lineEnd (← quotedLines fuel)

/-- The rest of a scalar in quotes, up to its closing quote. -/
def quotedTail (double : Bool) : (fuel : Nat) → Scan (List Char)
  | 0 => Scan.refuse
  | fuel + 1 => do
    if (← Scan.peek 0) == some (if double then '"' else '\'') then
      Scan.forward 1
      return []
    else
      let gap ← quotedGap fuel
      let word ← quotedWord double fuel
      return gap ++ word ++ (← quotedTail double fuel)

def quoted (double : Bool) : Scan String := do
  Scan.forward 1
  let fuel := (← get).rest.length + 2
  let word ← quotedWord double fuel
  return String.ofList (word ++ (← quotedTail double fuel))

/-- What happens to the line ends at the end of a block. -/
inductive Chomping where
  | strip
  | clip
  | keep
  deriving DecidableEq

/-- The mark for the line ends at the end of a block. -/
def chompingMark : Scan (Option Chomping) := do
  match ← Scan.peek 0 with
  | some '+' => Scan.forward 1; return some .keep
  | some '-' => Scan.forward 1; return some .strip
  | _ => return none

/-- The mark for the depth of a block: a digit other than zero. -/
def depthMark : Scan (Option Nat) := do
  match ← Scan.peek 0 with
  | some c =>
    if c.isDigit then
      Scan.ensure (c != '0')
      Scan.forward 1
      return some (c.toNat - 48)
    else return none
  | none => return none

def blockMarks : Scan (Chomping × Option Nat) := do
  match ← chompingMark with
  | some chomping => return (chomping, ← depthMark)
  | none =>
    let depth ← depthMark
    if depth.isNone then return (.clip, none)
    else return ((← chompingMark).getD .clip, depth)

def spacesUpTo (column : Nat) : Scan Unit := do
  let c ← get
  Scan.forward (min (column - c.column) (c.rest.takeWhile (· == ' ')).length)

/-- The empty lines of a block of a depth. -/
def blockLineEnds (column : Nat) : (fuel : Nat) → Scan (List Char)
  | 0 => Scan.refuse
  | fuel + 1 => do
    spacesUpTo column
    match ← Scan.lineBreak with
    | [] => return []
    | lineEnd => return lineEnd ++ (← blockLineEnds column fuel)

/-- The empty lines in front of a block, and the greatest column that spaces reach. -/
def leadingLineEnds : (fuel : Nat) → Scan (List Char × Nat)
  | 0 => Scan.refuse
  | fuel + 1 => do
    Scan.skipWhile (· == ' ')
    let column := (← get).column
    match ← Scan.lineBreak with
    | [] => return ([], column)
    | lineEnd =>
      let (more, deepest) ← leadingLineEnds fuel
      return (lineEnd ++ more, max column deepest)

def atBlockLine (column : Nat) : Scan Bool := do
  let c ← get
  return c.column == column && !c.rest.isEmpty

/--
The lines of a block behind some empty lines: their text, the line end behind the last, and the
empty lines behind that.
-/
def blockLines (fold : Bool) (column : Nat) :
    (fuel : Nat) → (empty : List Char) → Scan (List Char × List Char × List Char)
  | 0, _ => Scan.refuse
  | fuel + 1, empty => do
    if !(← atBlockLine column) then return ([], [], empty)
    let first ← Scan.peek 0
    let line ← Scan.takeWhile (!isBreak ·)
    let lineEnd ← Scan.lineBreak
    let more ← blockLineEnds column fuel
    if ← atBlockLine column then
      let next ← Scan.peek 0
      let folds := fold && lineEnd == ['\n'] && !first.any isSpace && !next.any isSpace
      let joint := if !folds then lineEnd else if more.isEmpty then [' '] else []
      let (text, final, behind) ← blockLines fold column fuel more
      return (empty ++ line ++ joint ++ text, final, behind)
    else return (empty ++ line, lineEnd, more)

/-- A scalar in a block, from its mark, below a line of some indentation. -/
def block (indent : Int) : Scan String := do
  let fold := (← Scan.peek 0) == some '>'
  Scan.forward 1
  let (chomping, depth) ← blockMarks
  Scan.ensure (isSpaceOrLineEnd (← Scan.peek 0))
  Scan.endLine
  let fuel := (← get).rest.length + 2
  let least := (max (indent + 1) 1).toNat
  let (column, empty) ←
    match depth with
    | some n => do
      let column := least + n - 1
      pure (column, ← blockLineEnds column fuel)
    | none => do
      let (empty, deepest) ← leadingLineEnds fuel
      pure (max least deepest, empty)
  let (text, final, behind) ← blockLines fold column fuel empty
  let tail :=
    match chomping with
    | .strip => []
    | .clip => final
    | .keep => final ++ behind
  return String.ofList (text ++ tail)

def endsInBrackets (c : Char) : Bool :=
  c == ',' || c == '?' || c == '[' || c == ']' || c == '\x7b' || c == '\x7d'

/-- Whether a colon in front of a place ends a plain scalar. -/
def endsKey (inBrackets : Bool) (next : Option Char) : Bool :=
  isGap next || inBrackets && next.any fun c => c != '?' && endsInBrackets c

/-- The front of a text that a plain scalar takes up without a blank. -/
def plainRun (inBrackets : Bool) : List Char → List Char
  | [] => []
  | c :: rest =>
    if isSpace c || isBreak c then []
    else if c == ':' && endsKey inBrackets rest.head? then []
    else if inBrackets && endsInBrackets c then []
    else c :: plainRun inBrackets rest

/-- The empty lines inside a plain scalar; nothing if a document begins or ends behind one. -/
def plainLines : (fuel : Nat) → Scan (Option (List Char))
  | 0 => Scan.refuse
  | fuel + 1 => do
    if ← Scan.atDocumentMark then return none
    Scan.skipWhile (· == ' ')
    match ← Scan.lineBreak with
    | [] => return some []
    | lineEnd => return (← plainLines fuel).map (lineEnd ++ ·)

/-- The gap behind a run of a plain scalar, and whether a line ends in it. -/
def plainGap (fuel : Nat) : Scan (List Char × Bool) := do
  let blanks ← Scan.takeWhile (· == ' ')
  match ← Scan.lineBreak with
  | [] => return (blanks, false)
  | lineEnd =>
    match ← plainLines fuel with
    | none => return ([], true)
    | some more => return (folded lineEnd more, true)

/-- The rest of a plain scalar behind a gap, and whether a line ended behind its last run. -/
def plainTail (inBrackets : Bool) (column : Int) :
    (fuel : Nat) → (gap : List Char) → (lineEnded : Bool) → Scan (List Char × Bool)
  | 0, _, _ => Scan.refuse
  | fuel + 1, gap, lineEnded => do
    let run := plainRun inBrackets (← get).rest
    if (← Scan.peek 0) == some '#' || run.isEmpty then return ([], lineEnded)
    Scan.forward run.length
    let (next, ended) ← plainGap fuel
    let c ← get
    if next.isEmpty || c.rest.head? == some '#' || (!inBrackets && c.column < column) then
      return (gap ++ run, ended)
    else
      let (text, ended) ← plainTail inBrackets column fuel next ended
      return (gap ++ run ++ text, ended)

/-- A plain scalar below a line of some indentation, and whether a line ended behind it. -/
def plain (inBrackets : Bool) (indent : Int) : Scan (String × Bool) := do
  let (text, ended) ← plainTail inBrackets (indent + 1) ((← get).rest.length + 2) [] false
  return (String.ofList text, ended)

end SchemaDrift.Document.Yaml
