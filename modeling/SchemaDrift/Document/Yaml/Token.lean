import SchemaDrift.Document.Numeral
import SchemaDrift.Document.Yaml.Scalar

/-!
# Tokens of YAML

A YAML text as a list of tokens. Indentation becomes tokens that begin and end collections. A key
without a mark of its own is recognised by the colon behind it; until then it is pending, and the
token that marks it is put in front of it afterwards. A token that is malformed in itself refuses
the text; one that stands for nothing, such as the number of no character, ends the list, so that
a reader who stops before it does not notice.
-/

namespace SchemaDrift.Document.Yaml

/-- What a YAML text is made of. -/
inductive Token where
  | version (major : Nat)
  | tagHandle (handle pre : String)
  | otherDirective
  | beginDocument
  | endDocument
  /-- The beginning of a list or a map that is written by indentation. -/
  | beginList
  | beginMap
  /-- The end of either. -/
  | endBlock
  | openList
  | closeList
  | openMap
  | closeMap
  | comma
  | dash
  | keyMark
  | valueMark
  | alias (name : String)
  | anchor (name : String)
  /-- A tag: a suffix, behind a handle if there is one. -/
  | tag (handle : Option String) (suffix : String)
  | scalar (isPlain : Bool) (text : String)
  /-- What stands here can be cut off, but means nothing. -/
  | senseless (fault : Fault)
  deriving Repr, DecidableEq

/-- Something that may turn out to be a key. -/
structure PendingKey where
  /-- The number of brackets and braces around it. -/
  depth : Nat
  /-- The number of tokens in front of it. -/
  position : Nat
  /-- Whether it has to turn out to be one, because a map goes on at its column. -/
  required : Bool
  index : Nat
  line : Nat
  column : Nat

/-- How far the colon may be from the beginning of its key. -/
def keyReach : Nat := 1024

/-- The state of cutting a text into tokens. -/
structure Lexer where
  cursor : Cursor
  depth : Nat := 0
  /-- The column of the collection around this place. -/
  indent : Int := -1
  /-- The columns of the collections around that one. -/
  outer : List Int := []
  keyAllowed : Bool := true
  pending : List PendingKey := []
  tokens : Array Token := #[]

/-- Cuts tokens off a text, unless the text is at fault. -/
abbrev Lex := StateT Lexer (Except Fault)

namespace Lex

def refuse {α : Type} : Lex α := throw .yamlSyntax

def scan {α : Type} (s : Scan α) : Lex α := do
  let l ← get
  let (a, cursor) ← s.run l.cursor
  set { l with cursor }
  return a

def emit (t : Token) : Lex Unit := modify fun l => { l with tokens := l.tokens.push t }

def allowKey (allowed : Bool) : Lex Unit := modify fun l => { l with keyAllowed := allowed }

/-- Ends the collections that begin right of a column. -/
def unwindFrom (column : Int) : List Int → Lexer → Lexer
  | [], l => l
  | indent :: outer, l =>
    if column < l.indent then
      unwindFrom column outer { l with indent, outer, tokens := l.tokens.push .endBlock }
    else l

/-- Ends the collections that begin right of a column; brackets have none. -/
def unwind (column : Int) : Lex Unit :=
  modify fun l => if l.depth = 0 then unwindFrom column l.outer l else l

/-- Makes a column that of the collection around this place, if it is further right. -/
def indentTo (column : Nat) : Lex Bool := do
  let l ← get
  if l.indent < column then
    set { l with indent := column, outer := l.indent :: l.outer }
    return true
  else return false

/-- Gives up the pending keys that some test picks. None of them may be required. -/
def dropPending (p : Lexer → PendingKey → Bool) : Lex Unit := do
  let l ← get
  if l.pending.any fun k => p l k && k.required then refuse
  set { l with pending := l.pending.filter fun k => !p l k }

/-- Whether the colon of a key can no longer come: it has to be near and on the same line. -/
def isStale (l : Lexer) (k : PendingKey) : Bool :=
  k.line != l.cursor.line || keyReach < l.cursor.index - k.index

/-- Gives up the keys whose colon can no longer come. -/
def dropStale : Lex Unit := dropPending isStale

/-- Gives up the key that is pending between the brackets around this place. -/
def dropKey : Lex Unit := dropPending fun l k => k.depth == l.depth

def rememberKey : Lex Unit := do
  if (← get).keyAllowed then
    dropKey
    modify fun l => { l with
      pending := {
        depth := l.depth, position := l.tokens.size
        required := l.depth = 0 && l.indent == l.cursor.column
        index := l.cursor.index, line := l.cursor.line, column := l.cursor.column } :: l.pending }

/-- Moves to the next token, over blanks, comments and ends of lines. -/
def skipToToken : (fuel : Nat) → Lex Unit
  | 0 => refuse
  | fuel + 1 => do
    scan (Scan.skipWhile (· == ' '))
    scan Scan.comment
    match ← scan Scan.lineBreak with
    | [] => return ()
    | _ =>
      if (← get).depth = 0 then allowKey true
      skipToToken fuel

def versionNumber : Scan Nat := do
  let digits ← Scan.takeWhile Char.isDigit
  Scan.ensure (!digits.isEmpty)
  Numeral.ofDigits digits

/-- The escapes of a tag: bytes in hexadecimal digits behind percent signs. -/
def tagBytes : List Char → Option (List UInt8 × List Char)
  | '%' :: a :: b :: rest =>
    if Text.isHexDigit a && Text.isHexDigit b then
      (tagBytes rest).map fun r => ((Text.valueOf 16 [a, b]).toUInt8 :: r.1, r.2)
    else none
  | '%' :: _ => none
  | rest => some ([], rest)

def isTagChar (c : Char) : Bool := c.isAlphanum || "-;/?:@&=+$,_.!~*'()[]".toList.contains c

def tagSuffix : (fuel : Nat) → Scan (List Char)
  | 0 => Scan.refuse
  | fuel + 1 => do
    let run ← Scan.takeWhile isTagChar
    if (← Scan.peek 0) == some '%' then
      let c ← get
      let (bytes, rest) ← Scan.ofOption (tagBytes c.rest)
      let text ← Scan.ofOption (String.fromUTF8? ⟨bytes.toArray⟩)
      Scan.forward (c.rest.length - rest.length)
      return run ++ text.toList ++ (← tagSuffix fuel)
    else return run

/-- A tag without its handle, which may not be empty. -/
def tagText : Scan String := do
  let cs ← tagSuffix ((← get).rest.length + 1)
  Scan.ensure (!cs.isEmpty)
  return String.ofList cs

/-- A handle of tags: a word between exclamation marks, or one such mark. -/
def handle : Scan String := do
  Scan.ensure ((← Scan.peek 0) == some '!')
  Scan.forward 1
  let name ← Scan.takeWhile fun c => c.isAlphanum || c == '-' || c == '_'
  if name.isEmpty && (← Scan.peek 0) == some ' ' then return "!"
  else
    Scan.ensure ((← Scan.peek 0) == some '!')
    Scan.forward 1
    return "!" ++ String.ofList name ++ "!"

/-- A directive, with the line it stands on. -/
def directive : Scan Token := do
  Scan.forward 1
  let name ← Scan.word
  Scan.ensure (isSpaceOrLineEnd (← Scan.peek 0))
  let token ←
    match name with
    | "YAML" => do
      Scan.skipWhile (· == ' ')
      let major ← versionNumber
      Scan.ensure ((← Scan.peek 0) == some '.')
      Scan.forward 1
      let _ ← versionNumber
      Scan.ensure (isSpaceOrLineEnd (← Scan.peek 0))
      pure (Token.version major)
    | "TAG" => do
      Scan.skipWhile (· == ' ')
      let name ← handle
      Scan.ensure ((← Scan.peek 0) == some ' ')
      Scan.skipWhile (· == ' ')
      let pre ← tagText
      Scan.ensure (isSpaceOrLineEnd (← Scan.peek 0))
      pure (Token.tagHandle name pre)
    | _ => do
      Scan.skipWhile (!isBreak ·)
      pure Token.otherDirective
  Scan.endLine
  return token

/-- The name behind the mark of an anchor or an alias. -/
def anchorName : Scan String := do
  Scan.forward 1
  let name ← Scan.word
  let next ← Scan.peek 0
  Scan.ensure (isGap next || next.any fun c => "?:,]\x7d%@`".toList.contains c)
  return name

/-- Whether a tag has a handle with a second exclamation mark. -/
def hasHandle (cs : List Char) : Bool :=
  (cs.takeWhile fun c => c != ' ' && !isBreak c).contains '!'

def tagToken : Scan Token := do
  let cs := (← get).rest.drop 1
  let token ←
    match cs.head? with
    | some '<' => do
      Scan.forward 2
      let suffix ← tagText
      Scan.ensure ((← Scan.peek 0) == some '>')
      Scan.forward 1
      pure (Token.tag none suffix)
    | next =>
      if isGap next then do
        Scan.forward 1
        pure (Token.tag none "!")
      else if hasHandle cs then do
        let name ← handle
        pure (Token.tag (some name) (← tagText))
      else do
        Scan.forward 1
        pure (Token.tag (some "!") (← tagText))
  Scan.ensure (isSpaceOrLineEnd (← Scan.peek 0))
  return token

/-- A mark that a document begins or ends with, or a directive. -/
def documentToken (s : Scan Token) : Lex Unit := do
  unwind (-1)
  dropKey
  allowKey false
  emit (← scan s)

def mark (t : Token) : Lex Unit := do
  scan (Scan.forward 1)
  emit t

def opening (t : Token) : Lex Unit := do
  rememberKey
  modify fun l => { l with depth := l.depth + 1, keyAllowed := true }
  mark t

def closing (t : Token) : Lex Unit := do
  dropKey
  let l ← get
  if l.depth = 0 then refuse
  set { l with depth := l.depth - 1, keyAllowed := false }
  mark t

/-- Begins a collection at this column, unless there is one. -/
def beginHere (t : Token) : Lex Unit := do
  let l ← get
  if l.depth = 0 then
    if !l.keyAllowed then refuse
    if ← indentTo l.cursor.column then emit t

def dash : Lex Unit := do
  beginHere .beginList
  allowKey true
  dropKey
  mark .dash

def keyMark : Lex Unit := do
  beginHere .beginMap
  allowKey ((← get).depth = 0)
  dropKey
  mark .keyMark

/-- The mark of a value: it turns what is pending into a key. -/
def valueMark : Lex Unit := do
  let l ← get
  match l.pending.find? (·.depth == l.depth) with
  | some k =>
    set { l with
      pending := l.pending.filter (·.depth != l.depth)
      tokens := l.tokens.insertIdxIfInBounds k.position .keyMark
      keyAllowed := false }
    if l.depth = 0 then
      if ← indentTo k.column then
        modify fun l => { l with tokens := l.tokens.insertIdxIfInBounds k.position .beginMap }
  | none =>
    beginHere .beginMap
    allowKey (l.depth = 0)
    dropKey
  mark .valueMark

/-- Something that may be a key. -/
def keyLike (s : Scan Token) : Lex Unit := do
  rememberKey
  allowKey false
  emit (← scan s)

def blockToken : Lex Unit := do
  allowKey true
  dropKey
  let indent := (← get).indent
  emit (.scalar false (← scan (block indent)))

def plainToken : Lex Unit := do
  rememberKey
  let l ← get
  let (text, lineEnded) ← scan (plain (l.depth != 0) l.indent)
  allowKey lineEnded
  emit (.scalar true text)

def beginsPlain (inBrackets : Bool) (c : Char) (next : Option Char) : Bool :=
  (!isSpace c && !isBreak c && !"-?:,[]\x7b\x7d#&*!|>'\"%@`".toList.contains c) ||
    (!isGap next && (c == '-' || (!inBrackets && (c == '?' || c == ':'))))

/-- The token that begins with a character, behind which another one stands. -/
def tokenAt (c : Char) (next : Option Char) : Lex Unit := do
  let l ← get
  let inBrackets := l.depth != 0
  let lineStart := l.cursor.column = 0
  let separates (m : Char) : Bool :=
    lineStart && [m, m, m].isPrefixOf l.cursor.rest && isGap l.cursor.rest[3]?
  if c == '%' && lineStart then documentToken directive
  else if separates '-' then
    documentToken do Scan.forward 3; return .beginDocument
  else if separates '.' then
    documentToken do Scan.forward 3; return .endDocument
  else if c == '[' then opening .openList
  else if c == '\x7b' then opening .openMap
  else if c == ']' then closing .closeList
  else if c == '\x7d' then closing .closeMap
  else if c == ',' then
    allowKey true
    dropKey
    mark .comma
  else if c == '-' && isGap next then dash
  else if c == '?' && (inBrackets || isGap next) then keyMark
  else if c == ':' && (inBrackets || isGap next) then valueMark
  else if c == '*' then keyLike do return .alias (← anchorName)
  else if c == '&' then keyLike do return .anchor (← anchorName)
  else if c == '!' then keyLike tagToken
  else if (c == '|' || c == '>') && !inBrackets then blockToken
  else if c == '\'' then keyLike do return .scalar false (← quoted false)
  else if c == '"' then keyLike do return .scalar false (← quoted true)
  else if beginsPlain inBrackets c next then plainToken
  else refuse

/-- Cuts off the next token; whether there was one. -/
def nextToken (fuel : Nat) : Lex Bool := do
  skipToToken fuel
  dropStale
  unwind (← get).cursor.column
  match (← get).cursor.rest with
  | [] =>
    unwind (-1)
    dropKey
    return false
  | c :: rest =>
    tokenAt c rest.head?
    return true

/-- The token that a reader waits for: one that may be a key is not yet handed on. -/
def awaited (l : Lexer) : Nat :=
  ((l.pending.filter fun k => !isStale l k).map (·.position)).foldl min l.tokens.size

/-- Cuts off the next token, or ends the list with one that means nothing. -/
def nextTokenOrEnd (fuel : Nat) : Lex Bool := fun l =>
  match (nextToken fuel).run l with
  | .error f => .ok (false, { l with tokens := (l.tokens.take (awaited l)).push (.senseless f) })
  | .ok r => .ok r

/-- The tokens that are left; `fuel` bounds their number. -/
def tokens : (fuel : Nat) → Lex Unit
  | 0 => refuse
  | fuel + 1 => do if ← nextTokenOrEnd (fuel + 1) then tokens fuel

end Lex

/-- A text without the mark of byte order in front of it, and with one sort of line ends. -/
def normalized : List Char → List Char
  | [] => []
  | '\r' :: '\n' :: rest => '\n' :: normalized rest
  | '\r' :: rest => '\n' :: normalized rest
  | c :: rest => c :: normalized rest

/-- How many characters of a text are looked through before anything is read. -/
def firstLook : Nat := 8192

/-- How many more characters are looked through at a time. -/
def furtherLook : Nat := 4096

/-- What can be read before a look finds a character that is not allowed, if one does. -/
def readableFront (cs : List Char) : Option (List Char) :=
  (cs.findIdx? (!isAllowed ·)).map fun i =>
    cs.take (if i < firstLook then 0 else i / furtherLook * furtherLook)

def Token.ofChars (cs : List Char) : Except Fault (List Token) :=
  let start : Cursor := ⟨cs, 0, 0, 0⟩
  let start := if cs.head? == some byteOrderMark then start.step else start
  ((Lex.tokens (2 * cs.length + 4)).run { cursor := start }).map (·.2.tokens.toList)

/-- The tokens of a text. A character that is not allowed means nothing once it is found. -/
def Token.ofText (text : String) : Except Fault (List Token) := do
  let cs := normalized text.toList
  match readableFront cs with
  | none => Token.ofChars cs
  | some front => return (← Token.ofChars front) ++ [.senseless .yamlSyntax]

end SchemaDrift.Document.Yaml
