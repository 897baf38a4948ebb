import SchemaDrift.Document.Toml.Scalar
import SchemaDrift.Fault

/-!
# TOML

A TOML document is a table. Its statements name a table or assign a value to a key below the
table named last. A table can be named once, a value assigned once, and what was written between
braces or brackets is closed for good; `Draft` keeps track of that.
-/

namespace SchemaDrift.Document.Toml

abbrev Table := List (Value × Value)

abbrev Path := List String

/-- Takes something off the front of a text, or says what is wrong with it. -/
abbrev Parse := StateT (List Char) (Except Fault)

/-- What has to be there. -/
def required {α : Type} : Option α → Except Fault α
  | some a => .ok a
  | none => .error .tomlSyntax

instance : MonadLift Reader Parse := ⟨fun r cs => required (r cs)⟩

/-- The entries with the value under a key put in place of the one that is there. -/
def replace (key : String) (v : Value) : Table → Table
  | [] => []
  | (.text k, old) :: rest =>
    if k = key then (.text k, v) :: rest else (.text k, old) :: replace key v rest
  | other :: rest => other :: replace key v rest

/--
Changes the table at the end of a path. Tables on the way are made where there are none; a list
on the way stands for its last item, if `throughLists` allows it.
-/
def alter (throughLists : Bool) (f : Table → Option Table) : Path → Table → Option Table
  | [], t => f t
  | k :: path, t =>
    match Value.lookup? k t with
    | none => (alter throughLists f path []).map fun inner => t ++ [(.text k, .map inner)]
    | some (.map inner) =>
      (alter throughLists f path inner).map fun inner => replace k (.map inner) t
    | some (.list items) =>
      match throughLists, items.getLast? with
      | true, some (.map inner) =>
        (alter throughLists f path inner).map fun inner =>
          replace k (.list (items.dropLast ++ [.map inner])) t
      | _, _ => none
    | some _ => none

def addEntry (key : String) (v : Value) (t : Table) : Option Table :=
  if Value.hasKey key t then none else some (t ++ [(.text key, v)])

/-- Adds a table to the list under a key, which is made where there is none. -/
def addItem (key : String) (t : Table) : Option Table :=
  match Value.lookup? key t with
  | none => some (t ++ [(.text key, .list [.map []])])
  | some (.list items) => some (replace key (.list (items ++ [.map []])) t)
  | some _ => none

def isContainer : Value → Bool
  | .list _ | .map _ => true
  | _ => false

/-- Whether a path leads into one of the closed places or to it. -/
def isClosed (closed : List Path) (path : Path) : Bool := closed.any (·.isPrefixOf path)

def comment : Reader Unit := do
  if ← Reader.accept "#" then
    let cs ← Reader.takeWhile (· != '\n')
    Reader.ensure (!cs.any (isForbidden false))

def gap : (fuel : Nat) → Reader Unit
  | 0 => pure ()
  | fuel + 1 => do
    Reader.skipWhile isSpaceOrLine
    if ← Reader.begins "#" then
      comment
      gap fuel

/-- Drops all blanks, line ends and comments at the front. -/
def gaps : Reader Unit := do gap ((← get).length + 1)

/-- How much room there is for lists and tables inside each other. -/
def roomForNesting : Nat := 987

def roomOfList : Nat := 2

def roomOfTable : Nat := 3

def roomInside (taken room : Nat) : Parse Nat :=
  if taken ≤ room then return room - taken else throw .tooDeep

mutual

/-- A value with room for others inside; `fuel` bounds how long it is. -/
def value : (room fuel : Nat) → Parse Value
  | _, 0 => throw .tomlSyntax
  | room, fuel + 1 => do
    match ← Reader.peek? with
    | some '"' => return .text (← string "\"")
    | some '\'' => return .text (← string "'")
    | some '[' =>
      let room ← roomInside roomOfList room
      Reader.skip 1
      gaps
      return .list (← items room fuel)
    | some '\x7b' =>
      let room ← roomInside roomOfTable room
      Reader.skip 1
      Reader.skipWhile isSpace
      if ← Reader.accept "\x7d" then return .map []
      else return .map (← inlineEntries room fuel [] [])
    | _ => (← plain : Except Fault Value)

/-- The items of a list that are left, up to its closing bracket. -/
def items : (room fuel : Nat) → Parse (List Value)
  | _, 0 => throw .tomlSyntax
  | room, fuel + 1 => do
    if ← Reader.accept "]" then return []
    let v ← value room fuel
    gaps
    if ← Reader.accept "," then
      gaps
      return v :: (← items room fuel)
    else
      Reader.expect "]"
      return [v]

/-- The entries of a table in braces, up to its closing brace. -/
def inlineEntries : (room fuel : Nat) → List Path → Table → Parse Table
  | _, 0, _, _ => throw .tomlSyntax
  | room, fuel + 1, closed, t => do
    let path ← key
    Reader.expect "="
    Reader.skipWhile isSpace
    let v ← value room fuel
    Reader.ensure (!isClosed closed path)
    let next ← required (alter false (addEntry (path.getLastD "") v) path.dropLast t)
    Reader.skipWhile isSpace
    if ← Reader.accept "," then
      Reader.skipWhile isSpace
      inlineEntries room fuel (if isContainer v then path :: closed else closed) next
    else
      Reader.expect "\x7d"
      return next

end

/-- A document under construction. -/
structure Draft where
  table : Table := []
  /-- The way to the table named last. -/
  header : Path := []
  /-- The places that were written between braces or brackets. -/
  closed : List Path := []
  /-- The tables that cannot be named any more. -/
  named : List Path := []
  /-- The tables that keys led through since the last header; they cannot be named after it. -/
  passed : List Path := []

namespace Draft

def enter (d : Draft) (path : Path) : Option Draft := do
  let named := d.passed ++ d.named
  if named.contains path || isClosed d.closed path then none
  else
    let table ← alter true some path d.table
    return { d with table, header := path, named := path :: named, passed := [] }

/-- Names a new table of a list of tables; what was named below the one before is free again. -/
def enterItem (d : Draft) (path : Path) : Option Draft := do
  if isClosed d.closed path then none
  else
    let table ← alter true (addItem (path.getLastD "")) path.dropLast d.table
    let kept := (d.passed ++ d.named).filter fun p => !path.isPrefixOf p
    return {
      table, header := path, named := path :: kept, passed := []
      closed := d.closed.filter fun p => !path.isPrefixOf p }

/-- The tables between the header and the end of a key. -/
def between (d : Draft) (path : Path) : List Path :=
  (List.range (path.length - 1)).map fun i => d.header ++ path.take (i + 1)

def assign (d : Draft) (path : Path) (v : Value) : Option Draft := do
  let above := d.header ++ path.dropLast
  if (d.between path).any d.named.contains || isClosed d.closed above then none
  else
    let table ← alter true (addEntry (path.getLastD "") v) above d.table
    return { d with
      table
      passed := d.between path ++ d.passed
      closed := if isContainer v then (d.header ++ path) :: d.closed else d.closed }

end Draft

/-- A header: a table in brackets, or a new one of a list in doubled brackets. -/
def header (d : Draft) : Parse Draft := do
  let isItem ← Reader.accept "[["
  if !isItem then Reader.expect "["
  Reader.skipWhile isSpace
  let path ← key
  let next ← required (if isItem then d.enterItem path else d.enter path)
  Reader.expect (if isItem then "]]" else "]")
  return next

def assignment (d : Draft) : Parse Draft := do
  let path ← key
  Reader.expect "="
  Reader.skipWhile isSpace
  let v ← value roomForNesting (2 * (← get).length + 2)
  required (d.assign path v)

/-- A line: nothing, a comment, a header or an assignment. -/
def statement (d : Draft) : Parse Draft := do
  Reader.skipWhile isSpace
  let next ←
    match ← Reader.peek? with
    | none | some '\n' | some '#' => pure d
    | some '[' => header d
    | some _ => assignment d
  Reader.skipWhile isSpace
  comment
  return next

/-- The lines of a document; `fuel` bounds their number. -/
def statements : (fuel : Nat) → Draft → Parse Draft
  | 0, _ => throw .tomlSyntax
  | fuel + 1, d => do
    let next ← statement d
    if ← Reader.accept "\n" then statements fuel next
    else
      Reader.ensure (← get).isEmpty
      return next

/-- The text with pairs of carriage return and line feed made one line feed. -/
def joinLineEnds : List Char → List Char
  | [] => []
  | '\r' :: '\n' :: rest => '\n' :: joinLineEnds rest
  | c :: rest => c :: joinLineEnds rest

def read (text : String) : Except Fault Table := do
  let cs := joinLineEnds text.toList
  let (d, _) ← (statements (cs.length + 1) {}).run cs
  return d.table

end SchemaDrift.Document.Toml
