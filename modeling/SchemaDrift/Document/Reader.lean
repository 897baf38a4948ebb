/-!
# Readers

A reader takes something off the front of a text and leaves the rest, or refuses the text.
-/

namespace SchemaDrift.Document

/-- Takes something off the front of a text, or refuses it. -/
abbrev Reader := StateT (List Char) Option

namespace Reader

def peek? : Reader (Option Char) := return (← get).head?

/-- The characters at the front that are in a class. -/
def takeWhile (p : Char → Bool) : Reader (List Char) := do
  let cs ← get
  set (cs.dropWhile p)
  return cs.takeWhile p

def skipWhile (p : Char → Bool) : Reader Unit := modify (·.dropWhile p)

def skip (count : Nat) : Reader Unit := modify (·.drop count)

def begins (word : String) : Reader Bool := return word.toList.isPrefixOf (← get)

/-- Takes a word off the front, if it is there. -/
def accept (word : String) : Reader Bool := do
  if ← begins word then
    skip word.length
    return true
  else return false

/-- Takes a word off the front, which has to be there. -/
def expect (word : String) : Reader Unit := do
  if ← accept word then return () else failure

/-- Refuses the text unless something holds. -/
def ensure (holds : Bool) : Reader Unit := if holds then pure () else failure

/-- What a reader makes of a whole text. -/
def all? {α : Type} (r : Reader α) (cs : List Char) : Option α :=
  match r.run cs with
  | some (a, []) => some a
  | _ => none

end Reader

end SchemaDrift.Document
