import SchemaDrift.Identifier

/-!
# Searching for words

Whether a word stands in a text on its own: no letter, digit or underscore of ASCII touches it.
Letters are compared without regard to case, character by character.
-/

namespace SchemaDrift.Text

/-- Lower-case letters that count as one letter, because they share an upper-case form. -/
def letterFamilies : List (List Char) := [
  ['i', 'ı'], ['s', 'ſ'], ['µ', 'μ'], ['\u0345', 'ι', '\u1FBE'], ['ΐ', '\u1FD3'], ['ΰ', '\u1FE3'],
  ['β', 'ϐ'], ['ε', 'ϵ'], ['θ', 'ϑ'], ['κ', 'ϰ'], ['π', 'ϖ'], ['ρ', 'ϱ'], ['ς', 'σ'], ['φ', 'ϕ'],
  ['в', '\u1C80'], ['д', '\u1C81'], ['о', '\u1C82'], ['с', '\u1C83'], ['т', '\u1C84', '\u1C85'],
  ['ъ', '\u1C86'], ['ѣ', '\u1C87'], ['\u1C88', '\uA64B'], ['\u1E61', '\u1E9B'],
  ['\uFB05', '\uFB06']]

/-- The character that stands for all that differ from `c` in case only. -/
def folded (c : Char) : Char :=
  let small := (lowerChar c).headD c
  match letterFamilies.find? (·.contains small) with
  | some family => family.headD small
  | none => small

/-- What follows `word` at the front of a text, if the text begins with it in any case. -/
def afterWord : List Char → List Char → Option (List Char)
  | [], text => some text
  | _ :: _, [] => none
  | w :: ws, c :: cs => if folded w = folded c then afterWord ws cs else none

/-- Whether the character is part of words: of ASCII, or a letter of ASCII but for its case. -/
def isWordLetter (c : Char) : Bool := isWordChar (folded c)

/-- Whether a text begins without touching a word before it. -/
def atBoundary : List Char → Bool
  | [] => true
  | c :: _ => !isWordLetter c

/-- Whether a word stands on its own at the front of a text. -/
def beginsWithWord (word text : List Char) : Bool :=
  match afterWord word text with
  | some rest => atBoundary rest
  | none => false

/-- Whether a word stands on its own somewhere in a text; `free` says that it may at the front. -/
def holdsWordFrom (word : List Char) (free : Bool) : List Char → Bool
  | [] => free && beginsWithWord word []
  | c :: cs =>
    free && beginsWithWord word (c :: cs) || holdsWordFrom word (!isWordLetter c) cs

/-- Whether a word stands on its own somewhere in a text. -/
def holdsWord (word text : String) : Bool := holdsWordFrom word.toList true text.toList

/-- What stands in front of the first place of a needle in a text, and what stands behind it. -/
def cutAt (needle : List Char) : List Char → Option (List Char × List Char)
  | [] => if needle.isEmpty then some ([], []) else none
  | c :: cs =>
    if needle.isPrefixOf (c :: cs) then some ([], (c :: cs).drop needle.length)
    else (cutAt needle cs).map fun r => (c :: r.1, r.2)

end SchemaDrift.Text
