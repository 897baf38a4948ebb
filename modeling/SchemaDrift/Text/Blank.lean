/-!
# Blanks

The white space of Unicode together with the four ASCII separators U+001C to U+001F, and the
removal of blanks at the ends of a text. A zero-width space is no blank.
-/

namespace SchemaDrift.Text

def blankRanges : List (Nat × Nat) := [
  (0x09, 0x0D), (0x1C, 0x20), (0x85, 0x85), (0xA0, 0xA0), (0x1680, 0x1680), (0x2000, 0x200A),
  (0x2028, 0x2029), (0x202F, 0x202F), (0x205F, 0x205F), (0x3000, 0x3000)]

def isBlank (c : Char) : Bool := blankRanges.any fun r => r.1 ≤ c.toNat && c.toNat ≤ r.2

def dropTrailing (p : Char → Bool) (cs : List Char) : List Char :=
  (cs.reverse.dropWhile p).reverse

def strip (s : String) : String :=
  String.ofList (dropTrailing isBlank (s.toList.dropWhile isBlank))

def stripRight (s : String) : String := String.ofList (dropTrailing isBlank s.toList)

def stripLineFeeds (s : String) : String := String.ofList (dropTrailing (· == '\n') s.toList)

end SchemaDrift.Text
