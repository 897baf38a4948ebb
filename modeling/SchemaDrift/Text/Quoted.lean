import SchemaDrift.Text.PrintableTable
import SchemaDrift.Text.Case
/-!
# Quoted texts

How a text or a list of texts is shown inside a message: in single quotes, or in double quotes
if it holds a single quote and no double one; backslash, tab, line feed and carriage return by
name, other unprintable characters by number, everything else as it is.
-/

namespace SchemaDrift.Text

def isPrintable (c : Char) : Bool := !inRanges unprintableRanges c.toNat

/-- The number in lower-case hexadecimal digits, padded with zeros to `width`. -/
def hexPadded (width n : Nat) : List Char :=
  let digits := Nat.toDigits 16 n
  List.replicate (width - digits.length) '0' ++ digits

/-- A character shown by number. -/
def numberedChar (c : Char) : List Char :=
  if c.toNat < 0x100 then '\\' :: 'x' :: hexPadded 2 c.toNat
  else if c.toNat < 0x10000 then '\\' :: 'u' :: hexPadded 4 c.toNat
  else '\\' :: 'U' :: hexPadded 8 c.toNat

/-- One character of a quoted text, where `mark` is the quote around it. -/
def quotedChar (mark c : Char) : List Char :=
  if c = mark ∨ c = '\\' then ['\\', c]
  else if c = '\t' then ['\\', 't']
  else if c = '\n' then ['\\', 'n']
  else if c = '\r' then ['\\', 'r']
  else if isPrintable c then [c]
  else numberedChar c

def quoteMark (cs : List Char) : Char :=
  if cs.contains '\'' && !cs.contains '"' then '"' else '\''

def quoted (s : String) : String :=
  let mark := quoteMark s.toList
  String.ofList (mark :: s.toList.flatMap (quotedChar mark) ++ [mark])

def inAscii (s : String) : String :=
  String.ofList (s.toList.flatMap fun c => if c.toNat < 0x80 then [c] else numberedChar c)

def quotedList (xs : List String) : String := "[" ++ ", ".intercalate (xs.map quoted) ++ "]"

def quotedOctet (mark : Char) (octet : UInt8) : List Char :=
  let c := Char.ofNat octet.toNat
  if octet < 128 then quotedChar mark c else '\\' :: 'x' :: hexPadded 2 octet.toNat

def quotedBytes (octets : List UInt8) : String :=
  let mark := quoteMark (octets.map fun o => Char.ofNat o.toNat)
  String.ofList ('b' :: mark :: octets.flatMap (quotedOctet mark) ++ [mark])

end SchemaDrift.Text
