import SchemaDrift.Text.Digits

/-!
# Bytes in base 64

Bytes are written six bits to a character, four characters for three bytes, with equals signs in
place of what is missing at the end. Characters without a meaning are passed over; a text that
leaves a byte unfinished writes none.
-/

namespace SchemaDrift.Document.Base64

/-- The six bits that a character stands for. -/
def sixBits? (c : Char) : Option Nat :=
  if c.isUpper then some (c.toNat - 65)
  else if c.isLower then some (c.toNat - 71)
  else if c.isDigit then some (c.toNat + 4)
  else if c = '+' then some 62
  else if c = '/' then some 63
  else none

/-- A byte from the end of one group of six bits and the beginning of the next. -/
def join (left right shift : Nat) : UInt8 :=
  (left * Nat.pow 2 (6 - shift) + right / Nat.pow 2 shift).toUInt8

/--
The bytes that are left. `held` is the number of groups since the last whole byte triple, `last`
the group before, and `marks` the number of equals signs that have been met since.
-/
def decodeFrom (held last marks : Nat) : List Char → Option (List UInt8)
  | [] => if held = 0 then some [] else none
  | c :: rest =>
    if c = '=' then
      if 2 ≤ held && 4 ≤ held + marks + 1 then some []
      else decodeFrom held last (if 2 ≤ held then marks + 1 else marks) rest
    else
      match sixBits? c with
      | none => decodeFrom held last marks rest
      | some bits =>
        match held with
        | 0 => decodeFrom 1 bits 0 rest
        | 1 => (decodeFrom 2 (bits % 16) 0 rest).map (join last bits 4 :: ·)
        | 2 => (decodeFrom 3 (bits % 4) 0 rest).map (join last bits 2 :: ·)
        | _ => (decodeFrom 0 0 0 rest).map (join last bits 0 :: ·)

def decode? (cs : List Char) : Option (List UInt8) := decodeFrom 0 0 0 cs

end SchemaDrift.Document.Base64
