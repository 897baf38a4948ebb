import SchemaDrift.Fault

/-!
# Entries

The entries that a value amounts to where a map is asked for. A list of pairs is as good as a
map; each pair has to be of two items, of which the first can be a key. Beside it, what a value is
where items, one of them, or a text are asked for.
-/

namespace SchemaDrift.Document

abbrev Entries := List (Value × Value)

/-- What entries hold under a key that has to be there. -/
def heldUnder (entries : Entries) (key : String) : Except Fault Value :=
  match Value.lookup? key entries with
  | some v => .ok v
  | none => .error (.absentKey key)

/-- Pairs as entries; `position` counts the pairs in front. -/
def entriesOfPairs (position : Nat) : List Value → Except Fault Entries
  | [] => .ok []
  | v :: rest =>
    match v.items? with
    | none => .error .wrongShape
    | some [key, held] =>
      if key.isKey then (entriesOfPairs (position + 1) rest).map ((key, held) :: ·)
      else .error .wrongShape
    | some items => .error (.notAPair position items.length)

/-- The entries that a value amounts to; of two with one key the later counts. -/
def entriesOf (v : Value) : Except Fault Entries :=
  match v, v.items? with
  | .map entries, _ => .ok entries
  | _, some items => (entriesOfPairs 0 items).map Value.collect
  | _, none => .error .wrongShape

/-- What a value is gone through by; there has to be something to go through. -/
def itemsOf (v : Value) : Except Fault (List Value) :=
  match v.items? with
  | some items => .ok items
  | none => .error .wrongShape

/-- The item at a position, counted from the end where it is negative. -/
def itemAt {α : Type} (items : List α) (position : Int) : Except Fault α :=
  let fromFront := if position < 0 then items.length + position else position
  match if fromFront < 0 then none else items[fromFront.toNat]? with
  | some item => .ok item
  | none => .error .noSuchPosition

/-- A text that has to offer what texts do. -/
def textOf : Value → Except Fault String
  | .text s => .ok s
  | _ => .error .unsupported

end SchemaDrift.Document
