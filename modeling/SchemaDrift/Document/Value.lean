import SchemaDrift.Decimal.Shortest
import SchemaDrift.Text.Quoted
/-!
# Document values

The values that configuration and model documents are made of. A value has a truth (nothing, zero
and what is empty count as false), a form in which messages show it, and a number if it is one;
two values agree if they are equal or the same number. A comparison is stricter than that in one
point: `nan` agrees with itself, being found where it was put, but is equal to nothing.
-/

namespace SchemaDrift.Document

/-- A value of a document. The keys of a map agree with no other key and keep their order. -/
inductive Value where
  | null
  | bool (b : Bool)
  | int (n : Int)
  /-- A number with a fraction or an exponent, or one that is no finite number. -/
  | real (x : Double)
  /-- A date, a time or both, as written. -/
  | moment (written : String)
  | text (s : String)
  | bytes (octets : List UInt8)
  | list (items : List Value)
  | map (entries : List (Value × Value))
  deriving Repr, Inhabited

namespace Value

instance : Coe String Value := ⟨text⟩

def isTruthy : Value → Bool
  | null => false
  | bool b => b
  | int n => n != 0
  | real x => x.isNonzero
  | moment _ => true
  | text s => s != ""
  | bytes octets => !octets.isEmpty
  | list items => !items.isEmpty
  | map entries => !entries.isEmpty

mutual

/-- The form in which a message shows a value. -/
def shown : Value → String
  | null => "None"
  | bool b => if b then "True" else "False"
  | int n => toString n
  | real x => x.shown
  | moment written => written
  | text s => Text.quoted s
  | bytes octets => Text.quotedBytes octets
  | list items => "[" ++ ", ".intercalate (shownAll items) ++ "]"
  | map entries => "\x7b" ++ ", ".intercalate (shownEntries entries) ++ "\x7d"

def shownAll : List Value → List String
  | [] => []
  | v :: rest => shown v :: shownAll rest

def shownEntries : List (Value × Value) → List String
  | [] => []
  | (k, v) :: rest => (shown k ++ ": " ++ shown v) :: shownEntries rest

end

/-- A value inside a message: a text as it is, any other value as it is shown. -/
def display : Value → String
  | text s => s
  | v => v.shown

def record (fields : List (String × Value)) : Value := map (fields.map fun f => (text f.1, f.2))

def orNull {α : Type} (f : α → Value) : Option α → Value
  | none => null
  | some a => f a

def texts (xs : List String) : Value := list (xs.map text)

def lookup? (key : String) : List (Value × Value) → Option Value
  | [] => none
  | (text k, v) :: rest => if k = key then some v else lookup? key rest
  | _ :: rest => lookup? key rest

def hasKey (key : String) (entries : List (Value × Value)) : Bool := (lookup? key entries).isSome

def asText? : Value → Option String
  | text s => some s
  | _ => none

/-- The integer of a whole number; a truth value counts as one or zero. -/
def asInt? : Value → Option Int
  | int n => some n
  | bool b => some (if b then 1 else 0)
  | _ => none

/-- The exact number of a value that is a finite one. -/
def asRat? : Value → Option Rat
  | real x => x.toRat?
  | v => v.asInt?.map fun n => (n : Rat)

/-- Where a value stands among the numbers; `none` where it is no number. -/
def position? : Value → Option Double.Position
  | real x => some x.position
  | v => v.asInt?.map fun n => .exactly n

/-- Whether a value is a number that is at most zero; `none` where it is no number. -/
def isAtMostZero? : Value → Option Bool
  | int n => some (n ≤ 0)
  | bool b => some !b
  | real x => some x.isAtMostZero
  | _ => none

/-- The sum of two numbers, or two texts or lists one behind the other. -/
def plus? : Value → Value → Option Value
  | text s, text t => some (text (s ++ t))
  | list vs, list ws => some (list (vs ++ ws))
  | v, w =>
    match v.asInt?, w.asInt? with
    | some n, some m => some (int (n + m))
    | _, _ => none

/-- The value itself if it counts as true. -/
def stated? (v : Value) : Option Value := if v.isTruthy then some v else none

/-- The value itself if it counts as true, and another one otherwise. -/
def statedOr (v other : Value) : Value := if v.isTruthy then v else other

theorem statedOr_ne_nan {v other : Value} (hv : v ≠ .real .nan) (hother : other ≠ .real .nan) :
    v.statedOr other ≠ .real .nan := by
  rw [statedOr]
  split
  · exact hv
  · exact hother

/-- A value with a text behind it: a text goes on, and a list takes the characters as items. -/
def followedBy? (v : Value) (s : String) : Option Value :=
  match v with
  | text t => some (text (t ++ s))
  | list items => some (list (items ++ s.toList.map fun c => text (String.singleton c)))
  | v => if s = "" then some v else none

/-- What a value is gone through by: the characters of a text, the keys of a map. -/
def items? : Value → Option (List Value)
  | text s => some (s.toList.map fun c => text (String.singleton c))
  | bytes octets => some (octets.map fun o => int o.toNat)
  | list items => some items
  | map entries => some (entries.map (·.1))
  | _ => none

mutual

def depth : Value → Nat
  | list items => depthOfItems items + 1
  | map entries => depthOfEntries entries + 1
  | _ => 0

def depthOfItems : List Value → Nat
  | [] => 0
  | v :: rest => max (depth v) (depthOfItems rest)

def depthOfEntries : List (Value × Value) → Nat
  | [] => 0
  | (k, v) :: rest => max (max (depth k) (depth v)) (depthOfEntries rest)

end

def isKey : Value → Bool
  | list _ | map _ => false
  | _ => true

mutual

def decEq : (v w : Value) → Decidable (v = w)
  | null, w => match w with
    | null => isTrue rfl
    | bool _ | int _ | real _ | moment _ | text _ | bytes _ | list _ | map _ => isFalse nofun
  | bool a, w => match w with
    | bool b => decidable_of_iff (a = b) (by simp)
    | null | int _ | real _ | moment _ | text _ | bytes _ | list _ | map _ => isFalse nofun
  | int a, w => match w with
    | int b => decidable_of_iff (a = b) (by simp)
    | null | bool _ | real _ | moment _ | text _ | bytes _ | list _ | map _ => isFalse nofun
  | real a, w => match w with
    | real b => decidable_of_iff (a = b) (by simp)
    | null | bool _ | int _ | moment _ | text _ | bytes _ | list _ | map _ => isFalse nofun
  | moment a, w => match w with
    | moment b => decidable_of_iff (a = b) (by simp)
    | null | bool _ | int _ | real _ | text _ | bytes _ | list _ | map _ => isFalse nofun
  | text a, w => match w with
    | text b => decidable_of_iff (a = b) (by simp)
    | null | bool _ | int _ | real _ | moment _ | bytes _ | list _ | map _ => isFalse nofun
  | bytes a, w => match w with
    | bytes b => decidable_of_iff (a = b) (by simp)
    | null | bool _ | int _ | real _ | moment _ | text _ | list _ | map _ => isFalse nofun
  | list a, w => match w with
    | list b =>
      match decEqItems a b with
      | isTrue h => isTrue (by rw [h])
      | isFalse h => isFalse fun e => h (by injection e)
    | null | bool _ | int _ | real _ | moment _ | text _ | bytes _ | map _ => isFalse nofun
  | map a, w => match w with
    | map b =>
      match decEqEntries a b with
      | isTrue h => isTrue (by rw [h])
      | isFalse h => isFalse fun e => h (by injection e)
    | null | bool _ | int _ | real _ | moment _ | text _ | bytes _ | list _ => isFalse nofun

def decEqItems : (vs ws : List Value) → Decidable (vs = ws)
  | [], [] => isTrue rfl
  | [], _ :: _ | _ :: _, [] => isFalse nofun
  | v :: vs, w :: ws =>
    match decEq v w, decEqItems vs ws with
    | isTrue h, isTrue hs => isTrue (by rw [h, hs])
    | isFalse h, _ => isFalse fun e => h (by injection e)
    | _, isFalse hs => isFalse fun e => hs (by injection e)

def decEqEntries : (vs ws : List (Value × Value)) → Decidable (vs = ws)
  | [], [] => isTrue rfl
  | [], _ :: _ | _ :: _, [] => isFalse nofun
  | (k, v) :: vs, (l, w) :: ws =>
    match decEq k l, decEq v w, decEqEntries vs ws with
    | isTrue h, isTrue h', isTrue hs => isTrue (by rw [h, h', hs])
    | isFalse h, _, _ => isFalse fun e => h (by injection e with e _; injection e)
    | _, isFalse h, _ => isFalse fun e => h (by injection e with e _; injection e)
    | _, _, isFalse hs => isFalse fun e => hs (by injection e)

end

instance : DecidableEq Value := decEq

mutual

/-- The form that a value shares with those it agrees with: numbers are whole if they can be. -/
def canonical : Value → Value
  | bool b => int (if b then 1 else 0)
  | real x =>
    match x.toRat? with
    | some r => if r.den = 1 then int r.num else real x
    | none => real x
  | list items => list (canonicalItems items)
  | map entries => map (canonicalEntries entries)
  | v => v

def canonicalItems : List Value → List Value
  | [] => []
  | v :: rest => canonical v :: canonicalItems rest

def canonicalEntries : List (Value × Value) → List (Value × Value)
  | [] => []
  | (k, v) :: rest => (canonical k, canonical v) :: canonicalEntries rest

end

/-- Whether two values are equal, where the same number may be written in two ways. -/
def agrees (v w : Value) : Bool := v.canonical == w.canonical

theorem agrees_self (v : Value) : v.agrees v = true := by simp [agrees]

theorem agrees_comm (v w : Value) : v.agrees w = w.agrees v := BEq.comm

/-- Whether a comparison finds two values equal. -/
def equals (v w : Value) : Bool := v != .real .nan && v.agrees w

theorem equals_self_iff {v : Value} : v.equals v = true ↔ v ≠ .real .nan := by
  rw [equals, agrees_self, Bool.and_true, bne_iff_ne]

theorem canonical_eq_nan {v : Value} : v.canonical = .real .nan ↔ v = .real .nan := by
  cases v with
  | real x =>
    cases number : x.toRat? with
    | none => simp [canonical, number]
    | some r =>
      have finite : x ≠ .nan := by
        rintro rfl
        cases number
      rw [canonical, number]
      by_cases whole : r.den = 1 <;> simp [whole, finite]
  | null | bool _ | int _ | moment _ | text _ | bytes _ | list _ | map _ => simp [canonical]

theorem equals_comm (v w : Value) : v.equals w = w.equals v := by
  have absent {v w : Value} (h : v.equals w = true) : w.equals v = true := by
    obtain ⟨present, agree⟩ := Bool.and_eq_true_iff.1 h
    have same : v.canonical = w.canonical := beq_iff_eq.1 agree
    rw [equals, agrees_comm, agree, Bool.and_true, bne_iff_ne]
    intro none
    exact bne_iff_ne.1 present (canonical_eq_nan.1 (same.trans (canonical_eq_nan.2 none)))
  exact Bool.eq_iff_iff.2 ⟨absent, absent⟩

mutual

/--
Whether a number, a text or a list comes before another one or is it; `none` for other values.
Lists are ordered by the first items that differ.
-/
def isAtMost? : Value → Value → Option Bool
  | text s, text t => some (decide (s ≤ t))
  | bytes s, bytes t => some (decide (s ≤ t))
  | list vs, list ws => itemsAtMost? vs ws
  | v, w =>
    match v.position?, w.position? with
    | some r, some q => some (r.isAtMost q)
    | _, _ => none

def itemsAtMost? : List Value → List Value → Option Bool
  | [], _ => some true
  | _ :: _, [] => some false
  | v :: vs, w :: ws => if v.agrees w then itemsAtMost? vs ws else isAtMost? v w

end

/-- The entries with one written; a key that is there keeps its place and its form. -/
def write (key v : Value) : List (Value × Value) → List (Value × Value)
  | [] => [(key, v)]
  | e :: rest => if e.1.agrees key then (e.1, v) :: rest else e :: write key v rest

/-- The entries of a map that is written entry by entry. -/
def collect (entries : List (Value × Value)) : List (Value × Value) :=
  entries.foldl (fun m e => write e.1 e.2 m) []

end Value

end SchemaDrift.Document
