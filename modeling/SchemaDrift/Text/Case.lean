import SchemaDrift.Text.CaseTable
/-!
# Letter case

Upper and lower case with the full Unicode mappings: one character may become several, and a
capital sigma at the end of a word has a lower-case form of its own. Within ASCII the mappings
are the ones of `Char`.
-/

namespace SchemaDrift.Text

def inRanges (ranges : List (Nat × Nat)) (n : Nat) : Bool :=
  ranges.any fun r => r.1 ≤ n && n ≤ r.2

/-- The image of a non-ASCII character under an expansion table and a run table. -/
def mapThrough (expansions : List (Nat × List Nat)) (runs : List CaseRun) (c : Char) : List Char :=
  match expansions.find? (·.1 == c.toNat) with
  | some (_, image) => image.map Char.ofNat
  | none =>
    match runs.find? (·.covers c.toNat) with
    | some run => [Char.ofNat (c.toNat + run.offset).toNat]
    | none => [c]

def upperChar (c : Char) : List Char :=
  if c.toNat < 128 then [c.toUpper] else mapThrough upperExpansions upperRuns c

/-- The lower-case form of a character outside any context. -/
def lowerChar (c : Char) : List Char :=
  if c.toNat < 128 then [c.toLower] else mapThrough lowerExpansions lowerRuns c

def upperChars (cs : List Char) : List Char := cs.flatMap upperChar

/-- Whether the context of a sigma looks through the character. -/
def isCaseIgnorable (c : Char) : Bool := inRanges caseIgnorableRanges c.toNat

def isCased (c : Char) : Bool := inRanges casedRanges c.toNat

/-- Whether the first character that counts for a sigma's context has case. -/
def meetsCased (cs : List Char) : Bool :=
  match cs.dropWhile isCaseIgnorable with
  | [] => false
  | c :: _ => isCased c

/--
Lower case of `cs` behind the reversed text `before`: a capital sigma that follows a letter and
precedes none takes its final form.
-/
def lowerFrom (before : List Char) : List Char → List Char
  | [] => []
  | c :: rest =>
    let image := if c = 'Σ' then [if meetsCased before && !meetsCased rest then 'ς' else 'σ']
      else lowerChar c
    image ++ lowerFrom (c :: before) rest

/-- Lower case of a whole text. -/
def lowerChars (cs : List Char) : List Char := lowerFrom [] cs

def upper (s : String) : String := String.ofList (upperChars s.toList)

def lower (s : String) : String := String.ofList (lowerChars s.toList)

@[simp] theorem upperChars_nil : upperChars [] = [] := rfl

@[simp] theorem upperChars_cons (c : Char) (cs : List Char) :
    upperChars (c :: cs) = upperChar c ++ upperChars cs := by
  simp [upperChars]

theorem upperChars_append (xs ys : List Char) :
    upperChars (xs ++ ys) = upperChars xs ++ upperChars ys := by
  simp [upperChars]

theorem toList_upper (s : String) : (upper s).toList = upperChars s.toList := by
  simp [upper]

theorem toList_lower (s : String) : (lower s).toList = lowerChars s.toList := by
  simp [lower]

theorem upper_append (s t : String) : upper (s ++ t) = upper s ++ upper t := by
  simp [upper, upperChars_append, String.ofList_append]

end SchemaDrift.Text
