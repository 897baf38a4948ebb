import SchemaDrift.Fault

/-!
# Identifiers and literals

A quoter turns a name into the form in which statements write it: in upper case, and inside the
quotes of its dialect if the name is reserved or no plain word. A name that is quoted already
stays as it is. Inside quotes a closing quote is written twice, as is an apostrophe inside a
text literal. `Quoter.identify` asks of a value whether it can be a name at all.
-/

namespace SchemaDrift

open Document (Value)

namespace Text

/--
Writes every occurrence of `mark` twice, from left to right. The first `pending` characters
belong to an occurrence that has been met and are only copied.
-/
def doubled (mark : List Char) : (pending : Nat) → List Char → List Char
  | _, [] => []
  | 0, c :: rest =>
    if mark.isPrefixOf (c :: rest) then mark ++ c :: doubled mark (mark.length - 1) rest
    else c :: doubled mark 0 rest
  | n + 1, c :: rest => c :: doubled mark n rest

theorem doubled_singleton (q : Char) (cs : List Char) :
    doubled [q] 0 cs = cs.flatMap fun c => if c = q then [q, q] else [c] := by
  induction cs with
  | nil => rfl
  | cons c cs ih =>
    by_cases h : c = q
    · subst h
      simp [doubled, List.isPrefixOf, ih]
    · have h' : (q == c) = false := by simp [Ne.symm h]
      simp [doubled, List.isPrefixOf, h, h', ih]

/-- The inside of a text literal: each apostrophe twice. -/
def literalBody (s : String) : String := String.ofList (doubled ['\''] 0 s.toList)

end Text

/-- An identifier in the form in which statements write it. -/
structure Identifier where
  text : String
  deriving Repr, DecidableEq, Inhabited

def isWordStart (c : Char) : Bool := c.isAlpha || c == '_'

def isWordChar (c : Char) : Bool := c.isAlphanum || c == '_'

/-- A plain word: ASCII letters, digits and underscores, no digit in front. -/
def isWord : List Char → Bool
  | [] => false
  | c :: rest => isWordStart c && rest.all isWordChar

/-- A plain word, or one with a single line feed behind it. -/
def isWordLine (cs : List Char) : Bool :=
  isWord cs || (cs.getLast? == some '\n' && isWord cs.dropLast)

/-- The identifier rules of a dialect. Reserved words are in upper case. -/
structure Quoter where
  reserved : List String
  opening : String
  closing : String
  /-- Whether the opening quote is a text, so that a name can be asked for it. -/
  opens : Bool := true
  /-- Whether the closing quote is a text, so that a name can be asked for it. -/
  closes : Bool := true
  deriving Repr, DecidableEq

namespace Quoter

/-- The rules with reserved words in upper case and quotes of which only texts can be asked for. -/
def ofMarks (reserved : List String) (opening closing : Value) : Quoter where
  reserved
  opening := opening.display
  closing := closing.display
  opens := opening.asText?.isSome
  closes := closing.asText?.isSome

def isReserved (q : Quoter) (name : String) : Bool := q.reserved.contains (Text.upper name)

/-- Whether the name can be written without quotes. -/
def isSafe (q : Quoter) (name : String) : Bool := isWordLine name.toList && !q.isReserved name

def isQuoted (q : Quoter) (name : String) : Bool :=
  2 ≤ name.length && q.opening.toList.isPrefixOf name.toList &&
    q.closing.toList.isSuffixOf name.toList

def needsQuoting (q : Quoter) (name : String) : Bool := !q.isQuoted name && !q.isSafe name

def quote (q : Quoter) (name : String) : String :=
  q.opening ++ String.ofList (Text.doubled q.closing.toList 0 name.toList) ++ q.closing

def quoteIfNeeded (q : Quoter) (name : String) : String :=
  if q.needsQuoting name then q.quote name else name

/-- The form in which statements write the name. -/
def normalize (q : Quoter) (name : String) : String :=
  if q.isQuoted name then name else q.quoteIfNeeded (Text.upper name)

def identifier (q : Quoter) (name : String) : Identifier := ⟨q.normalize name⟩

/-- Whether a name can be asked if it stands in quotes; a name that is too short is not asked. -/
def isAskable (q : Quoter) (name : String) : Bool :=
  name.length < 2 || q.opens && (q.closes || !q.opening.toList.isPrefixOf name.toList)

/-- Whether quotes can be put around the name if it needs them. -/
def isQuotable (q : Quoter) (name : String) : Bool :=
  q.isAskable name && (!q.needsQuoting name || q.closes)

/-- Whether the name can be brought into the form in which statements write it. -/
def accepts (q : Quoter) (name : String) : Bool :=
  q.isAskable name && (q.isQuoted name || q.isQuotable (Text.upper name))

/-- The identifier that a value stands for. Only a text is a name. -/
def identify (q : Quoter) : Value → Except Fault Identifier
  | .text name => if q.accepts name then .ok (q.identifier name) else .error .wrongShape
  | .list _ | .map _ => .error .unsupported
  | _ => .error .wrongShape

theorem accepts_of_marks {q : Quoter} (ho : q.opens = true) (hc : q.closes = true)
    (name : String) : q.accepts name = true := by
  simp [accepts, isAskable, isQuotable, ho, hc]

theorem identify_text {q : Quoter} (ho : q.opens = true) (hc : q.closes = true) (name : String) :
    q.identify name = .ok (q.identifier name) := by
  simp [identify, accepts_of_marks ho hc]

theorem exists_text_of_identify {q : Quoter} {v : Value} {i : Identifier}
    (h : q.identify v = .ok i) : ∃ name, v = .text name ∧ i = q.identifier name := by
  unfold identify at h
  split at h
  · split at h
    · exact ⟨_, rfl, (Except.ok.inj h).symm⟩
    · cases h
  all_goals cases h

theorem normalize_of_isQuoted {q : Quoter} {name : String} (h : q.isQuoted name = true) :
    q.normalize name = name := by
  simp [normalize, h]

theorem normalize_of_not_isQuoted {q : Quoter} {name : String} (h : q.isQuoted name = false) :
    q.normalize name = q.quoteIfNeeded (Text.upper name) := by
  simp [normalize, h]

end Quoter

end SchemaDrift
