import SchemaDrift.Fault
import SchemaDrift.Text.Case

/-!
# Attributes

What a model says about one attribute: its logical type, whether it identifies the entity or
refers to another one, its limits, and the column it lives in. Names are kept as they are written;
whether one is a text is asked where it is used. An embedded attribute stands for the columns of
its parts; `Attribute.expand` lists them with the prefixes of the path to them.
-/

namespace SchemaDrift

open Document (Value)

/-- The kinds of key that an entity can have. -/
inductive KeyType where
  | uuid
  | long
  | integer
  | string
  | longIdentity
  | integerIdentity
  deriving Repr, DecidableEq

namespace KeyType

def all : List KeyType := [uuid, long, integer, string, longIdentity, integerIdentity]

/-- The name of a kind of key; for the kinds that are no identity, the logical type as well. -/
def name : KeyType → String
  | uuid => "UUID"
  | long => "Long"
  | integer => "Integer"
  | string => "String"
  | longIdentity => "LongIdentity"
  | integerIdentity => "IntegerIdentity"

def isIdentity : KeyType → Bool
  | longIdentity | integerIdentity => true
  | _ => false

def ofName? (s : String) : Option KeyType := all.find? (·.name == s)

end KeyType

/-- The class of an attribute's values: with its package, and as the logical type. -/
structure TypeName where
  qualified : Value
  simple : Value
  deriving Repr, DecidableEq

namespace TypeName

/-- The name of a class in a package; without a package it is the simple name. -/
def inPackage (simple package : Value) : TypeName :=
  ⟨if package.isTruthy then .text (package.display ++ "." ++ simple.display) else simple, simple⟩

def isText (t : TypeName) : Bool :=
  t.qualified == "java.lang.String" || t.qualified == "java.lang.Character"

def isDecimal (t : TypeName) : Bool := t.qualified == "java.math.BigDecimal"

end TypeName

/-- What a model says about one attribute, its parts aside. -/
structure Field where
  name : Value
  type : TypeName
  isId : Bool := false
  isMandatory : Bool := false
  isReference : Bool := false
  /-- Whether the attribute is an enumeration: what counts as true means yes. -/
  enumMark : Value := .bool false
  /-- The logical type in which an enumeration is stored. -/
  enumType : Value := .null
  length : Value := .null
  precision : Value := .null
  scale : Value := .null
  column : Value := .null
  /-- What the columns of the parts begin with. -/
  columnPrefix : Value := .null
  target : Value := .null
  /-- The key column of the table referred to. -/
  targetColumn : Value := "ID"
  /-- The kind of key of the entity referred to. -/
  targetKey : KeyType := .uuid
  deriving Repr, DecidableEq

/-- An attribute: plain, or embedded with at least one part. -/
inductive Attribute where
  /-- An attribute with a column of its own; parts that it may state have no columns. -/
  | plain (field : Field) (parts : List Attribute)
  /-- An attribute that stands for its parts. -/
  | embedded (field : Field) (first : Attribute) (rest : List Attribute)
  deriving Repr

namespace Attribute

def field : Attribute → Field
  | plain f _ => f
  | embedded f _ _ => f

def isEmbedded : Attribute → Bool
  | plain _ _ => false
  | embedded _ _ _ => true

def parts : Attribute → List Attribute
  | plain _ ps => ps
  | embedded _ first rest => first :: rest

end Attribute

namespace Field

/-- Words run together with capitals, written apart with underscores. -/
def separateWords : List Char → List Char
  | [] => []
  | c :: rest => c :: rest.flatMap fun d => if d.isUpper then ['_', d] else [d]

def derivedColumn (name : String) : String :=
  Text.upper (String.ofList (separateWords name.toList))

/-- The column that the name of a reference or of another attribute leads to. -/
def columnOfName (isReference : Bool) (name : String) : String :=
  if isReference then derivedColumn name ++ "_ID" else derivedColumn name

/-- The column of the attribute: the stated one, or one derived from a name that is a text. -/
def columnName (f : Field) : Except Fault Value :=
  match f.column.stated?, f.name with
  | some column, _ => .ok column
  | none, .text name => .ok (.text (columnOfName f.isReference name))
  | none, _ => .error .wrongShape

def isEnum (f : Field) : Bool := f.enumMark.isTruthy

/-- The logical type that stores the enumeration. -/
def storedEnumType (f : Field) : Value := f.enumType.statedOr "String"

def isNamedEnum (f : Field) : Bool := f.isEnum && f.storedEnumType == "String"

/-- The table referred to, if the attribute is a reference that states one. -/
def reference? (f : Field) : Option Value := if f.isReference then f.target.stated? else none

end Field

namespace Attribute

def columnName (a : Attribute) : Except Fault Value := a.field.columnName

/-- A column, or what columns begin with, behind a prefix. Both have to be of one kind. -/
def joined (pre : Except Fault Value) (column : Value) : Except Fault Value := do
  match (← pre).plus? column with
  | some whole => return whole
  | none => throw .wrongShape

/-- What the column of the first plain attribute below an attribute begins with. -/
def leadingPrefix (pre : Except Fault Value) : Attribute → Except Fault Value
  | plain _ _ => pre
  | embedded f first _ => leadingPrefix (joined pre (f.columnPrefix.statedOr "")) first

/-- A plain attribute with its column, which there may not be. -/
abbrev Leaf := Attribute × Except Fault Value

mutual

/--
The plain attributes below an attribute, from left to right, each with its column behind the
prefix and the prefixes of the embedded attributes around it.
-/
def expand (pre : Except Fault Value) : Attribute → List Leaf
  | plain f ps => [(plain f ps, do joined pre (← f.columnName))]
  | embedded f first rest =>
    let inner := joined pre (f.columnPrefix.statedOr "")
    expand inner first ++ expandAll inner rest

def expandAll (pre : Except Fault Value) : List Attribute → List Leaf
  | [] => []
  | a :: rest => expand pre a ++ expandAll pre rest

end

@[simp] theorem expand_plain (pre : Except Fault Value) (f : Field) (ps : List Attribute) :
    (plain f ps).expand pre = [(plain f ps, do joined pre (← f.columnName))] := by
  simp [expand]

@[simp] theorem expand_embedded (pre : Except Fault Value) (f : Field) (first : Attribute)
    (rest : List Attribute) :
    (embedded f first rest).expand pre =
      expandAll (joined pre (f.columnPrefix.statedOr "")) (first :: rest) := by
  simp [expand, expandAll]

@[simp] theorem expandAll_nil (pre : Except Fault Value) : expandAll pre [] = [] := by
  simp [expandAll]

@[simp] theorem expandAll_cons (pre : Except Fault Value) (a : Attribute) (as : List Attribute) :
    expandAll pre (a :: as) = a.expand pre ++ expandAll pre as := by
  simp [expandAll]

theorem joined_text (pre column : String) :
    joined (.ok (.text pre)) (.text column) = .ok (.text (pre ++ column)) := rfl

end Attribute

end SchemaDrift
