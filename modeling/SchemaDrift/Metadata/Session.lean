import SchemaDrift.Fault
import SchemaDrift.Log.Level
/-!
# Sessions

A session is a computation beside a metadata source: it gives a result or a fault, leaves the
source in some state, and adds records to the log that the caller supplied. A fault keeps the
records and the state reached before it.

A `Provider` is what the planner needs of a metadata source: scopes, inside which lookups share
one connection, and three lookups.
-/

namespace SchemaDrift

open Document (Value)
open Log (Level Logger Record)

/-- What a session leaves behind: the state of the source and the records logged so far. -/
structure Trail (σ : Type) where
  source : σ
  log : List Record := []
  deriving Repr

/-- A computation beside a metadata source in state `σ`. -/
abbrev Session (σ : Type) := ExceptT Fault (StateM (Trail σ))

namespace Session

variable {σ α : Type}

/-- Runs a session from a state of the source and an empty log. -/
def start (s : Session σ α) (source : σ) : Except Fault α × Trail σ :=
  (ExceptT.run s).run { source }

def ofExcept (r : Except Fault α) : Session σ α := ExceptT.mk (pure r)

instance : MonadLift (Except Fault) (Session σ) := ⟨ofExcept⟩

/-- Hands a record to a logger. The built-in logger leaves no trace, a mute one fails. -/
def log (logger : Option Logger) (level : Level) (message : String) : Session σ Unit :=
  match logger with
  | none => pure ()
  | some .recorder => modify fun t => { t with log := t.log ++ [⟨level, message⟩] }
  | some (.mute _) => throw .unsupported

def modifySource (f : σ → σ) : Session σ Unit := modify fun t => { t with source := f t.source }

def source : Session σ σ := return (← get).source

/-- Runs a session and then, whether it failed or not, a change of the trail. -/
def ensuring (s : Session σ α) (f : Trail σ → Trail σ) : Session σ α :=
  ExceptT.mk fun t => ((ExceptT.run s t).1, f (ExceptT.run s t).2)

end Session

/-- The lookups that a metadata source answers. -/
inductive Lookup where
  | foreignKeys
  | defaults
  | indexes
  deriving Repr, DecidableEq

namespace Lookup

def all : List Lookup := [foreignKeys, defaults, indexes]

def name : Lookup → String
  | foreignKeys => "list_foreign_key_constraints"
  | defaults => "list_default_constraints"
  | indexes => "list_indexes_for_column"

def ofName? (s : String) : Option Lookup := all.find? (·.name == s)

end Lookup

/-- An index of a column. -/
structure Index where
  name : Value
  /-- Whether the index is unique: what counts as true means yes. -/
  uniqueMark : Value := .bool false
  deriving Repr, DecidableEq

def Index.isUnique (i : Index) : Bool := i.uniqueMark.isTruthy

/--
What the planner needs of a metadata source in state `σ`. Names are asked for and answered as they
are written.
-/
structure Provider (σ : Type) where
  /-- Runs a session inside a scope, which is left again however the session ends. -/
  within : {α : Type} → Session σ α → Session σ α
  foreignKeys : (table column : Value) → Session σ (List Value)
  defaults : (table column : Value) → Session σ (List Value)
  indexes : (table column : Value) → Session σ (List Index)

end SchemaDrift
