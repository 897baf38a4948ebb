import SchemaDrift.Ddl.Composer

/-!
# What statements do to columns

Of what a statement does to a table, a plan has to account for four things: a column that goes, a
column that comes, a constraint that goes, an index that goes. `Command.effect?` reads them off
commands. Among the statements about one table, the text of a statement determines its effect
(`text_eq_dropColumn_iff`, `text_eq_addColumn_iff`).
-/

namespace SchemaDrift

/-- What a command does to the columns of a table or to what hangs on them. -/
inductive Effect where
  | dropsColumn (column : Identifier)
  | addsColumn (definition : ColumnDefinition)
  | dropsConstraint (constraint : Identifier)
  | dropsIndex (index : Identifier)
  deriving Repr, DecidableEq

namespace Effect

def droppedColumn? : Effect → Option Identifier
  | dropsColumn column => some column
  | _ => none

/-- The column that an effect brings, with its definition. -/
def addedColumn? : Effect → Option ColumnDefinition
  | addsColumn definition => some definition
  | _ => none

def droppedConstraint? : Effect → Option Identifier
  | dropsConstraint constraint => some constraint
  | _ => none

def droppedIndex? : Effect → Option Identifier
  | dropsIndex index => some index
  | _ => none

theorem droppedColumn?_eq_some_iff {effect : Effect} {column : Identifier} :
    effect.droppedColumn? = some column ↔ effect = .dropsColumn column := by
  cases effect <;> simp [droppedColumn?]

theorem addedColumn?_eq_some_iff {effect : Effect} {definition : ColumnDefinition} :
    effect.addedColumn? = some definition ↔ effect = .addsColumn definition := by
  cases effect <;> simp [addedColumn?]

end Effect

namespace Command

/-- The effect of a command, if it has one. -/
def effect? : Command → Option Effect
  | dropColumn _ column => some (.dropsColumn column)
  | addColumn _ definition => some (.addsColumn definition)
  | dropConstraint _ constraint => some (.dropsConstraint constraint)
  | dropIndex index _ => some (.dropsIndex index)
  | _ => none

def table? : Command → Option Identifier
  | createTable table .. | dropTable table | addColumn table _ | alterColumn table _
  | dropColumn table _ | fillNulls table .. | addPrimaryKey table .. | addForeignKey table ..
  | dropConstraint table _ | createIndex _ _ table _ | dropIndex _ table => some table
  | _ => none

/-- What an alteration of a table says behind the name of the table. -/
def clause? : Command → Option String
  | addColumn _ definition => some (" add " ++ definition.render)
  | alterColumn _ definition => some (" alter column " ++ definition.render)
  | dropColumn _ column => some (" drop column " ++ column.text)
  | addPrimaryKey _ constraint key =>
    some (" add constraint " ++ (constraint.text ++ (" " ++ key.render)))
  | addForeignKey _ constraint column target targetColumn =>
    some (" add constraint " ++ (constraint.text ++ (" foreign key (" ++ (column.text ++
      (") references " ++ (target.text ++ ("(" ++ (targetColumn.text ++ ")"))))))))
  | dropConstraint _ constraint => some (" drop constraint " ++ constraint.text)
  | _ => none

theorem render_of_clause? {c : Command} {table : Identifier} {clause : String}
    (about : c.table? = some table) (h : c.clause? = some clause) :
    c.render = "alter table " ++ table.text ++ clause := by
  cases c <;> cases h <;> cases about <;> rw [String.append_assoc]
  case addColumn definition =>
    show "alter table " ++ table.text ++ " add " ++ definition.render = _
    simp only [String.append_assoc]
  case alterColumn definition =>
    show "alter table " ++ table.text ++ " alter column " ++ definition.render = _
    simp only [String.append_assoc]
  case dropColumn column =>
    show "alter table " ++ table.text ++ " drop column " ++ column.text = _
    simp only [String.append_assoc]
  case addPrimaryKey constraint key =>
    show "alter table " ++ table.text ++ " add constraint " ++ constraint.text ++ " " ++
      key.render = _
    simp only [String.append_assoc]
  case addForeignKey constraint column target targetColumn =>
    show "alter table " ++ table.text ++ " add constraint " ++ constraint.text ++
      " foreign key (" ++ column.text ++ ") references " ++ target.text ++ "(" ++
        targetColumn.text ++ ")" = _
    simp only [String.append_assoc]
  case dropConstraint constraint =>
    show "alter table " ++ table.text ++ " drop constraint " ++ constraint.text = _
    simp only [String.append_assoc]

theorem head?_of_clause?_eq_none {c : Command} {table : Identifier}
    (about : c.table? = some table) (h : c.clause? = none) :
    c.render.toList.head? ≠ some 'a' := by
  cases c <;> cases h <;> cases about
  case createTable columns key =>
    show ("create table " ++ _ ++ _ ++ _ ++ _ : String).toList.head? ≠ _
    simp
  case dropTable =>
    show ("drop table " ++ _ : String).toList.head? ≠ _
    simp
  case fillNulls =>
    show ("update " ++ _ ++ _ ++ _ ++ _ ++ _ ++ _ ++ _ ++ _ : String).toList.head? ≠ _
    simp
  case createIndex unique _ _ =>
    show ((if unique then "create unique index " else "create index ") ++ _ ++ _ ++
      _ ++ _ ++ _ ++ _ : String).toList.head? ≠ _
    cases unique <;> simp
  case dropIndex =>
    show ("drop index " ++ _ ++ _ ++ _ : String).toList.head? ≠ _
    simp

theorem clause?_eq_dropColumn_iff {c : Command} {column : Identifier} :
    c.clause? = some (" drop column " ++ column.text) ↔ c.effect? = some (.dropsColumn column) := by
  cases c <;> simp [clause?, effect?, ← String.toList_inj]
  case dropColumn dropped =>
    cases dropped
    cases column
    simp [String.toList_inj]

theorem clause?_eq_alterColumn_iff {table : Identifier} {definition : ColumnDefinition}
    {written : String} :
    (alterColumn table definition).clause? = some (" alter column " ++ written) ↔
      written = definition.render := by
  rw [clause?, Option.some.injEq, String.append_right_inj]
  exact eq_comm

theorem clause?_eq_addColumn_iff {c : Command} {definition : ColumnDefinition}
    (head : definition.column.text.toList.head? ≠ some 'c') :
    c.clause? = some (" add " ++ definition.render) ↔
      ∃ added, c.effect? = some (.addsColumn added) ∧ added.render = definition.render := by
  have apart : ∀ rest, definition.render.toList ≠ 'c' :: rest := by
    intro rest same
    simp only [ColumnDefinition.render, String.toList_append] at same
    cases word : definition.column.text.toList with
    | nil => simp [word] at same
    | cons d ds =>
      rw [word, List.head?_cons] at head
      rw [word, List.cons_append, List.cons_append, List.cons.injEq] at same
      exact head (congrArg some same.1)
  cases c
  case addPrimaryKey | addForeignKey =>
    simp only [clause?, effect?, Option.some.injEq, reduceCtorEq, false_and, exists_false, iff_false]
    intro same
    have lists := congrArg String.toList same
    simp at lists
    exact apart _ lists.symm
  all_goals simp [clause?, effect?, ← String.toList_inj]

end Command

namespace Statement

/-- The effect of a statement, if it has one. -/
def effect? (s : Statement) : Option Effect := s.command?.bind Command.effect?

def effects (ss : List Statement) : List Effect := ss.filterMap effect?

@[simp] theorem effects_append (ss us : List Statement) :
    effects (ss ++ us) = effects ss ++ effects us := List.filterMap_append

def droppedColumns (ss : List Statement) : List Identifier :=
  (effects ss).filterMap Effect.droppedColumn?

def addedColumns (ss : List Statement) : List ColumnDefinition :=
  (effects ss).filterMap Effect.addedColumn?

def droppedConstraints (ss : List Statement) : List Identifier :=
  (effects ss).filterMap Effect.droppedConstraint?

def droppedIndexes (ss : List Statement) : List Identifier :=
  (effects ss).filterMap Effect.droppedIndex?

theorem text_of_table? {c : Command} {table : Identifier} (about : c.table? = some table)
    (terminator : String) : (issued c terminator).text = c.render ++ (" " ++ terminator) := by
  have ends : c.lineEnd = "" := by cases c <;> first | rfl | cases about
  show c.render ++ " " ++ terminator ++ c.lineEnd = _
  rw [ends, String.append_empty, String.append_assoc]

/-- A statement about a table has the text of an alteration of it only if it is one. -/
theorem text_eq_iff {c : Command} {table : Identifier} {clause terminator : String}
    (about : c.table? = some table) :
    (issued c terminator).text = "alter table " ++ table.text ++ clause ++ (" " ++ terminator) ↔
      c.clause? = some clause := by
  rw [text_of_table? about, String.append_left_inj]
  constructor
  · intro same
    cases hc : c.clause? with
    | none =>
      refine absurd ?_ (Command.head?_of_clause?_eq_none about hc)
      rw [same]
      simp
    | some clause' =>
      rw [Command.render_of_clause? about hc, String.append_right_inj] at same
      rw [same]
  · intro hc
    exact Command.render_of_clause? about hc

theorem text_eq_iff_of_clause? {c d : Command} {table : Identifier} {clause terminator : String}
    (about : c.table? = some table) (about' : d.table? = some table)
    (h : d.clause? = some clause) :
    (issued c terminator).text = (issued d terminator).text ↔ c.clause? = some clause := by
  rw [text_of_table? about', Command.render_of_clause? about' h, text_eq_iff about]

theorem text_eq_dropColumn_iff {c : Command} {table column : Identifier} {terminator : String}
    (about : c.table? = some table) :
    (issued c terminator).text = (issued (.dropColumn table column) terminator).text ↔
      c.effect? = some (.dropsColumn column) := by
  rw [text_eq_iff_of_clause? about rfl rfl]
  exact Command.clause?_eq_dropColumn_iff

theorem text_eq_addColumn_iff {c : Command} {table : Identifier} {definition : ColumnDefinition}
    {terminator : String} (about : c.table? = some table)
    (head : definition.column.text.toList.head? ≠ some 'c') :
    (issued c terminator).text = (issued (.addColumn table definition) terminator).text ↔
      ∃ added, c.effect? = some (.addsColumn added) ∧ added.render = definition.render := by
  rw [text_eq_iff_of_clause? about rfl rfl]
  exact Command.clause?_eq_addColumn_iff head

end Statement

end SchemaDrift
