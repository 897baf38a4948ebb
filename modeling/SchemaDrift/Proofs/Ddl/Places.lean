import SchemaDrift.Ddl.Composer

/-!
# Places of identifiers

What a composer writes is text with places for identifiers: those of tables, columns, constraints,
indexes and sequences. `Composition.pieces` shows where they are; put together the pieces are the
text (`Composition.text_eq_joined`). Names inside literals have no such places.
-/

namespace SchemaDrift

open Document (Value)

/-- A piece of a text: what stands as it is, or an identifier in its place. -/
inductive Piece where
  | verbatim (text : String)
  | place (identifier : Identifier)
  deriving Repr, DecidableEq

namespace Piece

def text : Piece → String
  | verbatim text => text
  | place identifier => identifier.text

def joined (pieces : List Piece) : String := String.join (pieces.map text)

def identifiers : List Piece → List Identifier
  | [] => []
  | verbatim _ :: rest => identifiers rest
  | place identifier :: rest => identifier :: identifiers rest

theorem joined_append (xs ys : List Piece) : joined (xs ++ ys) = joined xs ++ joined ys := by
  rw [joined, List.map_append, String.join_append, joined, joined]

theorem identifiers_append (xs ys : List Piece) :
    identifiers (xs ++ ys) = identifiers xs ++ identifiers ys := by
  induction xs with
  | nil => rfl
  | cons x xs ih =>
    cases x with
    | verbatim _ => exact ih
    | place i => exact congrArg (i :: ·) ih

/-- Identifiers behind each other, with a separator between them. -/
def separated (separator : String) : List Identifier → List Piece
  | [] => []
  | [i] => [place i]
  | i :: j :: is => place i :: verbatim separator :: separated separator (j :: is)

theorem joined_separated (separator : String) (is : List Identifier) :
    joined (separated separator is) = separator.intercalate (is.map (·.text)) := by
  induction is with
  | nil => rfl
  | cons i is ih =>
    cases is with
    | nil => simp [separated, joined, text]
    | cons j is =>
      rw [List.map_cons, List.map_cons, String.intercalate_cons_cons, ← List.map_cons, ← ih,
        String.append_assoc]
      simp [separated, joined, text]

theorem identifiers_separated (separator : String) (is : List Identifier) :
    identifiers (separated separator is) = is := by
  induction is with
  | nil => rfl
  | cons i is ih =>
    cases is with
    | nil => rfl
    | cons j is => exact congrArg (i :: ·) ih

end Piece

open Piece (verbatim place)

def ColumnDefinition.pieces (d : ColumnDefinition) : List Piece :=
  [place d.column, verbatim " ", verbatim d.spec.render]

def PrimaryKey.pieces (k : PrimaryKey) : List Piece :=
  [verbatim "primary key ", verbatim (if k.nonclustered then "nonclustered " else ""), verbatim "(",
    place k.column, verbatim ")"]

namespace Command

/-- The pieces of a line of a table definition that another one follows. -/
def linePieces (d : ColumnDefinition) : List Piece :=
  verbatim indent :: d.pieces ++ [verbatim ",\n"]

/--
The pieces of a command. A sequence is written with three identifiers: its own, and those of the two
columns of its table.
-/
def pieces : Command → List Piece
  | createTable table columns key =>
    [verbatim "create table ", place table, verbatim " (\n"] ++ columns.flatMap linePieces ++
      verbatim indent :: key.pieces ++ [verbatim "\n)"]
  | dropTable table => [verbatim "drop table ", place table]
  | addColumn table definition =>
    [verbatim "alter table ", place table, verbatim " add "] ++ definition.pieces
  | alterColumn table definition =>
    [verbatim "alter table ", place table, verbatim " alter column "] ++ definition.pieces
  | dropColumn table column =>
    [verbatim "alter table ", place table, verbatim " drop column ", place column]
  | fillNulls table column value =>
    [verbatim "update ", place table, verbatim " set ", place column, verbatim " = ", verbatim value,
      verbatim " where ", place column, verbatim " is null"]
  | addPrimaryKey table constraint key =>
    [verbatim "alter table ", place table, verbatim " add constraint ", place constraint,
      verbatim " "] ++ key.pieces
  | addForeignKey table constraint column target targetColumn =>
    [verbatim "alter table ", place table, verbatim " add constraint ", place constraint,
      verbatim " foreign key (", place column, verbatim ") references ", place target, verbatim "(",
      place targetColumn, verbatim ")"]
  | dropConstraint table constraint =>
    [verbatim "alter table ", place table, verbatim " drop constraint ", place constraint]
  | createIndex unique index table columns =>
    [verbatim (if unique then "create unique index " else "create index "), place index,
      verbatim " on ", place table, verbatim " ("] ++ Piece.separated ", " columns ++ [verbatim ")"]
  | dropIndex index table =>
    [verbatim "drop index ", place index, verbatim " on ", place table]
  | createSequence name identityType start increment timestampType =>
    [verbatim "create table ", place ⟨name⟩, verbatim " (", place ⟨"ID"⟩, verbatim " ",
      verbatim identityType, verbatim "(", verbatim start.display, verbatim ",",
      verbatim increment.display, verbatim "), ", place ⟨"CREATE_TS"⟩, verbatim " ",
      verbatim timestampType, verbatim ")"]
  | dropSequence name => [verbatim "drop table ", place ⟨name⟩]
  | other => [verbatim other.render]

theorem joined_linePieces (d : ColumnDefinition) :
    Piece.joined (linePieces d) = indent ++ d.render ++ ",\n" := by
  simp [linePieces, ColumnDefinition.pieces, ColumnDefinition.render, Piece.joined, Piece.text,
    String.append_assoc]

theorem joined_keyPieces (key : PrimaryKey) : Piece.joined key.pieces = key.render := by
  simp [PrimaryKey.pieces, PrimaryKey.render, Piece.joined, Piece.text, String.append_assoc]

theorem joined_lines (columns : List ColumnDefinition) (key : PrimaryKey) :
    Piece.joined (columns.flatMap linePieces ++ verbatim indent :: key.pieces) =
      ",\n".intercalate (tableLines columns key) := by
  have last : Piece.joined (verbatim indent :: key.pieces) = indent ++ key.render := by
    rw [← joined_keyPieces]
    simp [Piece.joined, Piece.text]
  induction columns with
  | nil => simpa [tableLines] using last
  | cons d columns ih =>
    obtain ⟨line, lines, split⟩ : ∃ line lines, tableLines columns key = line :: lines :=
      List.exists_cons_of_ne_nil (by simp [tableLines])
    have front : tableLines (d :: columns) key = (indent ++ d.render) :: line :: lines := by
      rw [← split]
      rfl
    rw [front, String.intercalate_cons_cons, ← split, ← ih, List.flatMap_cons, List.append_assoc,
      Piece.joined_append, joined_linePieces]

/-- A command is written piece by piece. -/
theorem render_eq_joined (c : Command) : c.render = Piece.joined c.pieces := by
  cases c with
  | createTable table columns key =>
    unfold render pieces
    dsimp only
    rw [← joined_lines, List.append_assoc, Piece.joined_append, Piece.joined_append]
    simp [Piece.joined, Piece.text, String.append_assoc]
  | addPrimaryKey table constraint key =>
    unfold render pieces
    dsimp only
    rw [← joined_keyPieces, Piece.joined_append]
    simp [Piece.joined, Piece.text, String.append_assoc]
  | createIndex unique index table columns =>
    unfold render pieces
    dsimp only
    rw [← Piece.joined_separated, Piece.joined_append, Piece.joined_append]
    simp [Piece.joined, Piece.text, String.append_assoc]
  | createSequence name identityType start increment timestampType =>
    have columns : " (ID " = " (" ++ ("ID" ++ " ") ∧
        "), CREATE_TS " = "), " ++ ("CREATE_TS" ++ " ") := ⟨rfl, rfl⟩
    unfold render pieces
    rw [columns.1, columns.2]
    simp only [Piece.joined, Piece.text, List.map_cons, List.map_nil, String.join_cons,
      String.join_nil, String.append_assoc, String.append_empty]
  | renameTable _ _ | renameColumn _ _ _ | findSequence _ =>
    show _ = Piece.joined [verbatim _]
    simp [Piece.joined, Piece.text]
  | _ =>
    unfold render pieces
    simp [Piece.joined, Piece.text, ColumnDefinition.pieces, ColumnDefinition.render,
      String.append_assoc]

theorem identifiers_lines (columns : List ColumnDefinition) :
    Piece.identifiers (columns.flatMap linePieces) = columns.map (·.column) := by
  induction columns with
  | nil => rfl
  | cons d columns ih =>
    rw [List.flatMap_cons, Piece.identifiers_append, ih]
    rfl

end Command

/-- What a composer writes: a statement, or a part of one. -/
inductive Composition where
  | statement (s : Statement)
  | definition (d : ColumnDefinition)
  | key (k : PrimaryKey)
  | name (i : Identifier)

namespace Composition

def text : Composition → String
  | statement s => s.text
  | definition d => d.render
  | key k => k.render
  | name i => i.text

def pieces : Composition → List Piece
  | statement (.issued c terminator) => c.pieces ++ [verbatim (" " ++ terminator ++ c.lineEnd)]
  | statement (.verbatim _ text) => [verbatim text]
  | definition d => d.pieces
  | key k => k.pieces
  | name i => [place i]

theorem text_eq_joined (c : Composition) : c.text = Piece.joined c.pieces := by
  cases c with
  | statement s =>
    cases s with
    | issued c terminator =>
      show c.render ++ " " ++ terminator ++ c.lineEnd = Piece.joined (c.pieces ++ _)
      rw [Command.render_eq_joined, Piece.joined_append]
      simp [Piece.joined, Piece.text, String.append_assoc]
    | verbatim category text => simp [Composition.text, pieces, Statement.text, Piece.joined, Piece.text]
  | definition d =>
    simp [text, pieces, ColumnDefinition.pieces, ColumnDefinition.render, Piece.joined, Piece.text,
      String.append_assoc]
  | key k => exact (Command.joined_keyPieces k).symm
  | name i => simp [text, pieces, Piece.joined, Piece.text]

def identifiers (c : Composition) : List Identifier := Piece.identifiers c.pieces

theorem identifiers_createTable (table : Identifier) (columns : List ColumnDefinition)
    (key : PrimaryKey) (terminator : String) :
    (statement (.issued (.createTable table columns key) terminator)).identifiers =
      table :: columns.map (·.column) ++ [key.column] := by
  show Piece.identifiers ([verbatim "create table ", place table, verbatim " (\n"] ++
    columns.flatMap Command.linePieces ++ verbatim Command.indent :: key.pieces ++
      [verbatim "\n)"] ++ _) = _
  simp only [Piece.identifiers_append, Command.identifiers_lines]
  simp [Piece.identifiers, PrimaryKey.pieces]

theorem identifiers_createIndex (unique : Bool) (index table : Identifier)
    (columns : List Identifier) (terminator : String) :
    (statement (.issued (.createIndex unique index table columns) terminator)).identifiers =
      index :: table :: columns := by
  show Piece.identifiers ([verbatim _, place index, verbatim " on ", place table, verbatim " ("] ++
    Piece.separated ", " columns ++ [verbatim ")"] ++ _) = _
  simp only [Piece.identifiers_append, Piece.identifiers_separated]
  simp [Piece.identifiers]

end Composition

end SchemaDrift
