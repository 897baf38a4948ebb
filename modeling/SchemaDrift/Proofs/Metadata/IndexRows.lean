import SchemaDrift.Proofs.Metadata.Connections
import SchemaDrift.Proofs.Text.Words

/-!
# Rows of indexes

A database tells the columns of an index in two texts. The rows about a column are those in which
one of the two names it; since both are searched as one text, a column whose name has a blank may
also be found half in one of them and half in the other (`indexes_kept_iff`).
-/

namespace SchemaDrift

open Document (Value)
open Text (IsAscii StandsIn StandsAcross)

namespace IndexRow

variable {column : String} {r : IndexRow}

def IsAscii (r : IndexRow) : Prop :=
  (∀ text ∈ r.expressions, Text.IsAscii text.toList) ∧
    ∀ text ∈ r.definition, Text.IsAscii text.toList

instance (r : IndexRow) : Decidable r.IsAscii := inferInstanceAs (Decidable (_ ∧ _))

/-- The column is named in the expressions, or behind the first parenthesis of the definition. -/
def Names (column : String) (r : IndexRow) : Prop :=
  (∃ text, r.expressions = some text ∧ StandsIn column.toList text.toList) ∨
    ∃ text front behind, r.definition = some text ∧ text.toList = front ++ '(' :: behind ∧
      '(' ∉ front ∧ StandsIn column.toList behind

/-- The row names the column half at the end of one text, half at the beginning of the other. -/
def NamesAcross (column : String) (r : IndexRow) : Prop :=
  StandsAcross column.toList (r.expressions.getD "").toList
    (columnList (r.definition.getD "")).toList

theorem isAscii_columnList {definition : String} (ascii : Text.IsAscii definition.toList) :
    Text.IsAscii (columnList definition).toList := by
  intro c hc
  rw [columnList, String.toList_ofList] at hc
  exact ascii c ((List.dropWhile_sublist _).mem (List.mem_of_mem_drop hc))

theorem standsIn_columnList_iff (named : column ≠ "") {definition : String} :
    StandsIn column.toList (columnList definition).toList ↔ ∃ front behind,
      definition.toList = front ++ '(' :: behind ∧ '(' ∉ front ∧ StandsIn column.toList behind := by
  have word : column.toList ≠ [] := by simpa using named
  rw [columnList, String.toList_ofList]
  induction definition.toList with
  | nil => simpa using Text.not_standsIn_nil word
  | cons c cs ih =>
    by_cases opens : c = '('
    · subst opens
      rw [List.dropWhile_cons_of_neg (by decide), List.drop_one, List.tail_cons]
      constructor
      · intro stands
        exact ⟨[], cs, rfl, List.not_mem_nil, stands⟩
      · rintro ⟨front, behind, whole, apart, stands⟩
        cases front with
        | nil =>
          cases whole
          exact stands
        | cons c front =>
          cases whole
          exact absurd (List.mem_cons_self ..) apart
    · rw [List.dropWhile_cons_of_pos (by simpa using opens)]
      refine ih.trans ?_
      constructor
      · rintro ⟨front, behind, rfl, apart, stands⟩
        exact ⟨c :: front, behind, rfl, by simp [Ne.symm opens, apart], stands⟩
      · rintro ⟨front, behind, whole, apart, stands⟩
        cases front with
        | nil =>
          cases whole
          exact absurd rfl opens
        | cons c' front =>
          cases whole
          exact ⟨front, behind, rfl, List.not_mem_of_not_mem_cons apart, stands⟩

theorem names_iff (named : column ≠ "") : r.Names column ↔
    StandsIn column.toList (r.expressions.getD "").toList ∨
      StandsIn column.toList (columnList (r.definition.getD "")).toList := by
  have missed : ¬StandsIn column.toList [] := Text.not_standsIn_nil (by simpa using named)
  refine or_congr ?_ ?_
  · cases r.expressions with
    | none => simpa using missed
    | some text => simp
  · rw [standsIn_columnList_iff named]
    cases r.definition with
    | none => simp
    | some text => simp

theorem IsAscii.expressions (ascii : r.IsAscii) : Text.IsAscii (r.expressions.getD "").toList := by
  cases h : r.expressions with
  | none => exact Text.isAscii_nil
  | some text => exact ascii.1 text h

theorem IsAscii.columnList (ascii : r.IsAscii) :
    Text.IsAscii (IndexRow.columnList (r.definition.getD "")).toList := by
  cases h : r.definition with
  | none => exact Text.isAscii_nil
  | some text => exact isAscii_columnList (ascii.2 text h)

theorem names_iff_holdsWord (named : column ≠ "") (asciiColumn : Text.IsAscii column.toList)
    (ascii : r.IsAscii) : r.Names column ↔
      (Text.holdsWord column (r.expressions.getD "") ||
        Text.holdsWord column (columnList (r.definition.getD ""))) = true := by
  rw [names_iff named, Bool.or_eq_true, Text.holdsWord_iff asciiColumn ascii.expressions,
    Text.holdsWord_iff asciiColumn ascii.columnList]

/-- The search finds the column in one of the two texts, or across the joint between them. -/
theorem mentions_iff (named : column ≠ "") (asciiColumn : Text.IsAscii column.toList)
    (ascii : r.IsAscii) :
    r.mentions true column = true ↔ r.Names column ∨ r.NamesAcross column := by
  have whole : (r.searched true).toList = (r.expressions.getD "").toList ++ ' ' ::
      (columnList (r.definition.getD "")).toList := by
    rw [searched, if_pos rfl, String.toList_append, String.toList_append, List.append_assoc]
    rfl
  have asciiText : Text.IsAscii (r.searched true).toList := by
    rw [whole, Text.isAscii_append, Text.isAscii_cons]
    exact ⟨ascii.expressions, by decide, ascii.columnList⟩
  rw [mentions, Text.holdsWord_iff asciiColumn asciiText, whole, Text.standsIn_joined_iff,
    names_iff named, or_assoc]
  rfl

end IndexRow

namespace Database

variable {d : Database} {t : Trail Connections}

theorem exists_returns_ask {α : Type} {answer : Nat → Answer α} {rows : List α} (typed : d.IsTyped)
    (reached : d.isReachable t.source = true) (answered : answer t.source.queries = .ok rows)
    (q : Query) : ∃ t', (d.ask q answer).Returns t rows t' := by
  have returned := returns_onConnection_query typed q answer reached
  rw [answered] at returned
  exact ⟨_, Session.returns_bind.2 ⟨_, _, returned, Session.returns_pure.2 ⟨rfl, rfl⟩⟩⟩

theorem exists_returns_indexes {rows : List IndexRow} (typed : d.IsTyped)
    (reached : d.isReachable t.source = true)
    (answered : d.indexes t.source.queries = .ok rows) (table : Value) (column : String) :
    ∃ t', (d.provider.indexes table (.text column)).Returns t
      ((rows.filter (·.mentions d.hasDefinitions column)).map (·.index)) t' := by
  obtain ⟨t', asked⟩ := exists_returns_ask typed reached answered _
  refine ⟨t', Session.returns_bind.2 ⟨rows, t', asked, ?_⟩⟩
  exact Session.returns_lift_bind.2 ⟨_, rfl, Session.returns_pure.2 ⟨rfl, rfl⟩⟩

/--
A database that tells definitions of indexes lists the rows that name the column, in their order and
with their own names and uniqueness, and those that name it across the joint of their two texts.
-/
theorem indexes_kept_iff {rows : List IndexRow} {column : String} (typed : d.IsTyped)
    (reached : d.isReachable t.source = true) (defined : d.hasDefinitions = true)
    (answered : d.indexes t.source.queries = .ok rows) (named : column ≠ "")
    (asciiColumn : IsAscii column.toList) (ascii : ∀ r ∈ rows, r.IsAscii) (table : Value) :
    (∃ t', (d.provider.indexes table (.text column)).Returns t
        ((rows.filter (·.mentions true column)).map (·.index)) t') ∧
      ∀ r ∈ rows, (r.mentions true column = true ↔ r.Names column ∨ r.NamesAcross column) ∧
        (' ' ∉ column.toList → (r.mentions true column = true ↔ r.Names column)) := by
  refine ⟨?_, fun r hr => ?_⟩
  · have returned := exists_returns_indexes typed reached answered table column
    rwa [defined] at returned
  · have mentioned := IndexRow.mentions_iff named asciiColumn (ascii r hr)
    refine ⟨mentioned, fun whole => mentioned.trans (or_iff_left fun across => ?_)⟩
    exact whole (Text.blank_mem_of_standsAcross across)

/-- An index over two columns, which it tells in both of its texts. -/
def zipIndex : IndexRow where
  index := ⟨.text "IX_ADDRESS", .bool false⟩
  expressions := some "zip, city"
  definition := some "create index IX_ADDRESS on ADDRESS (zip, city)"

def codeIndex : IndexRow where
  index := ⟨.text "UX_ADDRESS", .bool true⟩
  expressions := none
  definition := some "create unique index UX_ADDRESS on ADDRESS (citycode)"

def addressesFile : Database where
  path := "addresses.duckdb"
  refusal? _ := none
  indexes _ := .ok [zipIndex, codeIndex]

theorem isTyped_addressesFile : addressesFile.IsTyped := by
  refine ⟨rfl, fun v muted => ?_⟩
  cases muted

/-- The end of one list of columns and the beginning of the other are taken for a third column. -/
theorem indexes_keep_unnamed :
    (∃ t', (addressesFile.provider.indexes (.text "ADDRESS") (.text "city zip")).Returns
      { source := {} } [zipIndex.index] t') ∧ ¬zipIndex.Names "city zip" := by
  have returned := exists_returns_indexes (t := { source := {} }) isTyped_addressesFile rfl rfl
    (.text "ADDRESS") "city zip"
  have kept : ([zipIndex, codeIndex].filter (·.mentions true "city zip")).map (·.index) =
      [zipIndex.index] := by decide +kernel
  refine ⟨kept ▸ returned, ?_⟩
  rw [IndexRow.names_iff_holdsWord (by decide) (by decide) (by decide +kernel)]
  decide +kernel

theorem indexes_kept_city :
    (∃ t', (addressesFile.provider.indexes (.text "ADDRESS") (.text "City")).Returns
      { source := {} } [zipIndex.index] t') ∧
      zipIndex.Names "City" ∧ ¬codeIndex.Names "City" := by
  have ascii : ∀ r ∈ [zipIndex, codeIndex], r.IsAscii := by decide +kernel
  obtain ⟨returned, kept⟩ := indexes_kept_iff (t := { source := {} }) isTyped_addressesFile rfl rfl
    rfl (show "City" ≠ "" by decide) (by decide) ascii (.text "ADDRESS")
  have listed : ([zipIndex, codeIndex].filter (·.mentions true "City")).map (·.index) =
      [zipIndex.index] := by decide +kernel
  refine ⟨listed ▸ returned, ?_, ?_⟩
  · exact ((kept zipIndex (by simp)).2 (by decide)).1 (by decide +kernel)
  · intro names
    exact absurd (((kept codeIndex (by simp)).2 (by decide)).2 names) (by decide +kernel)

end Database

end SchemaDrift
