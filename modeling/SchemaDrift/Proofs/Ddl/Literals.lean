import SchemaDrift.Ddl.Composer
import SchemaDrift.Proofs.Text.QuotedParts

/-!
# Names inside literals

A literal of a statement runs from an apostrophe to the next one that is not written twice. Three
statements write names into literals. Read by this rule they have as many literals as they are
meant to have, with the names in upper case as their values, whatever the names are
(`names_stay_in_literals`).
-/

namespace SchemaDrift

namespace Text

/-- The parts of a text, what stands outside literals and the values of the literals in turn. -/
def literalParts (s : String) : Option (List String) :=
  (cut '\'' '\'' false s.toList).map fun parts => parts.map String.ofList

theorem literalParts_plain {s : String} (h : '\'' ∉ s.toList) : literalParts s = some [s] := by
  rw [literalParts, cut_plain h, Option.map_some, List.map_singleton, String.ofList_toList]

theorem literalParts_literal {front rest : String} (before : '\'' ∉ front.toList)
    (behind : rest.toList.head? ≠ some '\'') (v : String) :
    literalParts (front ++ ("'" ++ (literalBody v ++ ("'" ++ rest)))) =
      (literalParts rest).map fun parts => front :: v :: parts := by
  have whole : (front ++ ("'" ++ (literalBody v ++ ("'" ++ rest)))).toList =
      front.toList ++ '\'' :: (doubled ['\''] 0 v.toList ++ '\'' :: rest.toList) := by
    simp [literalBody]
  rw [literalParts, whole, cut_quoted before behind, literalParts, Option.map_map, Option.map_map]
  congr 1
  funext parts
  simp only [Function.comp_apply, List.map_cons, String.ofList_toList]

theorem literalBody_append (s t : String) :
    literalBody (s ++ t) = literalBody s ++ literalBody t := by
  simp only [literalBody, doubled_singleton, String.toList_append, List.flatMap_append,
    String.ofList_append]

end Text

namespace Composer

variable {b : Composer}

theorem literalParts_ending {mark : String} (h : '\'' ∉ mark.toList) {line : String}
    (plain : '\'' ∉ line.toList) :
    Text.literalParts (" " ++ (mark ++ line)) = some [" " ++ (mark ++ line)] := by
  apply Text.literalParts_plain
  simp only [String.toList_append, List.mem_append, not_or]
  exact ⟨by decide, h, plain⟩

/--
Renaming a table takes two literals, renaming a column three, asking for a sequence one; their
values are the names in upper case, and what stands outside does not depend on the names.
-/
theorem names_stay_in_literals (delimiter : '\'' ∉ b.catalog.delimiter.display.toList)
    (terminator : '\'' ∉ b.catalog.sequenceTerminator.display.toList) :
    (∀ old new, Text.literalParts (b.renameTable old new).text =
      some ["sp_rename ", Text.upper old, ", ", Text.upper new,
        " " ++ (b.catalog.delimiter.display ++ "\n")]) ∧
    (∀ table old new, Text.literalParts (b.renameColumn table old new).text =
      some ["exec sp_rename ", Text.upper table ++ "." ++ Text.upper old, ", ", Text.upper new, ", ",
        "COLUMN", " " ++ (b.catalog.delimiter.display ++ "\n")]) ∧
    ∀ name, Text.literalParts (b.findSequence name).text =
      some ["select * from INFORMATION_SCHEMA.TABLES where TABLE_NAME = ", Text.upper name,
        " " ++ b.catalog.sequenceTerminator.display] := by
  have apart : "', '" = "'" ++ (", " ++ "'") := rfl
  refine ⟨?_, ?_, ?_⟩
  · intro old new
    show Text.literalParts ("sp_rename '" ++ Text.literalBody (Text.upper old) ++ "', '" ++
      Text.literalBody (Text.upper new) ++ "'" ++ " " ++ b.catalog.delimiter.display ++ "\n") = _
    rw [show "sp_rename '" = "sp_rename " ++ "'" from rfl, apart]
    simp only [String.append_assoc]
    rw [Text.literalParts_literal (by decide) (by simp), Text.literalParts_literal (by decide) (by simp),
      literalParts_ending delimiter (by decide)]
    rfl
  · intro table old new
    show Text.literalParts ("exec sp_rename '" ++ Text.literalBody (Text.upper table) ++ "." ++
      Text.literalBody (Text.upper old) ++ "', '" ++ Text.literalBody (Text.upper new) ++
      "', 'COLUMN'" ++ " " ++ b.catalog.delimiter.display ++ "\n") = _
    have joined (rest : String) : Text.literalBody (Text.upper table) ++
        ("." ++ (Text.literalBody (Text.upper old) ++ rest)) =
          Text.literalBody (Text.upper table ++ ("." ++ Text.upper old)) ++ rest := by
      rw [Text.literalBody_append, Text.literalBody_append, String.append_assoc, String.append_assoc]
      rfl
    have kind : "', 'COLUMN'" =
        "'" ++ (", " ++ ("'" ++ (Text.literalBody "COLUMN" ++ "'"))) := by decide +kernel
    rw [show "exec sp_rename '" = "exec sp_rename " ++ "'" from rfl, apart, kind]
    simp only [String.append_assoc]
    rw [joined, Text.literalParts_literal (by decide) (by simp),
      Text.literalParts_literal (by decide) (by simp),
      Text.literalParts_literal (by decide) (by simp), literalParts_ending delimiter (by decide)]
    rfl
  · intro name
    show Text.literalParts ("select * from INFORMATION_SCHEMA.TABLES where TABLE_NAME = '" ++
      Text.literalBody (Text.upper name) ++ "'" ++ " " ++
      b.catalog.sequenceTerminator.display ++ "") = _
    rw [show "select * from INFORMATION_SCHEMA.TABLES where TABLE_NAME = '" =
      "select * from INFORMATION_SCHEMA.TABLES where TABLE_NAME = " ++ "'" from rfl]
    simp only [String.append_assoc]
    rw [Text.literalParts_literal (by decide) (by simp), literalParts_ending terminator (by decide),
      String.append_empty]
    rfl

theorem names_stay_in_literals_access :
    '\'' ∉ (ofConfig .access default).catalog.delimiter.display.toList ∧
      '\'' ∉ (ofConfig .access default).catalog.sequenceTerminator.display.toList ∧
      Text.literalParts ((ofConfig .access default).renameColumn "t'" "'o" "n''").text =
        some ["exec sp_rename ", "T'.'O", ", ", "N''", ", ", "COLUMN", " ^\n"] := by
  have delimiter : '\'' ∉ (ofConfig .access default).catalog.delimiter.display.toList := by
    decide +kernel
  have terminator : '\'' ∉ (ofConfig .access default).catalog.sequenceTerminator.display.toList := by
    decide +kernel
  obtain ⟨-, columns, -⟩ := names_stay_in_literals delimiter terminator
  refine ⟨delimiter, terminator, ?_⟩
  rw [columns]
  decide +kernel

end Composer

end SchemaDrift
