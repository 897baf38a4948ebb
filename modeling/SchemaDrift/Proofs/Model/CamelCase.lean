import SchemaDrift.Model.Attribute
import SchemaDrift.Proofs.Text.UpperCase
import SchemaDrift.Proofs.Text.Words

/-!
# Columns of names in camel case

The column of an attribute is derived from its name: an underscore is put in front of each capital
behind the first character, and all letters become capitals. A name in camel case can be read back
from its column, so different names have different columns (`derivedColumn_invertible`).

A reference has the column of its name with `Id` behind it (`columnOfName_eq`), so that columns are
the same exactly if they spell the same name (`columnOfName_eq_iff`).
-/

namespace SchemaDrift

namespace Text

variable {c : Char} {cs : List Char} {s : String}

theorem ascii_of_isAlphanum (h : c.isAlphanum = true) : c.toNat < 128 := by
  rcases Bool.or_eq_true_iff.1 h with letter | digit
  · rcases Bool.or_eq_true_iff.1 letter with capital | small
    · exact Nat.lt_of_le_of_lt (isUpper_iff.1 capital).2 (by decide)
    · exact Nat.lt_of_le_of_lt (isLower_iff.1 small).2 (by decide)
  · exact Nat.lt_of_le_of_lt (Char.isDigit_iff_toNat.1 digit).2 (by decide)

theorem upperChars_of_ascii (ascii : IsAscii cs) : upperChars cs = cs.map Char.toUpper := by
  induction cs with
  | nil => rfl
  | cons c cs ih =>
    obtain ⟨first, rest⟩ := isAscii_cons.1 ascii
    rw [upperChars_cons, upperChar, if_pos first, ih rest]
    rfl

theorem lowerFrom_of_ascii (before : List Char) (ascii : IsAscii cs) :
    lowerFrom before cs = cs.map Char.toLower := by
  induction cs generalizing before with
  | nil => rfl
  | cons c cs ih =>
    obtain ⟨first, rest⟩ := isAscii_cons.1 ascii
    have noSigma : c ≠ 'Σ' := by
      rintro rfl
      exact absurd first (by decide)
    rw [lowerFrom, if_neg noSigma, lowerChar, if_pos first, ih _ rest]
    rfl

theorem toLower_toUpper (c : Char) : c.toUpper.toLower = c.toLower := by
  apply Char.toNat_inj.1
  by_cases small : 97 ≤ c.toNat ∧ c.toNat ≤ 122
  · rw [toNat_toLower, toNat_toUpper, if_pos small, if_pos (by omega), toNat_toLower,
      if_neg (by omega)]
    omega
  · rw [toNat_toLower, toNat_toLower, toNat_toUpper, if_neg small]

theorem upper_alike (ascii : IsAscii s.toList) : AsciiAlike (upper s) s := by
  rw [AsciiAlike, toList_upper, upperChars_of_ascii ascii, List.map_map]
  exact List.map_congr_left fun c _ => toLower_toUpper c

theorem toList_lower_upper (ascii : IsAscii s.toList) :
    (lower (upper s)).toList = s.toList.map Char.toLower := by
  rw [(upper_alike ascii).lower_eq, toList_lower, lowerChars, lowerFrom_of_ascii [] ascii]

end Text

namespace Field

open Text

variable {c d : Char} {cs ds : List Char} {n m name : String}

/-- A small letter, and behind it letters and digits, all of ASCII. -/
def IsCamelCase : List Char → Prop
  | [] => False
  | first :: rest => first.isLower = true ∧ ∀ c ∈ rest, c.isAlphanum = true

instance : DecidablePred IsCamelCase
  | [] => isFalse id
  | first :: rest =>
    decidable_of_iff ((first.isLower && rest.all Char.isAlphanum) = true) (by simp [IsCamelCase])

theorem IsCamelCase.isAlphanum (h : IsCamelCase cs) : ∀ c ∈ cs, c.isAlphanum = true := by
  cases cs with
  | nil => cases h
  | cons first rest =>
    have letter : first.isAlphanum = true :=
      Bool.or_eq_true_iff.2 (.inl (Bool.or_eq_true_iff.2 (.inr h.1)))
    exact List.forall_mem_cons.2 ⟨letter, h.2⟩

theorem IsCamelCase.append (h : IsCamelCase cs) (more : ∀ c ∈ ds, c.isAlphanum = true) :
    IsCamelCase (cs ++ ds) := by
  cases cs with
  | nil => cases h
  | cons first rest => exact ⟨h.1, List.forall_mem_append.2 ⟨h.2, more⟩⟩

/-- A character behind the first one, set apart from the word in front if it begins another one. -/
def setApart (c : Char) : List Char := if c.isUpper then ['_', c] else [c]

theorem eq_or_eq_of_mem_setApart (h : d ∈ setApart c) : d = '_' ∨ d = c := by
  rw [setApart] at h
  split at h
  · simpa using h
  · exact .inr (List.mem_singleton.1 h)

theorem separateWords_cons (c : Char) (cs : List Char) :
    separateWords (c :: cs) = c :: cs.flatMap setApart := rfl

theorem separateWords_append (nonempty : cs ≠ []) (ds : List Char) :
    separateWords (cs ++ ds) = separateWords cs ++ ds.flatMap setApart := by
  cases cs with
  | nil => exact absurd rfl nonempty
  | cons c cs =>
    rw [List.cons_append, separateWords_cons, separateWords_cons, List.flatMap_append]
    rfl

/-- Words run together: an underscore and the letter behind it are that letter as a capital. -/
def joinWords : List Char → List Char
  | [] => []
  | [c] => [c]
  | c :: d :: rest =>
    if c = '_' ∧ d.isAlpha = true then d.toUpper :: joinWords rest else c :: joinWords (d :: rest)

theorem joinWords_underscore (letter : c.isAlpha = true) (rest : List Char) :
    joinWords ('_' :: c :: rest) = c.toUpper :: joinWords rest := by
  rw [joinWords, if_pos ⟨rfl, letter⟩]

theorem joinWords_cons (h : c ≠ '_') (rest : List Char) :
    joinWords (c :: rest) = c :: joinWords rest := by
  cases rest with
  | nil => rfl
  | cons d rest => rw [joinWords, if_neg fun both => h both.1]

theorem ne_underscore_of_isAlphanum (h : c.isAlphanum = true) : c ≠ '_' := by
  rintro rfl
  exact absurd h (by decide)

/-- What one character of a name contributes in small letters is read back as that character. -/
theorem joinWords_setApart (h : c.isAlphanum = true) (rest : List Char) :
    joinWords ((setApart c).map Char.toLower ++ rest) = c :: joinWords rest := by
  by_cases capital : c.isUpper = true
  · have letter : c.toLower.isAlpha = true := by
      rw [eq_toLower_of_capitals (f := Char.isAlpha) (by decide)]
      exact Bool.or_eq_true_iff.2 (.inl capital)
    have back : c.toLower.toUpper = c := by
      have bounds := isUpper_iff.1 capital
      apply Char.toNat_inj.1
      rw [toNat_toUpper, toNat_toLower, if_pos bounds, if_pos (by omega)]
      omega
    have apart : (setApart c).map Char.toLower = ['_', c.toLower] := by
      rw [setApart, if_pos capital]
      rfl
    rw [apart, List.cons_append, List.singleton_append, joinWords_underscore letter, back]
  · have same : c.toLower = c := toLower_of_not_capital (mt isUpper_iff.2 capital)
    have alone : (setApart c).map Char.toLower = [c] := by
      rw [setApart, if_neg capital, List.map_singleton, same]
    rw [alone, List.singleton_append, joinWords_cons (ne_underscore_of_isAlphanum h)]

theorem joinWords_flatMap_setApart (h : ∀ c ∈ cs, c.isAlphanum = true) :
    joinWords ((cs.flatMap setApart).map Char.toLower) = cs := by
  induction cs with
  | nil => rfl
  | cons c cs ih =>
    obtain ⟨first, rest⟩ := List.forall_mem_cons.1 h
    rw [List.flatMap_cons, List.map_append, joinWords_setApart first, ih rest]

theorem joinWords_separateWords (camel : IsCamelCase cs) :
    joinWords ((separateWords cs).map Char.toLower) = cs := by
  cases cs with
  | nil => cases camel
  | cons first rest =>
    have alphanum : first.isAlphanum = true := camel.isAlphanum first (List.mem_cons_self ..)
    -- the first character stands without an underscore, so it must not be a capital
    have same : first.toLower = first := by
      have bounds := isLower_iff.1 camel.1
      apply toLower_of_not_capital
      omega
    rw [separateWords_cons, List.map_cons, same,
      joinWords_cons (ne_underscore_of_isAlphanum alphanum), joinWords_flatMap_setApart camel.2]

/-- The name that a column is read as: in lower case, with its words run together. -/
def nameOfColumn (column : String) : String := String.ofList (joinWords (lower column).toList)

theorem isAscii_separateWords (h : ∀ c ∈ cs, c.isAlphanum = true) : IsAscii (separateWords cs) := by
  cases cs with
  | nil => exact isAscii_nil
  | cons first rest =>
    obtain ⟨head, tail⟩ := List.forall_mem_cons.1 h
    refine isAscii_cons.2 ⟨ascii_of_isAlphanum head, ?_⟩
    intro d hd
    obtain ⟨c, hc, hd⟩ := List.mem_flatMap.1 hd
    rcases eq_or_eq_of_mem_setApart hd with rfl | rfl
    · decide
    · exact ascii_of_isAlphanum (tail d hc)

theorem nameOfColumn_derivedColumn (camel : IsCamelCase name.toList) :
    nameOfColumn (derivedColumn name) = name := by
  have ascii : IsAscii (String.ofList (separateWords name.toList)).toList := by
    rw [String.toList_ofList]
    exact isAscii_separateWords camel.isAlphanum
  rw [nameOfColumn, derivedColumn, toList_lower_upper ascii, String.toList_ofList,
    joinWords_separateWords camel, String.ofList_toList]

theorem derivedColumn_inj (hn : IsCamelCase n.toList) (hm : IsCamelCase m.toList) :
    derivedColumn n = derivedColumn m ↔ n = m := by
  refine ⟨fun same => ?_, congrArg derivedColumn⟩
  calc n = nameOfColumn (derivedColumn n) := (nameOfColumn_derivedColumn hn).symm
    _ = nameOfColumn (derivedColumn m) := by rw [same]
    _ = m := nameOfColumn_derivedColumn hm

/-- The name that a column spells: that of a reference has `Id` behind it. -/
def spelledName (isReference : Bool) (name : String) : String :=
  if isReference then name ++ "Id" else name

theorem spelledName_inj (isReference : Bool) :
    spelledName isReference n = spelledName isReference m ↔ n = m := by
  cases isReference with
  | false => rfl
  | true => simp [spelledName]

theorem isCamelCase_spelledName (isReference : Bool) (camel : IsCamelCase name.toList) :
    IsCamelCase (spelledName isReference name).toList := by
  cases isReference with
  | false => exact camel
  | true =>
    have whole : (spelledName true name).toList = name.toList ++ ['I', 'd'] := by
      simp [spelledName]
    rw [whole]
    exact camel.append (List.all_eq_true.1 (by decide))

/-- A column is derived from the name that it spells, of a reference as well. -/
theorem columnOfName_eq (named : name ≠ "") (isReference : Bool) :
    columnOfName isReference name = derivedColumn (spelledName isReference name) := by
  cases isReference with
  | false => rfl
  | true =>
    have nonempty : name.toList ≠ [] := by simpa using named
    have ending : ['I', 'd'].flatMap setApart = ['_', 'I', 'd'] := by decide
    have apart : separateWords (name ++ "Id").toList =
        separateWords name.toList ++ ['_', 'I', 'd'] := by
      rw [String.toList_append, show "Id".toList = ['I', 'd'] by decide,
        separateWords_append nonempty, ending]
    have capitals : upper (String.ofList ['_', 'I', 'd']) = "_ID" := by decide
    show derivedColumn name ++ "_ID" = derivedColumn (name ++ "Id")
    rw [derivedColumn, derivedColumn, apart, String.ofList_append, upper_append, capitals]

theorem ne_empty_of_isCamelCase (camel : IsCamelCase name.toList) : name ≠ "" := by
  rintro rfl
  exact camel

theorem columnOfName_eq_iff {forN forM : Bool} (hn : IsCamelCase n.toList)
    (hm : IsCamelCase m.toList) :
    columnOfName forN n = columnOfName forM m ↔ spelledName forN n = spelledName forM m := by
  rw [columnOfName_eq (ne_empty_of_isCamelCase hn), columnOfName_eq (ne_empty_of_isCamelCase hm),
    derivedColumn_inj (isCamelCase_spelledName forN hn) (isCamelCase_spelledName forM hm)]

/--
A name in camel case is read back from its column, so two of them have different columns, and so
have references by two of them.
-/
theorem derivedColumn_invertible :
    (∀ name, IsCamelCase name.toList → nameOfColumn (derivedColumn name) = name) ∧
      ∀ n m, IsCamelCase n.toList → IsCamelCase m.toList → n ≠ m →
        derivedColumn n ≠ derivedColumn m ∧
          ∀ isReference, columnOfName isReference n ≠ columnOfName isReference m := by
  refine ⟨fun _ => nameOfColumn_derivedColumn, fun n m hn hm differ => ⟨?_, fun isReference => ?_⟩⟩
  · exact mt (derivedColumn_inj hn hm).1 differ
  · exact mt ((columnOfName_eq_iff hn hm).trans (spelledName_inj isReference)).1 differ

/-- Capitals in a row, and digits between words, are kept apart. -/
theorem derivedColumn_invertible_htmlURL :
    IsCamelCase "htmlURL2Id".toList ∧ IsCamelCase "htmlUrl2Id".toList ∧
      derivedColumn "htmlURL2Id" = "HTML_U_R_L2_ID" ∧
      nameOfColumn (derivedColumn "htmlURL2Id") = "htmlURL2Id" ∧
      derivedColumn "htmlURL2Id" ≠ derivedColumn "htmlUrl2Id" ∧
      columnOfName true "htmlURL2Id" ≠ columnOfName true "htmlUrl2Id" := by
  have camel : IsCamelCase "htmlURL2Id".toList := by decide
  have camel' : IsCamelCase "htmlUrl2Id".toList := by decide
  obtain ⟨back, apart⟩ := derivedColumn_invertible
  obtain ⟨columns, references⟩ := apart _ _ camel camel' (by decide)
  exact ⟨camel, camel', by decide +kernel, back _ camel, columns, references true⟩

/-- Names that are not in camel case may share a column. -/
example : derivedColumn "issue_date" = derivedColumn "issueDate" := by decide +kernel

end Field

end SchemaDrift
