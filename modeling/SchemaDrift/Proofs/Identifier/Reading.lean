import SchemaDrift.Proofs.Identifier.Token
import SchemaDrift.Proofs.Text.QuotedParts

/-!
# Reading identifiers

A dialect reads as an identifier a word that is not reserved, or a single quoted part. What a
quoter writes for a name is an identifier unless the name only seems to be quoted, or ends its line
(`isIdentifier_normalize_iff`). With marks for quotes the name is read back in upper case, so that
no two names are written alike that differ in upper case (`normalize_reads_back`).
-/

namespace SchemaDrift.Quoter

variable {q : Quoter} {o k : Char}

/-- Whether a text is a single identifier: a word that is not reserved, or one quoted part. -/
def IsIdentifier (q : Quoter) (o k : Char) (text : String) : Prop :=
  (isWord text.toList = true ∧ q.isReserved text = false) ∨
    ∃ content, Text.cut o k false text.toList = some [[], content, []]

theorem IsPunctuated.isIdentifier_quote (hq : q.IsPunctuated o k) (name : String) :
    q.IsIdentifier o k (q.quote name) := by
  have whole := hq.toList_quote name
  exact .inr ⟨name.toList, Text.cut_eq_single_iff.2 whole⟩

/-- Inside the quotes of an identifier that is no word, closing quotes are doubled. -/
theorem isIdentifier_iff_of_quoted {text : String} {body : List Char}
    (whole : text.toList = o :: (body ++ [k])) : q.IsIdentifier o k text ↔
      (isWord text.toList = true ∧ q.isReserved text = false) ∨
        ∃ content, body = Text.doubled [k] 0 content := by
  have inside (content : List Char) : Text.cut o k false text.toList = some [[], content, []] ↔
      body = Text.doubled [k] 0 content := by
    rw [Text.cut_eq_single_iff, whole, List.cons.injEq, List.append_left_inj]
    simp
  rw [IsIdentifier]
  simp only [inside]

theorem IsPunctuated.ne_line_of_isQuoted (hq : q.IsPunctuated o k) {text : String}
    (h : q.isQuoted text = true) (word : String) : text ≠ word ++ "\n" := by
  rintro rfl
  obtain ⟨body, whole⟩ := hq.isQuoted_iff.1 h
  have last : '\n' = k := by
    have ends : word.toList ++ ['\n'] = (o :: body) ++ [k] := String.toList_append.symm.trans whole
    exact List.singleton_inj.1 (List.append_inj' ends rfl).2
  have closing := (isPunctuation_bounds hq.punctuation_closing).1
  rw [← last] at closing
  exact absurd closing (by decide)

theorem IsPunctuated.not_isIdentifier_line (hq : q.IsPunctuated o k) (word : String) :
    ¬q.IsIdentifier o k (word ++ "\n") := by
  rintro (⟨plain, -⟩ | ⟨content, quoted⟩)
  · have feed : '\n' ∈ (word ++ "\n").toList := by
      rw [String.toList_append]
      exact List.mem_append_right _ (List.mem_singleton.2 rfl)
    exact absurd (isWordChar_of_mem_isWord plain feed) (by decide)
  · have whole := Text.cut_eq_single_iff.1 quoted
    exact hq.ne_line_of_isQuoted (hq.isQuoted_iff.2 ⟨_, whole⟩) word rfl

theorem isWordLine_toList_iff {text : String} : isWordLine text.toList = true ↔
    isWord text.toList = true ∨ ∃ word, text = word ++ "\n" ∧ isWord word.toList = true := by
  rw [isWordLine_iff]
  apply or_congr Iff.rfl
  constructor
  · rintro ⟨word, whole, plain⟩
    refine ⟨String.ofList word, ?_, by rwa [String.toList_ofList]⟩
    rw [← String.toList_inj, whole, String.toList_append, String.toList_ofList]
    rfl
  · rintro ⟨word, rfl, plain⟩
    exact ⟨word.toList, String.toList_append, plain⟩

/-- A text that is not quoted, in quotes where it needs them, is an identifier but for its end. -/
theorem IsPunctuated.isIdentifier_quoteIfNeeded_iff (hq : q.IsPunctuated o k) {text : String}
    (unquoted : q.isQuoted text = false) : q.IsIdentifier o k (q.quoteIfNeeded text) ↔
      ∀ word, text = word ++ "\n" → isWord word.toList = true → q.isReserved text = true := by
  rw [quoteIfNeeded, needsQuoting, unquoted, Bool.not_false, Bool.true_and]
  by_cases safe : q.isSafe text = true
  · rw [safe, if_neg (by simp)]
    rw [isSafe, Bool.and_eq_true, Bool.not_eq_true', isWordLine_toList_iff] at safe
    obtain ⟨line, free⟩ := safe
    constructor
    · rintro identifier word rfl -
      exact absurd identifier (hq.not_isIdentifier_line word)
    · intro reserved
      rcases line with plain | ⟨word, hword, plain⟩
      · exact .inl ⟨plain, free⟩
      · rw [reserved word hword plain] at free
        cases free
  · rw [Bool.eq_false_iff.2 safe, if_pos (by simp)]
    refine iff_of_true (hq.isIdentifier_quote text) ?_
    intro word hword plain
    by_contra free
    rw [Bool.not_eq_true] at free
    apply safe
    rw [isSafe, isWordLine_toList_iff.2 (.inr ⟨word, hword, plain⟩), free]
    rfl

/--
What is written for a name is a single identifier, except for two sorts of names. One begins and
ends like a quoted name but holds a closing quote that is not doubled. The other is in upper case
a word with a line feed behind it.
-/
theorem isIdentifier_normalize_iff (hq : q.IsPunctuated o k) (name : String) :
    q.IsIdentifier o k (q.normalize name) ↔
      (∀ body, name.toList = o :: (body ++ [k]) →
        (isWord name.toList = true ∧ q.isReserved name = false) ∨
          ∃ content, body = Text.doubled [k] 0 content) ∧
      ∀ word, Text.upper name = word ++ "\n" → isWord word.toList = true →
        q.isReserved (Text.upper name) = true := by
  -- A name that looks quoted is kept, so the second condition is void; for others the first one is.
  by_cases quoted : q.isQuoted name = true
  · obtain ⟨body, whole⟩ := hq.isQuoted_iff.1 quoted
    rw [normalize_of_isQuoted quoted, isIdentifier_iff_of_quoted whole]
    constructor
    · intro identifier
      refine ⟨?_, ?_⟩
      · intro body' whole'
        have same : body' = body := by
          rw [whole, List.cons.injEq, List.append_left_inj] at whole'
          exact whole'.2.symm
        rwa [same]
      · intro word line
        exact absurd line (hq.ne_line_of_isQuoted (by rw [hq.isQuoted_upper, quoted]) word)
    · intro conditions
      exact conditions.1 body whole
  · have unquoted := Bool.eq_false_iff.2 quoted
    rw [normalize_of_not_isQuoted unquoted,
      hq.isIdentifier_quoteIfNeeded_iff (by rw [hq.isQuoted_upper, unquoted])]
    constructor
    · intro reserved
      refine ⟨?_, reserved⟩
      intro body whole
      exact absurd (hq.isQuoted_iff.2 ⟨body, whole⟩) quoted
    · intro conditions
      exact conditions.2

/-- A dialect with brackets for quotes and one reserved word. -/
def bracketed : Quoter where
  reserved := ["USER"]
  opening := "["
  closing := "]"

theorem bracketed_isPunctuated : bracketed.IsPunctuated '[' ']' := ⟨rfl, rfl, by decide, by decide⟩

/-- A reserved word that ends its line, and a name that only seems to be quoted. -/
theorem not_isIdentifier_bracketed :
    bracketed.normalize "user\n" = "USER\n" ∧
      ¬bracketed.IsIdentifier '[' ']' (bracketed.normalize "user\n") ∧
      bracketed.normalize "[a] add [b]" = "[a] add [b]" ∧
      ¬bracketed.IsIdentifier '[' ']' (bracketed.normalize "[a] add [b]") := by
  have line : bracketed.normalize "user\n" = "USER\n" := by decide +kernel
  have kept : bracketed.normalize "[a] add [b]" = "[a] add [b]" := by decide +kernel
  refine ⟨line, ?_, kept, ?_⟩
  · rw [line]
    exact bracketed_isPunctuated.not_isIdentifier_line "USER"
  · rw [kept]
    rintro (⟨plain, -⟩ | ⟨content, single⟩)
    · exact absurd plain (by decide +kernel)
    · have parts : Text.cut '[' ']' false "[a] add [b]".toList =
          some (["", "a", " add ", "b", ""].map String.toList) := by decide +kernel
      rw [parts] at single
      cases single

theorem isIdentifier_normalize_bracketed :
    bracketed.IsPunctuated '[' ']' ∧ bracketed.normalize "ab]c\n" = "[AB]]C\n]" ∧
      bracketed.IsIdentifier '[' ']' (bracketed.normalize "ab]c\n") := by
  refine ⟨bracketed_isPunctuated, by decide +kernel, ?_⟩
  refine (isIdentifier_normalize_iff bracketed_isPunctuated "ab]c\n").2 ⟨?_, ?_⟩
  · intro body whole
    cases whole
  · intro word line plain
    have upper : (Text.upper "ab]c\n").toList = "AB]C".toList ++ ['\n'] := by decide +kernel
    have front : word.toList = "AB]C".toList := by
      rw [line, String.toList_append] at upper
      exact (List.append_inj' upper rfl).1
    rw [front] at plain
    exact absurd plain (by decide)

/--
The name that an identifier stands for: what stands between its quotes, a doubled closing quote
read as one, or the whole identifier if nothing in it is quoted.
-/
def nameIn? (o k : Char) (text : String) : Option String :=
  match Text.cut o k false text.toList with
  | some [[], content, []] => some (String.ofList content)
  | some [word] => some (String.ofList word)
  | _ => none

theorem IsPunctuated.nameIn?_quote (hq : q.IsPunctuated o k) (name : String) :
    nameIn? o k (q.quote name) = some name := by
  have parts := Text.cut_eq_single_iff.2 (hq.toList_quote name)
  rw [nameIn?, parts]
  simp only [String.ofList_toList]

theorem nameIn?_of_isWordLine (mark : isMark o = true) {text : String}
    (h : isWordLine text.toList = true) : nameIn? o k text = some text := by
  have unmarked (word : String) (plain : isWord word.toList = true) : o ∉ word.toList := by
    intro mem
    exact isMark_ne_of_isWordChar mark (isWordChar_of_mem_isWord plain mem) rfl
  have outside : o ∉ text.toList := by
    rcases isWordLine_toList_iff.1 h with plain | ⟨word, rfl, plain⟩
    · exact unmarked text plain
    · intro mem
      rw [String.toList_append] at mem
      rcases List.mem_append.1 mem with front | feed
      · exact unmarked word plain front
      · obtain rfl := List.mem_singleton.1 feed
        exact absurd mark (by decide)
  rw [nameIn?, Text.cut_plain outside]
  simp only [String.ofList_toList]

theorem nameIn?_quoteIfNeeded (hq : q.IsMarked o k) {text : String}
    (unquoted : q.isQuoted text = false) : nameIn? o k (q.quoteIfNeeded text) = some text := by
  rw [quoteIfNeeded, needsQuoting, unquoted, Bool.not_false, Bool.true_and]
  by_cases safe : q.isSafe text = true
  · rw [safe, if_neg (by simp)]
    rw [isSafe, Bool.and_eq_true] at safe
    exact nameIn?_of_isWordLine hq.mark_opening safe.1
  · rw [Bool.eq_false_iff.2 safe, if_pos (by simp)]
    exact hq.isPunctuated.nameIn?_quote text

theorem normalize_normalize (hq : q.IsMarked o k) (name : String) :
    q.normalize (q.normalize name) = q.normalize name := by
  by_cases quoted : q.isQuoted name = true
  · have kept := normalize_of_isQuoted quoted
    rw [kept, kept]
  · have unquoted : q.isQuoted (Text.upper name) = false := by
      rw [isQuoted_upper hq, Bool.eq_false_iff.2 quoted]
    rw [normalize_of_not_isQuoted (Bool.eq_false_iff.2 quoted)]
    by_cases needs : q.needsQuoting (Text.upper name) = true
    · rw [quoteIfNeeded, if_pos needs]
      exact normalize_of_isQuoted (hq.isPunctuated.isQuoted_quote _)
    · have bare : q.quoteIfNeeded (Text.upper name) = Text.upper name := if_neg needs
      rw [bare, normalize_of_not_isQuoted unquoted, Text.upper_upper, bare]

/--
With marks for quotes, an identifier is written as it is, and the name of one that was not quoted
is read back in upper case; so two such names are written alike exactly if they agree in upper case.
-/
theorem normalize_reads_back (hq : q.IsMarked o k) :
    (∀ name, q.normalize (q.normalize name) = q.normalize name) ∧
      (∀ name, q.isQuoted name = false →
        nameIn? o k (q.normalize name) = some (Text.upper name)) ∧
      ∀ n m, q.isQuoted n = false → q.isQuoted m = false →
        (q.normalize n = q.normalize m ↔ Text.upper n = Text.upper m) := by
  have reads (name : String) (unquoted : q.isQuoted name = false) :
      nameIn? o k (q.normalize name) = some (Text.upper name) := by
    rw [normalize_of_not_isQuoted unquoted]
    exact nameIn?_quoteIfNeeded hq (by rw [isQuoted_upper hq, unquoted])
  refine ⟨normalize_normalize hq, reads, ?_⟩
  intro n m hn hm
  exact normalize_eq_iff hq hn hm

theorem bracketed_reads_back :
    bracketed.IsMarked '[' ']' ∧
      bracketed.normalize (bracketed.normalize "straße]") = bracketed.normalize "straße]" ∧
      nameIn? '[' ']' (bracketed.normalize "straße]") = some "STRASSE]" ∧
      (bracketed.normalize "straße]" = bracketed.normalize "Strasse]") := by
  have marked : bracketed.IsMarked '[' ']' := ⟨rfl, rfl, rfl, rfl, by decide, by decide⟩
  have upper : Text.upper "straße]" = "STRASSE]" := by decide +kernel
  obtain ⟨idempotent, reads, alike⟩ := normalize_reads_back marked
  refine ⟨marked, idempotent "straße]", ?_, ?_⟩
  · rw [reads "straße]" (by decide +kernel), upper]
  · rw [alike "straße]" "Strasse]" (by decide +kernel) (by decide +kernel), upper]
    decide +kernel

end SchemaDrift.Quoter
