import SchemaDrift.Proofs.Text.LowerCase
import SchemaDrift.Text.Search

/-!
# Words on their own

In texts of ASCII the search for a word finds it exactly where it stands on its own, in any case
(`holdsWord_iff`). Of two texts with a blank between them either has the word or, if the word has a
blank itself, it may stand across the joint (`standsIn_joined_iff`).
-/

namespace SchemaDrift.Text

def IsAscii (cs : List Char) : Prop := ∀ c ∈ cs, c.toNat < 128

instance (cs : List Char) : Decidable (IsAscii cs) :=
  show Decidable (∀ c ∈ cs, c.toNat < 128) from List.decidableBAll _ cs

/-- The two texts differ at most in the case of letters. -/
def SameLetters (found word : List Char) : Prop := found.map Char.toLower = word.map Char.toLower

/-- No word touches what follows the text. -/
def EndsFree (front : List Char) : Prop := ∀ c ∈ front.getLast?, isWordChar c = false

/-- No word touches what stands in front of the text. -/
def BeginsFree (behind : List Char) : Prop := ∀ c ∈ behind.head?, isWordChar c = false

/-- A word stands on its own somewhere in a text, in any case. -/
def StandsIn (word text : List Char) : Prop :=
  ∃ front found behind, text = front ++ found ++ behind ∧ SameLetters found word ∧
    EndsFree front ∧ BeginsFree behind

/-- A word stands on its own across a blank between two texts. -/
def StandsAcross (word before after : List Char) : Prop :=
  ∃ u v, word = u ++ ' ' :: v ∧
    (∃ front found, before = front ++ found ∧ SameLetters found u ∧ EndsFree front) ∧
    ∃ found behind, after = found ++ behind ∧ SameLetters found v ∧ BeginsFree behind

variable {word text rest front behind cs ds : List Char} {c : Char}

theorem isAscii_nil : IsAscii [] := List.forall_mem_nil _

theorem isAscii_cons : IsAscii (c :: cs) ↔ c.toNat < 128 ∧ IsAscii cs := List.forall_mem_cons

theorem isAscii_append : IsAscii (cs ++ ds) ↔ IsAscii cs ∧ IsAscii ds := List.forall_mem_append

theorem folded_of_ascii (ascii : c.toNat < 128) : folded c = c.toLower := by
  have all : ∀ n < 128, folded (Char.ofNat n) = (Char.ofNat n).toLower := by decide +kernel
  have here := all c.toNat ascii
  rwa [Char.ofNat_toNat] at here

theorem isWordLetter_of_ascii (ascii : c.toNat < 128) : isWordLetter c = isWordChar c := by
  rw [isWordLetter, folded_of_ascii ascii]
  exact eq_toLower_of_capitals (by decide) c

theorem sameLetters_cons_iff {w : Char} {found ws : List Char} :
    SameLetters found (w :: ws) ↔
      ∃ c cs, found = c :: cs ∧ c.toLower = w.toLower ∧ SameLetters cs ws := List.map_eq_cons_iff

theorem afterWord_eq_some_iff (asciiWord : IsAscii word) (ascii : IsAscii text) :
    afterWord word text = some rest ↔ ∃ found, text = found ++ rest ∧ SameLetters found word := by
  induction word generalizing text with
  | nil =>
    rw [afterWord, Option.some.injEq]
    constructor
    · rintro rfl
      exact ⟨[], rfl, rfl⟩
    · rintro ⟨found, rfl, same⟩
      rw [List.map_eq_nil_iff.1 same, List.nil_append]
  | cons w ws ih =>
    obtain ⟨asciiHead, asciiWord⟩ := isAscii_cons.1 asciiWord
    cases text with
    | nil =>
      constructor
      · intro h
        cases h
      · rintro ⟨found, whole, same⟩
        obtain ⟨c, cs, rfl, -⟩ := sameLetters_cons_iff.1 same
        cases whole
    | cons c cs =>
      obtain ⟨asciiFirst, ascii⟩ := isAscii_cons.1 ascii
      rw [afterWord, folded_of_ascii asciiHead, folded_of_ascii asciiFirst]
      constructor
      · intro h
        split at h
        · next first =>
          obtain ⟨found, rfl, same⟩ := (ih asciiWord ascii).1 h
          exact ⟨c :: found, rfl, sameLetters_cons_iff.2 ⟨c, found, rfl, first.symm, same⟩⟩
        · cases h
      · rintro ⟨_, whole, same⟩
        obtain ⟨_, found, rfl, first, others⟩ := sameLetters_cons_iff.1 same
        cases whole
        rw [if_pos first.symm]
        exact (ih asciiWord ascii).2 ⟨found, rfl, others⟩

theorem atBoundary_iff (ascii : IsAscii text) : atBoundary text = true ↔ BeginsFree text := by
  cases text with
  | nil => simp [atBoundary, BeginsFree]
  | cons c cs =>
    rw [atBoundary, isWordLetter_of_ascii (isAscii_cons.1 ascii).1]
    simp [BeginsFree]

/-- A word stands on its own at the front of a text. -/
def Begins (word text : List Char) : Prop :=
  ∃ found behind, text = found ++ behind ∧ SameLetters found word ∧ BeginsFree behind

theorem beginsWithWord_iff (asciiWord : IsAscii word) (ascii : IsAscii text) :
    beginsWithWord word text = true ↔ Begins word text := by
  rw [beginsWithWord]
  constructor
  · intro h
    split at h
    · next rest after =>
      obtain ⟨found, rfl, same⟩ := (afterWord_eq_some_iff asciiWord ascii).1 after
      exact ⟨found, rest, rfl, same, (atBoundary_iff (isAscii_append.1 ascii).2).1 h⟩
    · cases h
  · rintro ⟨found, behind, rfl, same, free⟩
    rw [(afterWord_eq_some_iff asciiWord ascii).2 ⟨found, rfl, same⟩]
    exact (atBoundary_iff (isAscii_append.1 ascii).2).2 free

/-- No word touches what follows the text; `free` says so where there is no text. -/
def EndsFreeFrom (free : Bool) (front : List Char) : Prop :=
  (front.getLast?.elim free fun c => !isWordChar c) = true

theorem endsFreeFrom_cons (free : Bool) (c : Char) (front : List Char) :
    EndsFreeFrom free (c :: front) ↔ EndsFreeFrom (!isWordChar c) front := by
  rw [EndsFreeFrom, EndsFreeFrom, List.getLast?_cons]
  cases front.getLast? <;> rfl

theorem endsFreeFrom_true : EndsFreeFrom true front ↔ EndsFree front := by
  rw [EndsFreeFrom, EndsFree]
  cases front.getLast? <;> simp

/-- The search goes on behind a character as if the text began there, free if the character is. -/
theorem holdsWordFrom_iff (asciiWord : IsAscii word) (ascii : IsAscii text) (free : Bool) :
    holdsWordFrom word free text = true ↔
      ∃ front rest, text = front ++ rest ∧ EndsFreeFrom free front ∧ Begins word rest := by
  induction text generalizing free with
  | nil =>
    rw [holdsWordFrom, Bool.and_eq_true, beginsWithWord_iff asciiWord ascii]
    constructor
    · rintro ⟨free, begins⟩
      exact ⟨[], [], rfl, free, begins⟩
    · rintro ⟨front, rest, whole, free, begins⟩
      obtain ⟨rfl, rfl⟩ := List.append_eq_nil_iff.1 whole.symm
      exact ⟨free, begins⟩
  | cons c cs ih =>
    obtain ⟨asciiFirst, asciiRest⟩ := isAscii_cons.1 ascii
    rw [holdsWordFrom, Bool.or_eq_true, Bool.and_eq_true, beginsWithWord_iff asciiWord ascii,
      ih asciiRest, isWordLetter_of_ascii asciiFirst]
    constructor
    · rintro (⟨free, begins⟩ | ⟨front, rest, rfl, free, begins⟩)
      · exact ⟨[], c :: cs, rfl, free, begins⟩
      · exact ⟨c :: front, rest, rfl, (endsFreeFrom_cons _ c front).2 free, begins⟩
    · rintro ⟨front, rest, whole, free, begins⟩
      cases front with
      | nil =>
        obtain rfl := whole
        exact .inl ⟨free, begins⟩
      | cons c' front =>
        cases whole
        exact .inr ⟨front, rest, rfl, (endsFreeFrom_cons _ c front).1 free, begins⟩

theorem holdsWord_iff {word text : String} (asciiWord : IsAscii word.toList)
    (ascii : IsAscii text.toList) :
    holdsWord word text = true ↔ StandsIn word.toList text.toList := by
  rw [holdsWord, holdsWordFrom_iff asciiWord ascii]
  constructor
  · rintro ⟨front, rest, whole, free, found, behind, rfl, same, freeBehind⟩
    refine ⟨front, found, behind, ?_, same, endsFreeFrom_true.1 free, freeBehind⟩
    rw [whole, List.append_assoc]
  · rintro ⟨front, found, behind, whole, same, free, freeBehind⟩
    refine ⟨front, found ++ behind, ?_, endsFreeFrom_true.2 free, found, behind, rfl, same,
      freeBehind⟩
    rw [whole, List.append_assoc]

theorem endsFree_joined : EndsFree (cs ++ ' ' :: front) ↔ EndsFree front := by
  rw [EndsFree, EndsFree, List.getLast?_append, List.getLast?_cons]
  cases front.getLast? with
  | none => simp [isWordChar]
  | some c => simp

theorem beginsFree_joined : BeginsFree (behind ++ ' ' :: cs) ↔ BeginsFree behind := by
  cases behind with
  | nil => simp [BeginsFree, isWordChar]
  | cons c cs => rfl

theorem eq_blank_of_toLower (h : c.toLower = ' ') : c = ' ' := by
  rcases toLower_eq_or c with same | ⟨n, hn, rfl⟩
  · rw [← same, h]
  · have letters : ∀ n < 26, (Char.ofNat (65 + n)).toLower ≠ ' ' := by decide
    exact absurd h (letters n hn)

theorem exists_split_of_sameLetters {u v : List Char} (h : SameLetters (u ++ ' ' :: v) word) :
    ∃ u' v', word = u' ++ ' ' :: v' ∧ SameLetters u u' ∧ SameLetters v v' := by
  rw [SameLetters, List.map_append, List.map_cons] at h
  obtain ⟨u', rest, rfl, hu, hrest⟩ := List.map_eq_append_iff.1 h.symm
  obtain ⟨c, v', rfl, blank, hv⟩ := List.map_eq_cons_iff.1 hrest
  obtain rfl := eq_blank_of_toLower blank
  exact ⟨u', v', rfl, hu.symm, hv.symm⟩

theorem sameLetters_joined {u v u' v' : List Char} (hu : SameLetters u u')
    (hv : SameLetters v v') : SameLetters (u ++ ' ' :: v) (u' ++ ' ' :: v') := by
  rw [SameLetters, List.map_append, List.map_append, hu, List.map_cons, List.map_cons, hv]

theorem standsIn_joined_iff {before after : List Char} :
    StandsIn word (before ++ ' ' :: after) ↔
      StandsIn word before ∨ StandsIn word after ∨ StandsAcross word before after := by
  constructor
  · rintro ⟨front, found, behind, whole, same, free, freeBehind⟩
    rcases List.append_eq_append_iff.1 whole with ⟨middle, left, right⟩ | ⟨cs, rfl, rfl⟩
    · -- the blank stands in front of the end of what was found, or right behind it
      cases middle with
      | nil =>
        obtain rfl : before = front ++ found := by simpa using left.symm
        exact .inl ⟨front, found, [], by simp, same, free, by simp [BeginsFree]⟩
      | cons c middle =>
        cases right
        rcases List.append_eq_append_iff.1 left with ⟨found', rfl, rfl⟩ | ⟨front', rfl, right⟩
        · obtain ⟨u, v, rfl, hu, hv⟩ := exists_split_of_sameLetters same
          exact .inr (.inr ⟨u, v, rfl, ⟨front, found', rfl, hu, free⟩, middle, behind, rfl, hv,
            freeBehind⟩)
        · cases front' with
          | nil =>
            obtain rfl : found = ' ' :: middle := right.symm
            obtain ⟨u, v, rfl, hu, hv⟩ := exists_split_of_sameLetters (u := []) same
            rw [List.append_nil] at free
            exact .inr (.inr ⟨u, v, rfl, ⟨before, [], (List.append_nil _).symm, hu, free⟩, middle,
              behind, rfl, hv, freeBehind⟩)
          | cons c front' =>
            cases right
            exact .inr (.inl ⟨front', found, behind, rfl, same, endsFree_joined.1 free,
              freeBehind⟩)
    · exact .inl ⟨front, found, cs, rfl, same, free, beginsFree_joined.1 freeBehind⟩
  · rintro (⟨front, found, behind, rfl, same, free, freeBehind⟩ |
      ⟨front, found, behind, rfl, same, free, freeBehind⟩ |
      ⟨u, v, rfl, ⟨front, found, rfl, sameLeft, free⟩, found', behind, rfl, sameRight, freeBehind⟩)
    · exact ⟨front, found, behind ++ ' ' :: after, by simp, same, free,
        beginsFree_joined.2 freeBehind⟩
    · exact ⟨before ++ ' ' :: front, found, behind, by simp, same, endsFree_joined.2 free,
        freeBehind⟩
    · exact ⟨front, found ++ ' ' :: found', behind, by simp, sameLetters_joined sameLeft sameRight,
        free, freeBehind⟩

theorem blank_mem_of_standsAcross {before after : List Char} (h : StandsAcross word before after) :
    ' ' ∈ word := by
  obtain ⟨u, v, rfl, -⟩ := h
  simp

theorem not_standsIn_nil (named : word ≠ []) : ¬StandsIn word [] := by
  rintro ⟨front, found, behind, whole, same, -⟩
  have nothing : found = [] := by simp_all
  subst nothing
  exact named (List.map_eq_nil_iff.1 same.symm)

end SchemaDrift.Text
