import Mathlib.Data.List.Basic
import SchemaDrift.Catalog.Basic
import SchemaDrift.Proofs.Text.UpperCase

/-!
# Identifiers as tokens

With marks for quotes, a name is written as one token: a plain word in upper case, or a body
between the marks in which every closing mark is doubled. Reading such a token takes no more than
the token (`append_inj_of_isToken`), and two names that are not quoted already become the same
token exactly if they agree in upper case (`normalize_eq_iff`).
-/

namespace SchemaDrift

/-- Punctuation of ASCII that is no part of a word. -/
def isMark (c : Char) : Bool := 33 ≤ c.toNat && c.toNat ≤ 126 && !isWordChar c

theorem isAlphanum_of_small {c : Char} (h : 97 ≤ c.toNat ∧ c.toNat ≤ 122) : c.isAlphanum = true := by
  have alpha : c.isAlpha = true := Bool.or_eq_true_iff.2 (.inr (Text.isLower_iff.2 h))
  simp [Char.isAlphanum, alpha]

theorem isAlphanum_of_capital {c : Char} (h : 65 ≤ c.toNat ∧ c.toNat ≤ 90) : c.isAlphanum = true := by
  have alpha : c.isAlpha = true := Bool.or_eq_true_iff.2 (.inl (Text.isUpper_iff.2 h))
  simp [Char.isAlphanum, alpha]

theorem isWordChar_of_small {c : Char} (h : 97 ≤ c.toNat ∧ c.toNat ≤ 122) : isWordChar c = true := by
  rw [isWordChar, isAlphanum_of_small h, Bool.true_or]

theorem isWordChar_of_isWordStart {c : Char} (h : isWordStart c = true) : isWordChar c = true := by
  simp only [isWordStart, Bool.or_eq_true] at h
  rcases h with alpha | underscore
  · simp [isWordChar, Char.isAlphanum, alpha]
  · simp [isWordChar, underscore]

def isPunctuation (c : Char) : Bool := 33 ≤ c.toNat && c.toNat ≤ 126 && !c.isAlphanum

section Punctuation

variable {m : Char} (hm : isPunctuation m = true)

include hm

theorem isPunctuation_bounds : 33 ≤ m.toNat ∧ m.toNat ≤ 126 ∧ m.isAlphanum = false := by
  simp only [isPunctuation, Bool.and_eq_true, decide_eq_true_eq, Bool.not_eq_true'] at hm
  exact ⟨hm.1.1, hm.1.2, hm.2⟩

theorem eq_of_punctuation_mem_upperChar {c : Char} (h : m ∈ Text.upperChar c) :
    m = c ∧ Text.upperChar c = [c] := by
  obtain ⟨lo, hi, notLetter⟩ := isPunctuation_bounds hm
  apply Text.eq_of_mem_upperChar h (by omega) (by omega)
  intro capital
  rw [isAlphanum_of_capital capital] at notLetter
  cases notLetter

theorem upperChar_punctuation : Text.upperChar m = [m] := by
  obtain ⟨lo, hi, notLetter⟩ := isPunctuation_bounds hm
  have small : ¬(97 ≤ m.toNat ∧ m.toNat ≤ 122) := by
    intro small
    rw [isAlphanum_of_small small] at notLetter
    cases notLetter
  have same : m.toUpper = m := Char.toNat_inj.1 (by rw [Text.toNat_toUpper, if_neg small])
  rw [Text.upperChar, if_pos (by omega), same]

theorem upperChars_eq_cons_punctuation {cs rest : List Char} (h : Text.upperChars cs = m :: rest) :
    ∃ tail, cs = m :: tail ∧ Text.upperChars tail = rest := by
  cases cs with
  | nil => simp at h
  | cons c tail =>
    rw [Text.upperChars_cons] at h
    have mem : m ∈ Text.upperChar c := by
      cases hu : Text.upperChar c with
      | nil => exact absurd hu (Text.upperChar_ne_nil c)
      | cons d ds =>
        rw [hu, List.cons_append, List.cons.injEq] at h
        simp [h.1]
    obtain ⟨rfl, same⟩ := eq_of_punctuation_mem_upperChar hm mem
    rw [same, List.singleton_append, List.cons.injEq] at h
    exact ⟨tail, rfl, h.2⟩

theorem upperChars_eq_append_punctuation {cs front : List Char}
    (h : Text.upperChars cs = front ++ [m]) :
    ∃ init, cs = init ++ [m] ∧ Text.upperChars init = front := by
  rcases List.eq_nil_or_concat' cs with rfl | ⟨init, c, rfl⟩
  · simp at h
  · rw [Text.upperChars_append, show Text.upperChars [c] = Text.upperChar c by simp] at h
    have mem : m ∈ Text.upperChar c := by
      rcases List.eq_nil_or_concat' (Text.upperChar c) with hu | ⟨ds, d, hu⟩
      · exact absurd hu (Text.upperChar_ne_nil c)
      · rw [hu, ← List.append_assoc] at h
        have last := (List.append_inj' h rfl).2
        simp only [List.cons.injEq, and_true] at last
        simp [hu, last]
    obtain ⟨rfl, same⟩ := eq_of_punctuation_mem_upperChar hm mem
    rw [same] at h
    exact ⟨init, rfl, (List.append_inj' h rfl).1⟩

end Punctuation

section Mark

variable {m : Char} (hm : isMark m = true)

include hm

theorem isMark_bounds : 33 ≤ m.toNat ∧ m.toNat ≤ 126 ∧ isWordChar m = false := by
  simp only [isMark, Bool.and_eq_true, decide_eq_true_eq, Bool.not_eq_true'] at hm
  exact ⟨hm.1.1, hm.1.2, hm.2⟩

theorem isPunctuation_of_isMark : isPunctuation m = true := by
  obtain ⟨lo, hi, notWord⟩ := isMark_bounds hm
  rw [isWordChar, Bool.or_eq_false_iff] at notWord
  simp [isPunctuation, lo, hi, notWord.1]

theorem isMark_ne_space : m ≠ ' ' := by
  rintro rfl
  exact absurd hm (by decide)

theorem isMark_ne_of_isWordChar {c : Char} (hc : isWordChar c = true) : m ≠ c := by
  rintro rfl
  simp [(isMark_bounds hm).2.2] at hc

end Mark

theorem isWordChar_of_mem_isWord {cs : List Char} (h : isWord cs = true) {c : Char} (hc : c ∈ cs) :
    isWordChar c = true := by
  cases cs with
  | nil => cases hc
  | cons d ds =>
    rw [isWord, Bool.and_eq_true, List.all_eq_true] at h
    rcases List.mem_cons.1 hc with rfl | hc
    · exact isWordChar_of_isWordStart h.1
    · exact h.2 c hc

theorem isWordStart_of_isWord {c : Char} {cs : List Char} (h : isWord (c :: cs) = true) :
    isWordStart c = true := by
  rw [isWord, Bool.and_eq_true] at h
  exact h.1

theorem isWordLine_iff {cs : List Char} :
    isWordLine cs = true ↔ isWord cs = true ∨ ∃ word, cs = word ++ ['\n'] ∧ isWord word = true := by
  rw [isWordLine, Bool.or_eq_true, Bool.and_eq_true, beq_iff_eq]
  apply or_congr Iff.rfl
  constructor
  · rintro ⟨last, plain⟩
    obtain ⟨word, rfl⟩ := List.getLast?_eq_some_iff.1 last
    rw [List.dropLast_concat] at plain
    exact ⟨word, rfl, plain⟩
  · rintro ⟨word, rfl, plain⟩
    rw [List.getLast?_concat, List.dropLast_concat]
    exact ⟨rfl, plain⟩

theorem ne_space_of_mem_wordLine {cs : List Char} (h : isWordLine cs = true) {c : Char}
    (hc : c ∈ cs) : c ≠ ' ' := by
  rintro rfl
  rcases isWordLine_iff.1 h with plain | ⟨word, rfl, plain⟩
  · exact absurd (isWordChar_of_mem_isWord plain hc) (by decide)
  · rcases List.mem_append.1 hc with front | feed
    · exact absurd (isWordChar_of_mem_isWord plain front) (by decide)
    · simp at feed

theorem takeWhile_of_wordLine {cs : List Char} (h : isWordLine cs = true) (rest : List Char) :
    (cs ++ ' ' :: rest).takeWhile (· != ' ') = cs := by
  rw [List.takeWhile_append_of_pos fun c hc => by simpa using ne_space_of_mem_wordLine h hc]
  simp

theorem isWordStart_of_wordLine {c : Char} {cs : List Char} (h : isWordLine (c :: cs) = true) :
    isWordStart c = true := by
  rcases isWordLine_iff.1 h with plain | ⟨word, split, plain⟩
  · exact isWordStart_of_isWord plain
  · cases word with
    | nil => cases plain
    | cons d word =>
      obtain ⟨rfl, -⟩ := List.cons.inj split
      exact isWordStart_of_isWord plain

/-- A body in which the closing mark is doubled ends at the first one that is not. -/
theorem doubled_append_inj {k : Char} {b b' r r' : List Char} (hk : k ≠ ' ')
    (h : Text.doubled [k] 0 b ++ k :: ' ' :: r = Text.doubled [k] 0 b' ++ k :: ' ' :: r') :
    b = b' ∧ r = r' := by
  simp only [Text.doubled_singleton] at h
  induction b generalizing b' with
  | nil =>
    cases b' with
    | nil => simpa using h
    | cons c b' =>
      by_cases hc : c = k
      · simp [hc, Ne.symm hk] at h
      · simp [hc, Ne.symm hc] at h
  | cons c b ih =>
    cases b' with
    | nil =>
      by_cases hc : c = k
      · simp [hc, hk] at h
      · simp [hc] at h
    | cons c' b' =>
      by_cases hc : c = k <;> by_cases hc' : c' = k
      · simp only [hc, hc', List.flatMap_cons, if_true, List.cons_append, List.nil_append,
          List.cons.injEq, true_and] at h
        obtain ⟨rfl, rfl⟩ := ih h
        exact ⟨by rw [hc, hc'], rfl⟩
      · simp [hc, hc', Ne.symm hc'] at h
      · simp [hc, hc'] at h
      · simp only [hc, hc', List.flatMap_cons, if_false, List.cons_append, List.nil_append,
          List.cons.injEq] at h
        obtain ⟨rfl, rest⟩ := h
        obtain ⟨rfl, rfl⟩ := ih rest
        exact ⟨rfl, rfl⟩

/-- What can be written for a name: a plain word, or a body between marks. -/
def IsToken (o k : Char) (cs : List Char) : Prop :=
  isWordLine cs = true ∨ ∃ body, cs = o :: (Text.doubled [k] 0 body ++ [k])

/-- Two texts that begin with a token and a blank begin with the same token if they are equal. -/
theorem append_inj_of_isToken {o k : Char} {s s' r r' : List Char} (ho : isMark o = true)
    (hk : isMark k = true) (hs : IsToken o k s) (hs' : IsToken o k s')
    (h : s ++ ' ' :: r = s' ++ ' ' :: r') : s = s' ∧ r = r' := by
  have apart : ∀ {body cs rest rest' : List Char}, isWordLine cs = true →
      o :: (Text.doubled [k] 0 body ++ [k]) ++ ' ' :: rest ≠ cs ++ ' ' :: rest' := by
    intro body cs rest rest' word equal
    cases cs with
    | nil => cases word
    | cons c cs =>
      simp only [List.cons_append, List.cons.injEq] at equal
      have start := isWordChar_of_isWordStart (isWordStart_of_wordLine word)
      exact isMark_ne_of_isWordChar ho start equal.1
  rcases hs with word | ⟨body, rfl⟩ <;> rcases hs' with word' | ⟨body', rfl⟩
  · have same : s = s' := by
      rw [← takeWhile_of_wordLine word r, ← takeWhile_of_wordLine word' r', h]
    subst same
    exact ⟨rfl, List.tail_eq_of_cons_eq (List.append_cancel_left h)⟩
  · exact absurd h.symm (apart word)
  · exact absurd h (apart word')
  · simp only [List.cons_append, List.append_assoc, List.nil_append, List.cons.injEq,
      true_and] at h
    obtain ⟨rfl, rfl⟩ := doubled_append_inj (isMark_ne_space hk) h
    exact ⟨rfl, rfl⟩

namespace Quoter

/-- The quotes are single punctuation characters. -/
structure IsPunctuated (q : Quoter) (o k : Char) : Prop where
  opening : q.opening = String.singleton o
  closing : q.closing = String.singleton k
  punctuation_opening : isPunctuation o = true
  punctuation_closing : isPunctuation k = true

namespace IsPunctuated

variable {q : Quoter} {o k : Char} (hq : q.IsPunctuated o k)

include hq

theorem isQuoted_iff {name : String} :
    q.isQuoted name = true ↔ ∃ body, name.toList = o :: (body ++ [k]) := by
  simp only [isQuoted, hq.opening, hq.closing, String.toList_singleton, Bool.and_eq_true,
    decide_eq_true_eq, List.isPrefixOf_iff_prefix, List.isSuffixOf_iff_suffix,
    ← String.length_toList]
  constructor
  · rintro ⟨⟨long, ⟨tail, front⟩⟩, ⟨init, back⟩⟩
    rcases List.eq_nil_or_concat' tail with rfl | ⟨body, c, rfl⟩
    · rw [← front] at long
      simp at long
    · rw [← front, ← List.append_assoc] at back
      have last := (List.append_inj' back rfl).2
      simp only [List.cons.injEq, and_true] at last
      exact ⟨body, by rw [← front, last]; rfl⟩
  · rintro ⟨body, whole⟩
    refine ⟨⟨?_, ⟨body ++ [k], ?_⟩⟩, ⟨o :: body, ?_⟩⟩ <;> simp [whole]

theorem isQuoted_upper (name : String) : q.isQuoted (Text.upper name) = q.isQuoted name := by
  rw [Bool.eq_iff_iff, hq.isQuoted_iff, hq.isQuoted_iff, Text.toList_upper]
  constructor
  · rintro ⟨body, whole⟩
    obtain ⟨tail, cut, rest⟩ := upperChars_eq_cons_punctuation hq.punctuation_opening whole
    obtain ⟨init, rfl, -⟩ := upperChars_eq_append_punctuation hq.punctuation_closing rest
    exact ⟨init, cut⟩
  · rintro ⟨body, whole⟩
    refine ⟨Text.upperChars body, ?_⟩
    rw [whole, Text.upperChars_cons, Text.upperChars_append,
      upperChar_punctuation hq.punctuation_opening, Text.upperChars_cons,
      upperChar_punctuation hq.punctuation_closing, Text.upperChars_nil]
    simp

theorem toList_quote (name : String) :
    (q.quote name).toList = o :: (Text.doubled [k] 0 name.toList ++ [k]) := by
  simp [quote, hq.opening, hq.closing]

theorem isQuoted_quote (name : String) : q.isQuoted (q.quote name) = true :=
  hq.isQuoted_iff.2 ⟨_, hq.toList_quote name⟩

theorem quote_injective {n m : String} (h : q.quote n = q.quote m) : n = m := by
  have apart : k ≠ ' ' := by
    rintro rfl
    exact absurd hq.punctuation_closing (by decide)
  have lists := congrArg (fun s : String => s.toList ++ [' ']) h
  simp only [hq.toList_quote, List.cons_append, List.append_assoc, List.nil_append,
    List.cons.injEq, true_and] at lists
  exact String.toList_inj.1 (doubled_append_inj apart lists).1

/-- A name that is not quoted is only put in upper case exactly if it needs no quotes then. -/
theorem normalize_eq_upper_iff {name : String} (h : q.isQuoted name = false) :
    q.normalize name = Text.upper name ↔ q.needsQuoting (Text.upper name) = false := by
  rw [normalize_of_not_isQuoted h, quoteIfNeeded]
  by_cases needs : q.needsQuoting (Text.upper name) = true
  · have quoted := hq.isQuoted_quote (Text.upper name)
    have bare : q.isQuoted (Text.upper name) = false := by rw [hq.isQuoted_upper, h]
    rw [if_pos needs, needs]
    refine iff_of_false ?_ (by simp)
    intro same
    rw [same, bare] at quoted
    cases quoted
  · rw [if_neg needs]
    exact iff_of_true rfl (Bool.eq_false_iff.2 needs)

end IsPunctuated

/-- The quotes are single marks. -/
structure IsMarked (q : Quoter) (o k : Char) : Prop where
  opening : q.opening = String.singleton o
  closing : q.closing = String.singleton k
  opens : q.opens = true
  closes : q.closes = true
  mark_opening : isMark o = true
  mark_closing : isMark k = true

section IsMarked

variable {q : Quoter} {o k : Char} (hq : q.IsMarked o k)

include hq

theorem IsMarked.isPunctuated : q.IsPunctuated o k where
  opening := hq.opening
  closing := hq.closing
  punctuation_opening := isPunctuation_of_isMark hq.mark_opening
  punctuation_closing := isPunctuation_of_isMark hq.mark_closing

theorem isQuoted_upper (name : String) : q.isQuoted (Text.upper name) = q.isQuoted name :=
  hq.isPunctuated.isQuoted_upper name

theorem isToken_quoteIfNeeded {name : String} (h : q.isQuoted name = false) :
    IsToken o k (q.quoteIfNeeded name).toList := by
  rw [quoteIfNeeded]
  split
  · exact .inr ⟨_, hq.isPunctuated.toList_quote name⟩
  · next safe =>
    simp only [needsQuoting, h, Bool.not_false, Bool.true_and, Bool.not_eq_true,
      Bool.not_eq_false', isSafe, Bool.and_eq_true] at safe
    exact .inl safe.1

/-- What is written for a name is a token, unless the name is written in quotes already. -/
theorem isToken_normalize {name : String} (h : q.isQuoted name = false) :
    IsToken o k (q.normalize name).toList := by
  rw [normalize_of_not_isQuoted h]
  exact isToken_quoteIfNeeded hq (by rw [isQuoted_upper hq, h])

theorem quoteIfNeeded_inj {n m : String} (hn : q.isQuoted n = false) (hm : q.isQuoted m = false)
    (h : q.quoteIfNeeded n = q.quoteIfNeeded m) : n = m := by
  rw [quoteIfNeeded, quoteIfNeeded] at h
  split at h <;> split at h
  · exact hq.isPunctuated.quote_injective h
  · rw [← h, hq.isPunctuated.isQuoted_quote] at hm
    cases hm
  · rw [h, hq.isPunctuated.isQuoted_quote] at hn
    cases hn
  · exact h

/-- Names that are not quoted are written alike exactly if they agree in upper case. -/
theorem normalize_eq_iff {n m : String} (hn : q.isQuoted n = false) (hm : q.isQuoted m = false) :
    q.normalize n = q.normalize m ↔ Text.upper n = Text.upper m := by
  rw [normalize_of_not_isQuoted hn, normalize_of_not_isQuoted hm]
  constructor
  · rw [← isQuoted_upper hq] at hn hm
    exact quoteIfNeeded_inj hq hn hm
  · intro h
    rw [h]

/-- Whether one name is the other in quotes, which needs them. -/
def IsQuotedForm (q : Quoter) (quoted bare : String) : Prop :=
  q.needsQuoting bare = true ∧ quoted = q.quote bare

instance (q : Quoter) (quoted bare : String) : Decidable (q.IsQuotedForm quoted bare) :=
  inferInstanceAs (Decidable (_ ∧ _))

omit hq in
theorem isQuoted_of_needsQuoting {name : String} (h : q.needsQuoting name = true) :
    q.isQuoted name = false := by
  rw [needsQuoting, Bool.and_eq_true, Bool.not_eq_true'] at h
  exact h.1

theorem normalize_of_isQuotedForm {quoted bare : String} (h : q.IsQuotedForm quoted bare)
    (upper : Text.upper bare = bare) :
    q.normalize quoted = quoted ∧ q.normalize bare = quoted := by
  obtain ⟨needs, rfl⟩ := h
  refine ⟨normalize_of_isQuoted (hq.isPunctuated.isQuoted_quote bare), ?_⟩
  rw [normalize_of_not_isQuoted (isQuoted_of_needsQuoting needs), upper, quoteIfNeeded, if_pos needs]

/--
Two names that differ in upper case, one of which is in upper case, are written alike exactly if one
of them is the other one in quotes.
-/
theorem normalize_eq_iff_isQuotedForm {n m : String} (upper : Text.upper n = n)
    (differ : n ≠ Text.upper m) :
    q.normalize n = q.normalize m ↔ q.IsQuotedForm n (Text.upper m) ∨ q.IsQuotedForm m n := by
  constructor
  · intro same
    by_cases hn : q.isQuoted n = true
    · by_cases hm : q.isQuoted m = true
      · rw [normalize_of_isQuoted hn, normalize_of_isQuoted hm] at same
        exact absurd (by rw [← same, upper]) differ
      · rw [normalize_of_isQuoted hn, normalize_of_not_isQuoted (Bool.eq_false_iff.2 hm),
          quoteIfNeeded] at same
        split at same
        · next needs => exact .inl ⟨needs, same⟩
        · exact absurd same differ
    · by_cases hm : q.isQuoted m = true
      · rw [normalize_of_isQuoted hm, normalize_of_not_isQuoted (Bool.eq_false_iff.2 hn), upper,
          quoteIfNeeded] at same
        split at same
        · next needs => exact .inr ⟨needs, same.symm⟩
        · rw [same, hm] at hn
          exact absurd rfl hn
      · have agree := (normalize_eq_iff hq (Bool.eq_false_iff.2 hn) (Bool.eq_false_iff.2 hm)).1 same
        rw [upper] at agree
        exact absurd agree differ
  · rintro (form | form)
    · have written := normalize_of_isQuotedForm hq form (Text.upper_upper m)
      have bare : q.isQuoted m = false := by
        rw [← isQuoted_upper hq]
        exact isQuoted_of_needsQuoting form.1
      rw [written.1, ← written.2, normalize_of_not_isQuoted bare,
        normalize_of_not_isQuoted (by rw [isQuoted_upper hq, bare]), Text.upper_upper]
    · have written := normalize_of_isQuotedForm hq form upper
      rw [written.1, written.2]

theorem not_small_of_normalize {name : String} {c : Char} {cs : List Char}
    (h : q.isQuoted name = false) (head : (q.normalize name).toList = c :: cs) :
    ¬(97 ≤ c.toNat ∧ c.toNat ≤ 122) := by
  rw [normalize_of_not_isQuoted h, quoteIfNeeded] at head
  split at head
  · rw [hq.isPunctuated.toList_quote, List.cons.injEq] at head
    rw [← head.1]
    intro small
    have notWord := (isMark_bounds hq.mark_opening).2.2
    rw [isWordChar_of_small small] at notWord
    cases notWord
  · have mem : c ∈ Text.upperChars name.toList := by
      rw [← Text.toList_upper, head]
      simp
    obtain ⟨d, -, hd⟩ := List.mem_flatMap.1 mem
    exact Text.not_small_of_mem_upperChar hd

end IsMarked

end Quoter

namespace Catalog

/-- The dialect puts names between two single marks. -/
structure QuotesWith (c : Catalog) (o k : Char) : Prop where
  opening : c.quoteOpen = .text (String.singleton o)
  closing : c.quoteClose = .text (String.singleton k)
  mark_opening : isMark o = true
  mark_closing : isMark k = true

theorem QuotesWith.isMarked {c : Catalog} {o k : Char} (h : c.QuotesWith o k) :
    c.quoter.IsMarked o k where
  opening := by rw [quoter, h.opening, h.closing]; rfl
  closing := by rw [quoter, h.opening, h.closing]; rfl
  opens := by rw [quoter, h.opening, h.closing]; rfl
  closes := by rw [quoter, h.opening, h.closing]; rfl
  mark_opening := h.mark_opening
  mark_closing := h.mark_closing

end Catalog

end SchemaDrift
