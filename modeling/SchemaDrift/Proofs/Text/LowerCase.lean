import SchemaDrift.Proofs.Text.CaseTables
import SchemaDrift.Text.Blank

/-!
# Lower case is final

Lower-casing maps every character to characters that it leaves alone, and leaves no capital sigma
behind, so a text in lower case stays as it is (`lower_lower`).

Two texts are alike (`AsciiAlike`) if they differ at most in the case of letters of ASCII. Neither
what counts for the form of a sigma nor what counts as a blank depends on that case, so alike texts
have the same lower case (`AsciiAlike.lower_eq`).
-/

namespace SchemaDrift.Text

/-- The capital letters of ASCII, and all other code points that lower-casing moves. -/
def capitals : Nat := progression 1 26 65 ||| sources lowerExpansions lowerRuns

theorem capitals_and_targets : capitals &&& targets lowerExpansions lowerRuns = 0 := by
  decide +kernel

theorem lowerRuns_offset : ∀ r ∈ lowerRuns, 0 ≤ (r.first : Int) + r.offset := by decide +kernel

theorem not_capital_of_target {n : Nat} (h : (targets lowerExpansions lowerRuns).testBit n = true) :
    capitals.testBit n = false := by
  have hand := congrArg (Nat.testBit · n) capitals_and_targets
  simpa only [Nat.testBit_and, h, Bool.and_true, Nat.zero_testBit] using hand

theorem toNat_toLower (c : Char) :
    c.toLower.toNat = if 65 ≤ c.toNat ∧ c.toNat ≤ 90 then c.toNat + 32 else c.toNat := by
  have bounds : ('A'.val ≤ c.val ∧ c.val ≤ 'Z'.val) ↔ (65 ≤ c.toNat ∧ c.toNat ≤ 90) := by
    simp only [UInt32.le_iff_toNat_le]
    exact Iff.rfl
  by_cases h : 65 ≤ c.toNat ∧ c.toNat ≤ 90
  · have shift : ('a'.val - 'A'.val).toNat = 32 := by decide
    have sum : (c.val + ('a'.val - 'A'.val)).toNat = (c.val.toNat + 32) % 2 ^ 32 := by
      rw [UInt32.toNat_add, shift]
    have moved : c.toLower = ⟨c.val + ('a'.val - 'A'.val), _⟩ := dif_pos (bounds.2 h)
    rw [if_pos h, moved]
    simp only [Char.toNat] at h ⊢
    rw [sum]
    omega
  · have same : c.toLower = c := dif_neg (mt bounds.1 h)
    rw [if_neg h, same]

theorem toLower_of_not_capital {c : Char} (h : ¬(65 ≤ c.toNat ∧ c.toNat ≤ 90)) : c.toLower = c := by
  apply Char.toNat_inj.1
  rw [toNat_toLower, if_neg h]

theorem toLower_eq_or (c : Char) : c.toLower = c ∨ ∃ n < 26, c = Char.ofNat (65 + n) := by
  by_cases h : 65 ≤ c.toNat ∧ c.toNat ≤ 90
  · right
    refine ⟨c.toNat - 65, by omega, ?_⟩
    have whole : 65 + (c.toNat - 65) = c.toNat := by omega
    rw [whole, Char.ofNat_toNat]
  · left
    exact toLower_of_not_capital h

/-- A function that does not tell the capital letters of ASCII from the small ones. -/
theorem eq_toLower_of_capitals {α : Type} {f : Char → α}
    (h : ∀ n < 26, f (Char.ofNat (65 + n)).toLower = f (Char.ofNat (65 + n))) (c : Char) :
    f c.toLower = f c := by
  rcases toLower_eq_or c with same | ⟨n, hn, rfl⟩
  · rw [same]
  · exact h n hn

theorem lowerChar_of_not_capital {c : Char} (h : capitals.testBit c.toNat = false) :
    lowerChar c = [c] := by
  rw [capitals, Nat.testBit_or, Bool.or_eq_false_iff] at h
  by_cases hc : c.toNat < 128
  · have small : ¬(65 ≤ c.toNat ∧ c.toNat ≤ 90) := by
      intro hcap
      have letter : (progression 1 26 65).testBit c.toNat = true :=
        (testBit_progression ..).2 ⟨c.toNat - 65, by omega, by omega⟩
      rw [letter] at h
      cases h.1
    rw [lowerChar, if_pos hc, toLower_of_not_capital small]
  · rw [lowerChar, if_neg hc, mapThrough_of_not_source h.2]

theorem lowerChar_of_mem_lowerChar {c d : Char} (h : d ∈ lowerChar c) : lowerChar d = [d] := by
  by_cases hc : c.toNat < 128
  · rw [lowerChar, if_pos hc, List.mem_singleton] at h
    subst h
    have moved := toNat_toLower c
    have ascii : c.toLower.toNat < 128 := by split at moved <;> omega
    have small : ¬(65 ≤ c.toLower.toNat ∧ c.toLower.toNat ≤ 90) := by split at moved <;> omega
    rw [lowerChar, if_pos ascii, toLower_of_not_capital small]
  · rw [lowerChar, if_neg hc] at h
    rcases mem_mapThrough lowerRuns_offset h with ⟨rfl, alone⟩ | ⟨n, hn, rfl⟩
    · rw [lowerChar, if_neg hc, alone]
    · rcases toNat_ofNat_or n with hof | hof
      · apply lowerChar_of_not_capital
        rw [hof]
        exact not_capital_of_target hn
      · rw [hof]
        decide

theorem lowerFrom_of_forall {cs : List Char} (before : List Char) (h : ∀ c ∈ cs, lowerChar c = [c]) :
    lowerFrom before cs = cs := by
  induction cs generalizing before with
  | nil => rfl
  | cons c cs ih =>
    have alone := h c (List.mem_cons_self ..)
    have noSigma : c ≠ 'Σ' := by
      intro hc
      rw [hc] at alone
      revert alone
      decide
    have rest := ih (c :: before) fun d hd => h d (List.mem_cons_of_mem c hd)
    rw [lowerFrom, if_neg noSigma, alone, rest]
    rfl

theorem lowerChar_of_mem_lowerFrom {before cs : List Char} {d : Char} (h : d ∈ lowerFrom before cs) :
    lowerChar d = [d] := by
  induction cs generalizing before with
  | nil => cases h
  | cons c cs ih =>
    rw [lowerFrom, List.mem_append] at h
    rcases h with first | later
    · by_cases sigma : c = 'Σ'
      · rw [if_pos sigma, List.mem_singleton] at first
        rw [first]
        split <;> decide
      · rw [if_neg sigma] at first
        exact lowerChar_of_mem_lowerChar first
    · exact ih later

theorem lower_lower (s : String) : lower (lower s) = lower s := by
  have final : lowerChars (lowerChars s.toList) = lowerChars s.toList := by
    apply lowerFrom_of_forall
    intro d hd
    exact lowerChar_of_mem_lowerFrom hd
  rw [lower, toList_lower, final, lower]

/-- The texts differ at most in the case of letters of ASCII. -/
def AsciiAlike (s t : String) : Prop := s.toList.map Char.toLower = t.toList.map Char.toLower

instance (s t : String) : Decidable (AsciiAlike s t) := inferInstanceAs (Decidable (_ = _))

theorem lowerChar_toLower (c : Char) : lowerChar c.toLower = lowerChar c :=
  eq_toLower_of_capitals (by decide) c

theorem isCased_toLower (c : Char) : isCased c.toLower = isCased c :=
  eq_toLower_of_capitals (by decide) c

theorem apart_of_mem_caseIgnorableRanges :
    ∀ r ∈ caseIgnorableRanges, r.2 < 65 ∨ (90 < r.1 ∧ r.2 < 97) ∨ 122 < r.1 := by
  decide +kernel

theorem inRanges_caseIgnorableRanges_of_letter {n : Nat}
    (h : (65 ≤ n ∧ n ≤ 90) ∨ (97 ≤ n ∧ n ≤ 122)) : inRanges caseIgnorableRanges n = false := by
  rw [inRanges, List.any_eq_false]
  intro r hr within
  have apart := apart_of_mem_caseIgnorableRanges r hr
  simp only [Bool.and_eq_true, decide_eq_true_eq] at within
  omega

theorem isCaseIgnorable_toLower (c : Char) : isCaseIgnorable c.toLower = isCaseIgnorable c := by
  by_cases h : 65 ≤ c.toNat ∧ c.toNat ≤ 90
  · have capital := inRanges_caseIgnorableRanges_of_letter (.inl h)
    have small : inRanges caseIgnorableRanges (c.toNat + 32) = false :=
      inRanges_caseIgnorableRanges_of_letter (.inr (by omega))
    rw [isCaseIgnorable, isCaseIgnorable, toNat_toLower, if_pos h, capital, small]
  · rw [toLower_of_not_capital h]

theorem isBlank_toLower (c : Char) : isBlank c.toLower = isBlank c :=
  eq_toLower_of_capitals (by decide) c

theorem toLower_eq_sigma_iff (c : Char) : c.toLower = 'Σ' ↔ c = 'Σ' := by
  have same := eq_toLower_of_capitals (f := fun d => decide (d = 'Σ')) (by decide) c
  simpa using same

theorem dropWhile_map_toLower {p : Char → Bool} (h : ∀ c, p c.toLower = p c) (cs : List Char) :
    (cs.map Char.toLower).dropWhile p = (cs.dropWhile p).map Char.toLower := by
  have composed : p ∘ Char.toLower = p := funext h
  rw [List.dropWhile_map, composed]

theorem meetsCased_map_toLower (cs : List Char) :
    meetsCased (cs.map Char.toLower) = meetsCased cs := by
  rw [meetsCased, meetsCased, dropWhile_map_toLower isCaseIgnorable_toLower]
  cases cs.dropWhile isCaseIgnorable with
  | nil => rfl
  | cons c rest => exact isCased_toLower c

theorem lowerFrom_map_toLower (before cs : List Char) :
    lowerFrom (before.map Char.toLower) (cs.map Char.toLower) = lowerFrom before cs := by
  induction cs generalizing before with
  | nil => rfl
  | cons c cs ih =>
    have rest := ih (c :: before)
    rw [List.map_cons] at rest
    simp only [List.map_cons, lowerFrom, toLower_eq_sigma_iff, meetsCased_map_toLower,
      lowerChar_toLower, rest]

theorem AsciiAlike.lower_eq {s t : String} (h : AsciiAlike s t) : lower s = lower t := by
  have images : lowerChars s.toList = lowerChars t.toList := by
    calc lowerChars s.toList
      _ = lowerFrom [] (s.toList.map Char.toLower) := (lowerFrom_map_toLower [] _).symm
      _ = lowerFrom [] (t.toList.map Char.toLower) := by rw [h]
      _ = lowerChars t.toList := lowerFrom_map_toLower [] _
  rw [lower, images, lower]

theorem map_toLower_strip (s : String) : (strip s).toList.map Char.toLower =
    dropTrailing isBlank ((s.toList.map Char.toLower).dropWhile isBlank) := by
  rw [strip, String.toList_ofList, dropTrailing, dropTrailing, List.map_reverse,
    ← dropWhile_map_toLower isBlank_toLower, List.map_reverse,
    ← dropWhile_map_toLower isBlank_toLower]

theorem AsciiAlike.strip {s t : String} (h : AsciiAlike s t) :
    AsciiAlike (Text.strip s) (Text.strip t) := by
  rw [AsciiAlike, map_toLower_strip, map_toLower_strip, h]

end SchemaDrift.Text
