import SchemaDrift.Proofs.Text.CaseTables

/-!
# Upper case is final

Upper-casing maps every character to characters that it leaves alone, so a text in upper case
stays as it is (`upper_upper`). Among the punctuation of ASCII it neither moves a character nor
makes one out of another (`eq_of_mem_upperChar`).
-/

namespace SchemaDrift.Text

/-- The lower-case letters of ASCII, and all other code points that upper-casing moves. -/
def lowered : Nat :=
  progression 1 26 97 ||| union CaseRun.sources upperRuns ||| union (2 ^ ·.1) upperExpansions

/-- The code points outside ASCII's own that upper-casing makes. -/
def reached : Nat :=
  union CaseRun.targets upperRuns ||| union (fun e => union (2 ^ ·) e.2) upperExpansions

theorem testBit_lowered (n : Nat) : lowered.testBit n =
    ((progression 1 26 97).testBit n || (sources upperExpansions upperRuns).testBit n) := by
  simp only [lowered, sources, Nat.testBit_or, Bool.or_assoc]

theorem lowered_and_reached : lowered &&& reached = 0 := by decide +kernel

theorem reached_ascii : reached % 2 ^ 128 ||| progression 1 26 65 = progression 1 26 65 := by
  decide +kernel

theorem offset_nonneg : ∀ r ∈ upperRuns, 0 ≤ (r.first : Int) + r.offset := by decide +kernel

theorem expansion_ne_nil : ∀ e ∈ upperExpansions, e.2 ≠ [] := by decide +kernel

theorem not_lowered_of_reached {n : Nat} (h : reached.testBit n = true) :
    lowered.testBit n = false := by
  have hand := congrArg (Nat.testBit · n) lowered_and_reached
  simpa only [Nat.testBit_and, h, Bool.and_true, Nat.zero_testBit] using hand

theorem capital_of_reached {n : Nat} (h : reached.testBit n = true) (hn : n < 128) :
    65 ≤ n ∧ n ≤ 90 := by
  have hor := congrArg (Nat.testBit · n) reached_ascii
  simp only [Nat.testBit_or, Nat.testBit_mod_two_pow, hn, decide_true, h, Bool.and_self,
    Bool.true_or] at hor
  obtain ⟨i, hi, rfl⟩ := (testBit_progression ..).1 hor.symm
  omega

theorem isUpper_iff {c : Char} : c.isUpper = true ↔ 65 ≤ c.toNat ∧ c.toNat ≤ 90 :=
  decide_eq_true_iff

theorem isLower_iff {c : Char} : c.isLower = true ↔ 97 ≤ c.toNat ∧ c.toNat ≤ 122 :=
  Bool.and_eq_true_iff.trans (and_congr decide_eq_true_iff decide_eq_true_iff)

theorem toNat_toUpper (c : Char) :
    c.toUpper.toNat = if 97 ≤ c.toNat ∧ c.toNat ≤ 122 then c.toNat - 32 else c.toNat := by
  have bounds : ('a'.val ≤ c.val ∧ c.val ≤ 'z'.val) ↔ (97 ≤ c.toNat ∧ c.toNat ≤ 122) := by
    simp only [UInt32.le_iff_toNat_le]
    exact Iff.rfl
  by_cases h : 97 ≤ c.toNat ∧ c.toNat ≤ 122
  · have shift : ('A'.val - 'a'.val).toNat = 4294967264 := by decide
    have sum : (c.val + ('A'.val - 'a'.val)).toNat = (c.val.toNat + 4294967264) % 2 ^ 32 := by
      rw [UInt32.toNat_add, shift]
    have moved : c.toUpper = ⟨c.val + ('A'.val - 'a'.val), _⟩ := dif_pos (bounds.2 h)
    rw [if_pos h, moved]
    simp only [Char.toNat] at h ⊢
    rw [sum]
    omega
  · have same : c.toUpper = c := dif_neg (mt bounds.1 h)
    rw [if_neg h, same]

theorem testBit_lowered_ascii {n : Nat} (h : 97 ≤ n ∧ n ≤ 122) : lowered.testBit n = true := by
  have letter : (progression 1 26 97).testBit n = true :=
    (testBit_progression ..).2 ⟨n - 97, by omega, by omega⟩
  rw [testBit_lowered, letter]
  rfl

theorem upperChar_of_not_lowered {c : Char} (h : lowered.testBit c.toNat = false) :
    upperChar c = [c] := by
  by_cases hc : c.toNat < 128
  · have small : ¬(97 ≤ c.toNat ∧ c.toNat ≤ 122) := by
      intro hs
      rw [testBit_lowered_ascii hs] at h
      cases h
    have same : c.toUpper = c := Char.toNat_inj.1 (by rw [toNat_toUpper, if_neg small])
    rw [upperChar, if_pos hc, same]
  · have outside : (sources upperExpansions upperRuns).testBit c.toNat = false := by
      rw [testBit_lowered, Bool.or_eq_false_iff] at h
      exact h.2
    rw [upperChar, if_neg hc, mapThrough_of_not_source outside]

/-- A character in the upper case of another one: itself, a capital of ASCII, or one reached. -/
theorem mem_upperChar {c d : Char} (h : d ∈ upperChar c) :
    (d = c ∧ upperChar c = [c]) ∨ (65 ≤ d.toNat ∧ d.toNat ≤ 90) ∨
      ∃ n, reached.testBit n = true ∧ d = Char.ofNat n := by
  by_cases hl : lowered.testBit c.toNat = false
  · have same := upperChar_of_not_lowered hl
    rw [same, List.mem_singleton] at h
    exact .inl ⟨h, same⟩
  by_cases hc : c.toNat < 128
  · rw [upperChar, if_pos hc, List.mem_singleton] at h
    subst h
    by_cases small : 97 ≤ c.toNat ∧ c.toNat ≤ 122
    · refine .inr (.inl ?_)
      rw [toNat_toUpper, if_pos small]
      omega
    · have same : c.toUpper = c := Char.toNat_inj.1 (by rw [toNat_toUpper, if_neg small])
      refine .inl ⟨same, ?_⟩
      rw [upperChar, if_pos hc, same]
  · rw [upperChar, if_neg hc] at h ⊢
    rcases mem_mapThrough offset_nonneg h with alone | made
    · exact .inl alone
    · exact .inr (.inr made)

theorem upperChar_of_mem_upperChar {c d : Char} (h : d ∈ upperChar c) : upperChar d = [d] := by
  rcases mem_upperChar h with ⟨rfl, same⟩ | capital | ⟨n, hn, rfl⟩
  · exact same
  · rw [upperChar, if_pos (by omega)]
    have same : d.toUpper = d := Char.toNat_inj.1 (by rw [toNat_toUpper, if_neg (by omega)])
    rw [same]
  · rcases toNat_ofNat_or n with hof | hof
    · exact upperChar_of_not_lowered (hof.symm ▸ not_lowered_of_reached hn)
    · rw [hof]
      decide

theorem not_small_of_mem_upperChar {c d : Char} (h : d ∈ upperChar c) :
    ¬(97 ≤ d.toNat ∧ d.toNat ≤ 122) := by
  intro small
  have same := upperChar_of_mem_upperChar h
  rw [upperChar, if_pos (by omega), List.cons.injEq] at same
  have shifted := congrArg Char.toNat same.1
  rw [toNat_toUpper, if_pos small] at shifted
  omega

/-- No character of ASCII but a capital letter is made out of another character. -/
theorem eq_of_mem_upperChar {c d : Char} (h : d ∈ upperChar c) (pos : 0 < d.toNat)
    (ascii : d.toNat < 128) (notCapital : ¬(65 ≤ d.toNat ∧ d.toNat ≤ 90)) :
    d = c ∧ upperChar c = [c] := by
  rcases mem_upperChar h with same | capital | ⟨n, hn, rfl⟩
  · exact same
  · exact absurd capital notCapital
  · rcases toNat_ofNat_or n with hof | hof
    · exact absurd (hof.symm ▸ capital_of_reached hn (hof ▸ ascii)) notCapital
    · rw [hof] at pos
      exact absurd pos (by decide)

theorem upperChar_ne_nil (c : Char) : upperChar c ≠ [] := by
  rw [upperChar]
  split
  · simp
  · rw [mapThrough]
    split
    · next e image he =>
      simpa using expansion_ne_nil _ (List.mem_of_find?_eq_some he)
    · split <;> simp

theorem upperChars_of_forall {cs : List Char} (h : ∀ c ∈ cs, upperChar c = [c]) :
    upperChars cs = cs := by
  induction cs with
  | nil => rfl
  | cons c cs ih =>
    rw [upperChars_cons, h c (by simp), ih fun d hd => h d (by simp [hd])]
    rfl

theorem upper_upper (s : String) : upper (upper s) = upper s := by
  have final : upperChars (upperChars s.toList) = upperChars s.toList := by
    apply upperChars_of_forall
    intro d hd
    obtain ⟨c, -, hc⟩ := List.mem_flatMap.1 hd
    exact upperChar_of_mem_upperChar hc
  rw [upper, toList_upper, final, upper]

end SchemaDrift.Text
