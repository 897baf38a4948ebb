import Mathlib.Data.List.Induction
import SchemaDrift.Identifier

/-!
# Texts with quoted parts

A quoted part of a text runs from an opening mark to the next closing mark that is not written
twice. `cut` reads texts by this rule, from left to right. Whatever is put between the marks with
its closing marks doubled is read back as it was (`cut_quoted`), and nothing else is read as one
quoted part (`cut_eq_single_iff`).
-/

namespace SchemaDrift.Text

variable {o k : Char}

/-- Puts a character in front of the first part. -/
def inFront (c : Char) : List (List Char) → List (List Char)
  | [] => [[c]]
  | part :: parts => (c :: part) :: parts

/--
The parts of a text, what stands outside quotes and what stands inside in turn; the first and the
last one stand outside. There are none if a quoted part does not end.
-/
def cut (o k : Char) : (inside : Bool) → List Char → Option (List (List Char))
  | false, [] => some [[]]
  | true, [] => none
  | false, c :: rest =>
    if c = o then (cut o k true rest).map ([] :: ·) else (cut o k false rest).map (inFront c)
  | true, [c] => if c = k then some [[], []] else none
  | true, c :: d :: rest =>
    if c ≠ k then (cut o k true (d :: rest)).map (inFront c)
    else if d = k then (cut o k true rest).map (inFront k)
    else (cut o k false (d :: rest)).map ([] :: ·)

theorem cut_outside_cons {c : Char} (h : c ≠ o) (rest : List Char) :
    cut o k false (c :: rest) = (cut o k false rest).map (inFront c) := by
  rw [cut, if_neg h]

theorem cut_opening (rest : List Char) :
    cut o k false (o :: rest) = (cut o k true rest).map ([] :: ·) := by
  rw [cut, if_pos rfl]

theorem cut_inside_cons {c : Char} (h : c ≠ k) (rest : List Char) :
    cut o k true (c :: rest) = (cut o k true rest).map (inFront c) := by
  cases rest with
  | nil => simp [cut, h]
  | cons d rest => rw [cut, if_pos h]

theorem cut_doubled (rest : List Char) :
    cut o k true (k :: k :: rest) = (cut o k true rest).map (inFront k) := by
  rw [cut, if_neg (not_not.2 rfl), if_pos rfl]

theorem cut_closing {rest : List Char} (h : rest.head? ≠ some k) :
    cut o k true (k :: rest) = (cut o k false rest).map ([] :: ·) := by
  cases rest with
  | nil => simp [cut]
  | cons d rest =>
    have single : d ≠ k := by
      intro same
      exact h (by rw [same, List.head?_cons])
    rw [cut.eq_5, if_neg (not_not.2 rfl), if_neg single]

theorem cut_inside {rest : List Char} (h : rest.head? ≠ some k) (v : List Char) :
    cut o k true (doubled [k] 0 v ++ k :: rest) = (cut o k false rest).map (v :: ·) := by
  rw [doubled_singleton]
  induction v with
  | nil => exact cut_closing h
  | cons c v ih =>
    by_cases hc : c = k
    · subst hc
      simp only [List.flatMap_cons, if_true, List.cons_append, List.nil_append]
      rw [cut_doubled, ih, Option.map_map]
      rfl
    · simp only [List.flatMap_cons, hc, if_false, List.cons_append, List.nil_append]
      rw [cut_inside_cons hc, ih, Option.map_map]
      rfl

theorem cut_plain {s : List Char} (h : o ∉ s) : cut o k false s = some [s] := by
  induction s with
  | nil => rfl
  | cons c s ih =>
    rw [List.mem_cons, not_or] at h
    rw [cut_outside_cons (Ne.symm h.1), ih h.2]
    rfl

theorem cut_quoted {s rest : List Char} (before : o ∉ s) (behind : rest.head? ≠ some k)
    (v : List Char) : cut o k false (s ++ o :: (doubled [k] 0 v ++ k :: rest)) =
      (cut o k false rest).map fun parts => s :: v :: parts := by
  induction s with
  | nil =>
    rw [List.nil_append, cut_opening, cut_inside behind, Option.map_map]
    rfl
  | cons c s ih =>
    rw [List.mem_cons, not_or] at before
    rw [List.cons_append, cut_outside_cons (Ne.symm before.1), ih before.2, Option.map_map]
    rfl

theorem cut_ne_nil (inside : Bool) (cs : List Char) : cut o k inside cs ≠ some [] := by
  have front (c : Char) (found : List (List Char)) : inFront c found ≠ [] := by
    cases found <;> simp [inFront]
  fun_cases cut o k inside cs <;> simp [*]

theorem cons_of_inFront {inside : Bool} {c : Char} {cs v : List Char} {parts : List (List Char)}
    (h : (cut o k inside cs).map (inFront c) = some (v :: parts)) :
    ∃ w, v = c :: w ∧ cut o k inside cs = some (w :: parts) := by
  obtain ⟨found, hfound, split⟩ := Option.map_eq_some_iff.1 h
  cases found with
  | nil => exact absurd hfound (cut_ne_nil inside cs)
  | cons w found =>
    obtain ⟨rfl, rfl⟩ := List.cons.inj split
    exact ⟨w, rfl, hfound⟩

theorem eq_of_cut_inside {cs v : List Char} {parts : List (List Char)}
    (h : cut o k true cs = some (v :: parts)) :
    ∃ rest, cs = doubled [k] 0 v ++ k :: rest ∧ cut o k false rest = some parts := by
  -- What stands inside quotes is read one character at a time, or two if a mark is doubled.
  induction cs using List.twoStepInduction generalizing v with
  | nil => cases h
  | singleton c =>
    by_cases hc : c = k
    · subst hc
      rw [cut_closing (by simp)] at h
      obtain ⟨found, hfound, split⟩ := Option.map_eq_some_iff.1 h
      obtain ⟨rfl, rfl⟩ := List.cons.inj split
      exact ⟨[], rfl, hfound⟩
    · rw [cut_inside_cons hc] at h
      cases h
  | cons_cons c d cs ih ih' =>
    by_cases hc : c = k
    · subst hc
      by_cases hd : d = c
      · subst hd
        rw [cut_doubled] at h
        obtain ⟨w, rfl, hw⟩ := cons_of_inFront h
        obtain ⟨rest, rfl, outside⟩ := ih hw
        refine ⟨rest, ?_, outside⟩
        simp [doubled_singleton]
      · have single : (d :: cs).head? ≠ some c := by simpa using hd
        rw [cut_closing single] at h
        obtain ⟨found, hfound, split⟩ := Option.map_eq_some_iff.1 h
        obtain ⟨rfl, rfl⟩ := List.cons.inj split
        exact ⟨d :: cs, rfl, hfound⟩
    · rw [cut_inside_cons hc] at h
      obtain ⟨w, rfl, hw⟩ := cons_of_inFront h
      obtain ⟨rest, whole, outside⟩ := ih' d hw
      refine ⟨rest, ?_, outside⟩
      rw [whole]
      simp [doubled_singleton, hc]

theorem eq_nil_of_cut {cs : List Char} (h : cut o k false cs = some [[]]) : cs = [] := by
  cases cs with
  | nil => rfl
  | cons c cs =>
    by_cases hc : c = o
    · subst hc
      rw [cut_opening] at h
      obtain ⟨found, hfound, split⟩ := Option.map_eq_some_iff.1 h
      obtain ⟨-, rfl⟩ := List.cons.inj split
      exact absurd hfound (cut_ne_nil _ _)
    · rw [cut_outside_cons hc] at h
      obtain ⟨w, empty, -⟩ := cons_of_inFront h
      cases empty

/-- A text is one quoted part exactly if its inside is written with closing marks doubled. -/
theorem cut_eq_single_iff {cs v : List Char} :
    cut o k false cs = some [[], v, []] ↔ cs = o :: (doubled [k] 0 v ++ [k]) := by
  constructor
  · intro h
    cases cs with
    | nil => cases h
    | cons c cs =>
      by_cases hc : c = o
      · subst hc
        rw [cut_opening] at h
        obtain ⟨found, hfound, split⟩ := Option.map_eq_some_iff.1 h
        obtain ⟨-, rfl⟩ := List.cons.inj split
        obtain ⟨rest, rfl, outside⟩ := eq_of_cut_inside hfound
        rw [eq_nil_of_cut outside]
      · rw [cut_outside_cons hc] at h
        obtain ⟨w, empty, -⟩ := cons_of_inFront h
        cases empty
  · rintro rfl
    exact cut_quoted (s := []) (by simp) (by simp) v

end SchemaDrift.Text
