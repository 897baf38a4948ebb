import Mathlib.Data.Nat.Bitwise
import SchemaDrift.Text.Case

/-!
# What case tables move and reach

A case mapping outside ASCII is a table of expansions and a table of runs. A character that no entry
is about stays as it is (`mapThrough_of_not_source`), and every other one goes to characters that
some entry reaches (`mem_mapThrough`).

The tables are looked at as sets of code points. A set is the number whose bits are its members,
so that one intersection compares all that the tables move with all that they reach.
-/

namespace SchemaDrift.Text

/-- The code points `first`, `first + step`, …, `count` of them, as the bits of a number. -/
def progression (step : Nat) : (count first : Nat) → Nat
  | 0, _ => 0
  | n + 1, first => 2 ^ first ||| progression step n (first + step)

theorem testBit_progression (step count first m : Nat) :
    (progression step count first).testBit m = true ↔ ∃ i < count, m = first + i * step := by
  induction count generalizing first with
  | zero => simp [progression]
  | succ n ih =>
    rw [progression, Nat.testBit_or, Bool.or_eq_true, ih, Nat.testBit_two_pow, decide_eq_true_eq]
    constructor
    · rintro (rfl | ⟨i, hi, rfl⟩)
      · exact ⟨0, by omega, by omega⟩
      · exact ⟨i + 1, by omega, by rw [Nat.succ_mul]; omega⟩
    · rintro ⟨i, hi, rfl⟩
      cases i with
      | zero => exact .inl (by omega)
      | succ i => exact .inr ⟨i, by omega, by rw [Nat.succ_mul]; omega⟩

/-- The union of the sets that the members of a list stand for. -/
def union {α : Type} (f : α → Nat) (xs : List α) : Nat := xs.foldr (fun x m => f x ||| m) 0

theorem testBit_union {α : Type} (f : α → Nat) (xs : List α) (m : Nat) :
    (union f xs).testBit m = true ↔ ∃ x ∈ xs, (f x).testBit m = true := by
  induction xs with
  | nil => simp [union]
  | cons x xs ih =>
    rw [show union f (x :: xs) = f x ||| union f xs from rfl, Nat.testBit_or, Bool.or_eq_true, ih]
    simp

def CaseRun.size (r : CaseRun) : Nat := (r.last - r.first) / r.step + 1

def CaseRun.sources (r : CaseRun) : Nat := progression r.step r.size r.first

def CaseRun.targets (r : CaseRun) : Nat := progression r.step r.size (r.first + r.offset).toNat

theorem CaseRun.exists_index_of_covers {r : CaseRun} {n : Nat} (h : r.covers n = true) :
    ∃ i < r.size, n = r.first + i * r.step := by
  simp only [CaseRun.covers, Bool.and_eq_true, decide_eq_true_eq, beq_iff_eq] at h
  obtain ⟨⟨hlo, hhi⟩, hmod⟩ := h
  refine ⟨(n - r.first) / r.step, ?_, ?_⟩
  · exact Nat.lt_succ_of_le (Nat.div_le_div_right (by omega))
  · have hdiv := Nat.div_add_mod (n - r.first) r.step
    rw [hmod, Nat.mul_comm] at hdiv
    omega

theorem CaseRun.testBit_sources {r : CaseRun} {n : Nat} (h : r.covers n = true) :
    r.sources.testBit n = true :=
  (testBit_progression ..).2 (r.exists_index_of_covers h)

theorem CaseRun.testBit_targets {r : CaseRun} {n : Nat} (h : r.covers n = true)
    (pos : 0 ≤ (r.first : Int) + r.offset) : r.targets.testBit (n + r.offset).toNat = true := by
  obtain ⟨i, hi, rfl⟩ := r.exists_index_of_covers h
  refine (testBit_progression ..).2 ⟨i, hi, ?_⟩
  generalize i * r.step = k
  omega

/-- The code points that an entry of the tables moves. -/
def sources (expansions : List (Nat × List Nat)) (runs : List CaseRun) : Nat :=
  union CaseRun.sources runs ||| union (2 ^ ·.1) expansions

/-- The code points that an entry of the tables makes. -/
def targets (expansions : List (Nat × List Nat)) (runs : List CaseRun) : Nat :=
  union CaseRun.targets runs ||| union (fun e => union (2 ^ ·) e.2) expansions

section Tables

variable {expansions : List (Nat × List Nat)} {runs : List CaseRun}

theorem testBit_sources_of_run {r : CaseRun} {n : Nat} (hr : r ∈ runs) (h : r.covers n = true) :
    (sources expansions runs).testBit n = true := by
  have run : (union CaseRun.sources runs).testBit n = true :=
    (testBit_union ..).2 ⟨r, hr, r.testBit_sources h⟩
  rw [sources, Nat.testBit_or, run, Bool.true_or]

theorem testBit_sources_of_expansion {e : Nat × List Nat} (he : e ∈ expansions) :
    (sources expansions runs).testBit e.1 = true := by
  have expansion : (union (2 ^ ·.1) expansions).testBit e.1 = true :=
    (testBit_union ..).2 ⟨e, he, Nat.testBit_two_pow_self⟩
  rw [sources, Nat.testBit_or, expansion, Bool.or_true]

theorem mapThrough_of_not_source {c : Char}
    (h : (sources expansions runs).testBit c.toNat = false) :
    mapThrough expansions runs c = [c] := by
  have noExpansion : expansions.find? (·.1 == c.toNat) = none := by
    rw [List.find?_eq_none]
    intro e he hec
    have moved : (sources expansions runs).testBit e.1 = true := testBit_sources_of_expansion he
    rw [beq_iff_eq.1 hec, h] at moved
    cases moved
  have noRun : runs.find? (·.covers c.toNat) = none := by
    rw [List.find?_eq_none]
    intro r hr hrc
    have moved : (sources expansions runs).testBit c.toNat = true := testBit_sources_of_run hr hrc
    rw [h] at moved
    cases moved
  rw [mapThrough, noExpansion, noRun]

theorem mem_mapThrough {c d : Char} (pos : ∀ r ∈ runs, 0 ≤ (r.first : Int) + r.offset)
    (h : d ∈ mapThrough expansions runs c) :
    (d = c ∧ mapThrough expansions runs c = [c]) ∨
      ∃ n, (targets expansions runs).testBit n = true ∧ d = Char.ofNat n := by
  rw [mapThrough] at h ⊢
  split at h
  · next e image he =>
    have mem := List.mem_of_find?_eq_some he
    obtain ⟨n, hn, rfl⟩ := List.mem_map.1 h
    have inImage : (union (2 ^ ·) image).testBit n = true :=
      (testBit_union ..).2 ⟨n, hn, Nat.testBit_two_pow_self⟩
    have inAll : (union (fun e => union (2 ^ ·) e.2) expansions).testBit n = true :=
      (testBit_union ..).2 ⟨_, mem, inImage⟩
    exact .inr ⟨n, by rw [targets, Nat.testBit_or, inAll, Bool.or_true], rfl⟩
  · split at h
    · next r hr =>
      have mem := List.mem_of_find?_eq_some hr
      have covers : r.covers c.toNat = true := by simpa using List.find?_some hr
      have target : (union CaseRun.targets runs).testBit (c.toNat + r.offset).toNat = true :=
        (testBit_union ..).2 ⟨r, mem, r.testBit_targets covers (pos r mem)⟩
      refine .inr ⟨_, ?_, List.mem_singleton.1 h⟩
      rw [targets, Nat.testBit_or, target, Bool.true_or]
    · exact .inl ⟨List.mem_singleton.1 h, rfl⟩

end Tables

theorem toNat_ofNat_or (n : Nat) : (Char.ofNat n).toNat = n ∨ Char.ofNat n = Char.ofNat 0 := by
  by_cases h : n.isValidChar
  · refine .inl ?_
    rw [Char.ofNat, dif_pos h]
    rfl
  · refine .inr ?_
    rw [Char.ofNat, dif_neg h]
    rfl

end SchemaDrift.Text
