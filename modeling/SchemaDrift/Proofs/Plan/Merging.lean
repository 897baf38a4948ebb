import Mathlib.Data.List.Basic
import SchemaDrift.Plan.Basic

/-!
# Merged plans

Plans are merged two at a time, in any grouping. However they are grouped, the outcome has the
contents of all of them in order, its kind is the most destructive one among theirs, and its scripts
are theirs put together (`merged_plans_concatenate`).
-/

namespace SchemaDrift

open Document (Value)

namespace ChangeKind

def rank : ChangeKind → Nat
  | keep => 0
  | alter => 1
  | rebuild => 2

theorem rank_worse (k l : ChangeKind) : (k.worse l).rank = max k.rank l.rank := by
  cases k <;> cases l <;> rfl

theorem worse_eq_or (k l : ChangeKind) : k.worse l = k ∨ k.worse l = l := by
  cases k <;> cases l <;> decide

end ChangeKind

/-- Plans merged in some grouping. -/
inductive Merging where
  | empty (table : Value)
  | plan (p : Plan)
  /-- The outcome of the second is merged into that of the first. -/
  | merge (first second : Merging)

namespace Merging

def result : Merging → Plan
  | empty table => { table }
  | plan p => p
  | merge first second => first.result ++ second.result

def parts : Merging → List Plan
  | empty _ => []
  | plan p => [p]
  | merge first second => first.parts ++ second.parts

def sequence (table : Value) (plans : List Plan) : Merging :=
  plans.foldl (fun m p => m.merge (plan p)) (empty table)

theorem parts_foldl (m : Merging) (plans : List Plan) :
    (plans.foldl (fun m p => m.merge (plan p)) m).parts = m.parts ++ plans := by
  induction plans generalizing m with
  | nil => exact m.parts.append_nil.symm
  | cons p plans ih => rw [List.foldl_cons, ih, parts, parts, List.append_assoc,
      List.singleton_append]

theorem parts_sequence (table : Value) (plans : List Plan) :
    (sequence table plans).parts = plans :=
  parts_foldl (empty table) plans

theorem result_foldl (m : Merging) (plans : List Plan) :
    (plans.foldl (fun m p => m.merge (plan p)) m).result = plans.foldl (· ++ ·) m.result := by
  induction plans generalizing m with
  | nil => rfl
  | cons p plans ih => exact ih (m.merge (plan p))

theorem result_sequence (table : Value) (plans : List Plan) :
    (sequence table plans).result = plans.foldl (· ++ ·) { table } :=
  result_foldl (empty table) plans

/-- A list of an empty plan is empty, and one of two merged plans is theirs in order. -/
structure Appends {α : Type} (f : Plan → List α) : Prop where
  empty : ∀ table, f { table } = []
  append : ∀ p q : Plan, f (p ++ q) = f p ++ f q

theorem Appends.result {α : Type} {f : Plan → List α} (h : Appends f) (m : Merging) :
    f m.result = m.parts.flatMap f := by
  induction m with
  | empty table => exact h.empty table
  | plan p => exact (List.flatMap_singleton f p).symm
  | merge first second ihFirst ihSecond =>
    rw [Merging.result, parts, h.append, ihFirst, ihSecond, List.flatMap_append]

theorem appends_statements : Appends Plan.statements := ⟨fun _ => rfl, fun _ _ => rfl⟩

theorem appends_differences : Appends Plan.differences := ⟨fun _ => rfl, fun _ _ => rfl⟩

theorem appends_warnings : Appends Plan.warnings := ⟨fun _ => rfl, fun _ _ => rfl⟩

theorem appends_separateDrops : Appends Plan.separateDrops := ⟨fun _ => rfl, fun _ _ => rfl⟩

theorem rank_le_result {m : Merging} {p : Plan} (h : p ∈ m.parts) :
    p.kind.rank ≤ m.result.kind.rank := by
  induction m with
  | empty table => cases h
  | plan q =>
    cases List.mem_singleton.1 h
    exact Nat.le_refl _
  | merge first second ihFirst ihSecond =>
    rw [result, Plan.kind_append, ChangeKind.rank_worse]
    rcases List.mem_append.1 h with h | h
    · exact Nat.le_trans (ihFirst h) (Nat.le_max_left ..)
    · exact Nat.le_trans (ihSecond h) (Nat.le_max_right ..)

theorem kind_attained (m : Merging) :
    m.result.kind = .keep ∨ ∃ p ∈ m.parts, p.kind = m.result.kind := by
  induction m with
  | empty table => exact .inl rfl
  | plan p => exact .inr ⟨p, List.mem_singleton_self p, rfl⟩
  | merge first second ihFirst ihSecond =>
    rw [result, Plan.kind_append, parts]
    rcases ChangeKind.worse_eq_or first.result.kind second.result.kind with same | same
    · rw [same]
      refine ihFirst.imp_right ?_
      rintro ⟨p, mem, kind⟩
      exact ⟨p, List.mem_append_left _ mem, kind⟩
    · rw [same]
      refine ihSecond.imp_right ?_
      rintro ⟨p, mem, kind⟩
      exact ⟨p, List.mem_append_right _ mem, kind⟩

/-- The scripts of those lists of statements that are not empty, one after another. -/
def joinedScripts (f : Plan → List Statement) (plans : List Plan) : String :=
  "\n".intercalate ((plans.filter fun p => !(f p).isEmpty).map fun p => Plan.scriptOf (f p))

theorem scriptOf_append {xs ys : List Statement} (hxs : xs ≠ []) (hys : ys ≠ []) :
    Plan.scriptOf (xs ++ ys) = Plan.scriptOf xs ++ "\n" ++ Plan.scriptOf ys := by
  rw [Plan.scriptOf, List.map_append, String.intercalate_append_of_ne_nil]
  · rfl
  · exact mt List.map_eq_nil_iff.1 hxs
  · exact mt List.map_eq_nil_iff.1 hys

theorem filter_eq_nil_iff (f : Plan → List Statement) (plans : List Plan) :
    (plans.filter fun p => !(f p).isEmpty) = [] ↔ plans.flatMap f = [] := by
  simp [List.filter_eq_nil_iff, List.flatMap_eq_nil_iff]

theorem scriptOf_flatMap (f : Plan → List Statement) (plans : List Plan) :
    Plan.scriptOf (plans.flatMap f) = joinedScripts f plans := by
  induction plans with
  | nil => rfl
  | cons p plans ih =>
    rw [List.flatMap_cons, joinedScripts]
    by_cases silent : f p = []
    · -- Without statements the part puts no line end in front of what follows.
      rw [silent, List.nil_append, ih, List.filter_cons_of_neg (by simp [silent]), joinedScripts]
    · rw [List.filter_cons_of_pos (by simp [silent]), List.map_cons]
      by_cases last : plans.flatMap f = []
      · rw [last, List.append_nil, (filter_eq_nil_iff f plans).2 last, List.map_nil,
          String.intercalate_singleton]
      · have more : ((plans.filter fun q => !(f q).isEmpty).map fun q => Plan.scriptOf (f q)) ≠ [] :=
          mt List.map_eq_nil_iff.1 (mt (filter_eq_nil_iff f plans).1 last)
        rw [scriptOf_append silent last, String.intercalate_cons_of_ne_nil more, ih, joinedScripts]

theorem isEmpty_iff (m : Merging) :
    m.result.isEmpty = true ↔ ∀ p ∈ m.parts, p.isEmpty = true := by
  simp only [Plan.isEmpty, Bool.and_eq_true, List.isEmpty_iff, appends_statements.result m,
    appends_separateDrops.result m, List.flatMap_eq_nil_iff]
  exact forall₂_and.symm

/--
Merged plans come to the lists of all of them in order, whatever the grouping. The kind is the most
destructive of theirs, there is nothing to run where there is nothing to run in any of them, and the
scripts are theirs one after another, without those that have no statement. A merging into itself
has each list twice.
-/
theorem merged_plans_concatenate (m : Merging) :
    m.result.statements = m.parts.flatMap (·.statements) ∧
      m.result.differences = m.parts.flatMap (·.differences) ∧
      m.result.warnings = m.parts.flatMap (·.warnings) ∧
      m.result.separateDrops = m.parts.flatMap (·.separateDrops) ∧
      ((∀ p ∈ m.parts, p.kind.rank ≤ m.result.kind.rank) ∧
        (m.result.kind = .keep ∨ ∃ p ∈ m.parts, p.kind = m.result.kind)) ∧
      (m.result.isEmpty = true ↔ ∀ p ∈ m.parts, p.isEmpty = true) ∧
      m.result.script =
        "\n".intercalate ((m.parts.filter fun p => !p.statements.isEmpty).map (·.script)) ∧
      m.result.dropScript =
        "\n".intercalate ((m.parts.filter fun p => !p.separateDrops.isEmpty).map (·.dropScript)) ∧
      ((m.merge m).result.statements = m.result.statements ++ m.result.statements ∧
        (m.merge m).result.differences = m.result.differences ++ m.result.differences ∧
        (m.merge m).result.warnings = m.result.warnings ++ m.result.warnings ∧
        (m.merge m).result.separateDrops = m.result.separateDrops ++ m.result.separateDrops) ∧
      ∀ (table : Value) (plans : List Plan), (sequence table plans).parts = plans ∧
        (sequence table plans).result = plans.foldl (· ++ ·) { table } := by
  refine ⟨appends_statements.result m, appends_differences.result m, appends_warnings.result m,
    appends_separateDrops.result m, ⟨fun _ => rank_le_result, kind_attained m⟩, isEmpty_iff m, ?_, ?_,
    ⟨rfl, rfl, rfl, rfl⟩, fun table plans => ⟨parts_sequence table plans, result_sequence table plans⟩⟩
  · rw [Plan.script, appends_statements.result m, scriptOf_flatMap]
    rfl
  · rw [Plan.dropScript, appends_separateDrops.result m, scriptOf_flatMap]
    rfl

/-- Two plans with statements, one of them blank, around a plan that has only drops. -/
def regrouped : Merging :=
  ((empty "SALES_ORDER").merge (plan {
    table := "SALES_ORDER", statements := [.verbatim .alter "\n"]
    differences := [{
      table := "SALES_ORDER", column := "CODE", desired := none
      marks := .ofChanges { length := true } }] })).merge
  ((plan { table := "SALES_ORDER", separateDrops := [.verbatim .drop "drop table OLD ^"] }).merge
    (plan { table := "SALES_ORDER", statements := [.verbatim .rename "sp_rename 'A', 'B' ^\n"] }))

theorem merged_plans_concatenate_regrouped :
    regrouped.result.script = "\nsp_rename 'A', 'B' ^" ∧
      regrouped.result.dropScript = "drop table OLD ^" ∧
      ChangeKind.alter.rank ≤ regrouped.result.kind.rank ∧
      regrouped.result.isEmpty = false ∧
      (regrouped.merge regrouped).result.warnings = [] := by
  obtain ⟨-, -, -, -, ⟨bound, -⟩, idle, script, dropScript, ⟨-, -, twice, -⟩, -⟩ :=
    merged_plans_concatenate regrouped
  refine ⟨script.trans (by decide +kernel), dropScript.trans (by decide +kernel),
    bound _ (List.mem_cons_self ..), ?_, twice⟩
  rw [Bool.eq_false_iff, ne_eq, idle]
  intro all
  exact absurd (all _ (List.mem_cons_self ..)) (by decide)

end Merging

end SchemaDrift
