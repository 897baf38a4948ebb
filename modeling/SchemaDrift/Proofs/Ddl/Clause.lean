import Std.Data.String.ToInt
import SchemaDrift.Ddl.Statement
import SchemaDrift.Model.Entity

/-!
# Reading a definition back

What is written behind the type of a column says its length, or its precision and scale, and whether
it is required. With whole numbers for amounts it can be read back in one way only
(`readsBack_iff`).
-/

namespace SchemaDrift

open Document (Value)

/-- What can be read in the parameters of a column. -/
inductive Clause where
  | empty
  | unlimited
  | length (n : Int)
  | decimal (precision scale : Int)
  deriving Repr, DecidableEq

namespace Clause

def pair (precision scale : Int) : String := toString precision ++ ", " ++ toString scale

def text : Clause → String
  | empty => ""
  | unlimited => "(max)"
  | length n => "(" ++ toString n ++ ")"
  | decimal precision scale => "(" ++ pair precision scale ++ ")"

def column (type : Value) (required : Bool) : Clause → Column
  | empty | unlimited => { type, nullable := .bool !required }
  | length n => { type, length := .int n, nullable := .bool !required }
  | decimal precision scale =>
    { type, precision := .int precision, scale := .int scale, nullable := .bool !required }

end Clause

/-- What is written behind the parameters of a column that is required, or not. -/
def requirement (required : Bool) : String := if required then " not null" else ""

/-- A column that is read back from its type and from the text behind it. -/
def ReadsBack (type : Value) (text : String) (c : Column) : Prop :=
  ∃ (clause : Clause) (required : Bool),
    text = clause.text ++ requirement required ∧ c = clause.column type required

theorem char_of_mem_toString {n : Int} {c : Char} (h : c ∈ (toString n).toList) :
    c = '-' ∨ c.isDigit = true := by
  rw [Int.toString_eq_repr, Int.repr_eq_if] at h
  split at h
  · rw [Nat.toList_repr] at h
    exact .inr (Nat.isDigit_of_mem_toDigits (by decide) (by decide) h)
  · rw [String.toList_append, List.mem_append, Nat.toList_repr] at h
    rcases h with sign | digit
    · exact .inl (by simpa using sign)
    · exact .inr (Nat.isDigit_of_mem_toDigits (by decide) (by decide) digit)

theorem toString_injective {n m : Int} (h : toString n = toString m) : n = m := by
  rw [Int.toString_eq_repr, Int.toString_eq_repr] at h
  exact Int.repr_injective h

theorem comma_not_mem (n : Int) : ',' ∉ (toString n).toList := by
  intro comma
  rcases char_of_mem_toString comma with sign | digit
  · exact absurd sign (by decide)
  · exact absurd digit (by decide)

theorem takeWhile_toString (n : Int) (rest : List Char) :
    ((toString n).toList ++ ',' :: rest).takeWhile (· != ',') = (toString n).toList := by
  rw [List.takeWhile_append_of_pos]
  · simp
  · intro c hc
    rw [bne_iff_ne]
    rintro rfl
    exact comma_not_mem n hc

namespace Clause

theorem comma_mem_pair (precision scale : Int) : ',' ∈ (pair precision scale).toList := by
  simp [pair]

theorem max_ne_toString (n : Int) : "max" ≠ toString n := by
  intro same
  have m : 'm' ∈ (toString n).toList := by
    rw [← same]
    decide
  rcases char_of_mem_toString m with sign | digit
  · exact absurd sign (by decide)
  · exact absurd digit (by decide)

theorem max_ne_pair (precision scale : Int) : "max" ≠ pair precision scale := by
  intro same
  have comma := comma_mem_pair precision scale
  rw [← same] at comma
  exact absurd comma (by decide)

theorem toString_ne_pair (n precision scale : Int) : toString n ≠ pair precision scale := by
  intro same
  have comma := comma_mem_pair precision scale
  rw [← same] at comma
  exact comma_not_mem n comma

theorem pair_injective {precision scale precision' scale' : Int}
    (h : pair precision scale = pair precision' scale') : precision = precision' ∧ scale = scale' := by
  have lists := congrArg (fun s : String => s.toList.takeWhile (· != ',')) h
  have separator : ", ".toList = [',', ' '] := by decide
  simp only [pair, String.toList_append, separator, List.append_assoc, List.cons_append,
    takeWhile_toString] at lists
  obtain rfl := toString_injective (String.toList_inj.1 lists)
  rw [pair, pair, String.append_right_inj] at h
  exact ⟨rfl, toString_injective h⟩

theorem text_injective {c c' : Clause} (h : c.text = c'.text) : c = c' := by
  have enclosed {s u : String} (h : "(" ++ s ++ ")" = "(" ++ u ++ ")") : s = u := by
    rwa [String.append_left_inj, String.append_right_inj] at h
  have nonempty (s : String) : "" ≠ "(" ++ s ++ ")" := by
    intro h
    simpa using congrArg String.toList h
  have max : "(max)" = "(" ++ "max" ++ ")" := by decide
  cases c with
  | empty =>
    cases c' with
    | empty => rfl
    | unlimited => exact absurd h (nonempty "max")
    | length n => exact absurd h (nonempty _)
    | decimal p s => exact absurd h (nonempty _)
  | unlimited =>
    cases c' with
    | empty => exact absurd h.symm (nonempty "max")
    | unlimited => rfl
    | length n => exact absurd (enclosed (max ▸ h)) (max_ne_toString n)
    | decimal p s => exact absurd (enclosed (max ▸ h)) (max_ne_pair p s)
  | length n =>
    cases c' with
    | empty => exact absurd h.symm (nonempty _)
    | unlimited => exact absurd (enclosed (max ▸ h.symm)) (max_ne_toString n)
    | length m => rw [toString_injective (enclosed h)]
    | decimal p s => exact absurd (enclosed h) (toString_ne_pair n p s)
  | decimal p s =>
    cases c' with
    | empty => exact absurd h.symm (nonempty _)
    | unlimited => exact absurd (enclosed (max ▸ h.symm)) (max_ne_pair p s)
    | length m => exact absurd (enclosed h.symm) (toString_ne_pair m p s)
    | decimal p' s' =>
      obtain ⟨rfl, rfl⟩ := pair_injective (enclosed h)
      rfl

theorem getLast?_text (c : Clause) :
    c.text.toList.getLast? = none ∨ c.text.toList.getLast? = some ')' := by
  have closed (s : String) : ("(" ++ s ++ ")").toList.getLast? = some ')' := by
    rw [String.toList_append]
    exact List.getLast?_concat
  cases c with
  | empty => exact .inl rfl
  | unlimited => exact .inr (closed "max")
  | length n => exact .inr (closed _)
  | decimal p s => exact .inr (closed _)

theorem required_ne (c c' : Clause) : c.text ++ requirement true ≠ c'.text ++ requirement false := by
  intro same
  have written : (c.text ++ requirement true).toList.getLast? = some 'l' := by
    rw [String.toList_append, List.getLast?_append]
    rfl
  have bare : c'.text ++ requirement false = c'.text := String.append_empty
  rw [same, bare] at written
  rcases getLast?_text c' with none | closed
  · rw [none] at written
    exact absurd written (by decide)
  · rw [closed] at written
    exact absurd written (by decide)

theorem text_requirement_injective {c c' : Clause} {r r' : Bool}
    (h : c.text ++ requirement r = c'.text ++ requirement r') : c = c' ∧ r = r' := by
  have split : r = r' := by
    cases r <;> cases r'
    · rfl
    · exact absurd h.symm (required_ne c' c)
    · exact absurd h (required_ne c c')
    · rfl
  subst split
  exact ⟨text_injective ((String.append_left_inj _).1 h), rfl⟩

end Clause

/-- What the parameters of a column say; nothing can be read in amounts that are not whole. -/
def Parameters.clause? : Parameters → Option Clause
  | .none => some .empty
  | .maxLength => some .unlimited
  | .length (.int n) => some (.length n)
  | .decimal (.int p) (.int s) => some (.decimal p s)
  | _ => Option.none

/-- A number that may be left out. -/
def Document.Value.IsAmount (v : Value) : Prop := v = .null ∨ ∃ n, v = .int n

namespace Parameters

theorem exists_clause_ofLength {v : Value} (h : v.IsAmount) :
    ∃ clause, (ofLength v).clause? = some clause := by
  rw [ofLength]
  split
  · next stated =>
    rcases h with rfl | ⟨n, rfl⟩
    · cases stated
    · exact ⟨.length n, rfl⟩
  · exact ⟨.unlimited, rfl⟩

theorem render_of_clause? {ps : Parameters} {c : Clause} (h : ps.clause? = some c) :
    ps.render = c.text := by
  cases ps with
  | none => cases h; rfl
  | maxLength => cases h; rfl
  | length n =>
    cases n with
    | int n => cases h; rfl
    | null | bool _ | real _ | moment _ | text _ | bytes _ | list _ | map _ => cases h
  | decimal p s =>
    cases p with
    | int p =>
      cases s with
      | int s => cases h; rfl
      | null | bool _ | real _ | moment _ | text _ | bytes _ | list _ | map _ => cases h
    | null | bool _ | real _ | moment _ | text _ | bytes _ | list _ | map _ => cases h

end Parameters

/-- What is written for a column is read back in one way. -/
theorem readsBack_iff {type : Value} {suffix : Suffix} {clause : Clause} {c : Column}
    (h : suffix.parameters.clause? = some clause) :
    ReadsBack type suffix.render c ↔ c = clause.column type suffix.notNull := by
  have written : suffix.render = clause.text ++ requirement suffix.notNull := by
    rw [Suffix.render, Parameters.render_of_clause? h]
    rfl
  constructor
  · rintro ⟨read, required, same, rfl⟩
    rw [written] at same
    obtain ⟨rfl, rfl⟩ := Clause.text_requirement_injective same
    rfl
  · rintro rfl
    exact ⟨clause, suffix.notNull, written, rfl⟩

end SchemaDrift
