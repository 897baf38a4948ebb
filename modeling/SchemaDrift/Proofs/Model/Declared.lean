import SchemaDrift.Ddl.Composer
import SchemaDrift.Proofs.Session.Returns

/-!
# Declared columns

The columns that an entity declares are those of its leaves, where they are texts. A column that a
leaf has at all is a text, and it is the column under which the leaf is composed.
-/

namespace SchemaDrift

open Document (Value)

namespace Attribute

/-- A prefix that is there is a text. -/
def IsTextual (pre : Except Fault Value) : Prop := ∀ v, pre = .ok v → ∃ s, v = .text s

theorem isTextual_joined {pre : Except Fault Value} (h : IsTextual pre) (column : Value) :
    IsTextual (joined pre column) := by
  intro v hv
  obtain ⟨front, hfront, hv⟩ := bind_eq_ok.1 hv
  obtain ⟨s, rfl⟩ := h front hfront
  cases column with
  | text t =>
    cases hv
    exact ⟨s ++ t, rfl⟩
  | null | bool _ | int _ | real _ | moment _ | bytes _ | list _ | map _ => cases hv

/-- A leaf is plain, and its column is its own name behind a prefix. -/
def IsLeaf (leaf : Leaf) : Prop :=
  leaf.1.isEmbedded = false ∧
    ∃ pre, IsTextual pre ∧ leaf.2 = do joined pre (← leaf.1.columnName)

theorem mem_expandAll {pre : Except Fault Value} {as : List Attribute} {leaf : Leaf} :
    leaf ∈ expandAll pre as ↔ ∃ a ∈ as, leaf ∈ a.expand pre := by
  induction as with
  | nil => simp
  | cons a as ih => rw [expandAll_cons, List.mem_append, ih, List.exists_mem_cons_iff]

mutual

theorem isLeaf_of_mem_expand {pre : Except Fault Value} (h : IsTextual pre) :
    (a : Attribute) → ∀ leaf ∈ a.expand pre, IsLeaf leaf
  | plain f ps => by
    intro leaf hleaf
    rw [expand_plain, List.mem_singleton] at hleaf
    subst hleaf
    exact ⟨rfl, pre, h, rfl⟩
  | embedded f first rest => by
    intro leaf hleaf
    have inner := isTextual_joined h (f.columnPrefix.statedOr "")
    rw [expand, List.mem_append] at hleaf
    rcases hleaf with hleaf | hleaf
    · exact isLeaf_of_mem_expand inner first leaf hleaf
    · exact isLeaf_of_mem_expandAll inner rest leaf hleaf

theorem isLeaf_of_mem_expandAll {pre : Except Fault Value} (h : IsTextual pre) :
    (as : List Attribute) → ∀ leaf ∈ expandAll pre as, IsLeaf leaf
  | [] => by simp
  | a :: as => by
    intro leaf hleaf
    rw [expandAll_cons, List.mem_append] at hleaf
    rcases hleaf with hleaf | hleaf
    · exact isLeaf_of_mem_expand h a leaf hleaf
    · exact isLeaf_of_mem_expandAll h as leaf hleaf

end

theorem isTextual_empty : IsTextual (.ok "") := by
  intro v hv
  cases hv
  exact ⟨"", rfl⟩

theorem isLeaf_of_mem_columns {a : Attribute} {leaf : Leaf} (h : leaf ∈ a.expand (.ok "")) :
    IsLeaf leaf :=
  isLeaf_of_mem_expand isTextual_empty a leaf h

theorem exists_text_of_isLeaf {leaf : Leaf} (h : IsLeaf leaf) {v : Value} (hv : leaf.2 = .ok v) :
    ∃ c, v = .text c := by
  obtain ⟨-, pre, textual, whole⟩ := h
  rw [hv] at whole
  obtain ⟨column, -, hjoined⟩ := bind_eq_ok.1 whole.symm
  exact isTextual_joined textual column v hjoined

theorem columnOr_of_isLeaf {leaf : Leaf} (h : IsLeaf leaf) {c : String}
    (hc : leaf.2 = .ok (.text c)) : Composer.columnOr (.text c) leaf.1 = .ok (.text c) := by
  by_cases stated : c = ""
  · obtain ⟨-, pre, textual, whole⟩ := h
    rw [hc] at whole
    obtain ⟨column, hcolumn, hjoined⟩ := bind_eq_ok.1 whole.symm
    obtain ⟨front, hfront, hjoined⟩ := bind_eq_ok.1 hjoined
    obtain ⟨s, rfl⟩ := textual front hfront
    cases column with
    | text t =>
      cases hjoined
      have empty : t = "" := (String.append_eq_empty_iff.1 stated).2
      have front : s = "" := (String.append_eq_empty_iff.1 stated).1
      subst empty
      subst front
      simpa [Composer.columnOr, Value.stated?, Value.isTruthy] using hcolumn
    | null | bool _ | int _ | real _ | moment _ | bytes _ | list _ | map _ => cases hjoined
  · simp [Composer.columnOr, Value.stated?, Value.isTruthy, stated]

end Attribute

/-- A plain attribute with the text that is its column. -/
abbrev Declared := Attribute × String

/-- The column under which a declared column is compared: in upper case. -/
def Declared.key (l : Declared) : String := Text.upper l.2

/-- The declared column of a leaf, if its column is a text. -/
def Attribute.declared? (leaf : Attribute.Leaf) : Option Declared :=
  match leaf.2 with
  | .ok (.text c) => some (leaf.1, c)
  | _ => none

namespace Entity

def declared (e : Entity) : List Declared := e.leaves.filterMap Attribute.declared?

theorem mem_leaves_of_mem_declared {e : Entity} {l : Declared} (h : l ∈ e.declared) :
    (l.1, .ok (.text l.2)) ∈ e.leaves := by
  obtain ⟨⟨a, column⟩, mem, hl⟩ := List.mem_filterMap.1 h
  simp only [Attribute.declared?] at hl
  split at hl
  · next c =>
    cases hl
    exact mem
  · cases hl

theorem mem_declared_of_mem_leaves {e : Entity} {leaf : Attribute.Leaf} {c : String}
    (hleaf : leaf ∈ e.leaves) (hc : leaf.2 = .ok (.text c)) : (leaf.1, c) ∈ e.declared := by
  refine List.mem_filterMap.2 ⟨leaf, hleaf, ?_⟩
  rw [Attribute.declared?, hc]

theorem isLeaf_of_mem_leaves {e : Entity} {leaf : Attribute.Leaf} (h : leaf ∈ e.leaves) :
    Attribute.IsLeaf leaf :=
  Attribute.isLeaf_of_mem_expandAll Attribute.isTextual_empty e.attributes leaf h

theorem isEmbedded_of_mem_declared {e : Entity} {l : Declared} (h : l ∈ e.declared) :
    l.1.isEmbedded = false :=
  (isLeaf_of_mem_leaves (mem_leaves_of_mem_declared h)).1

theorem columnOr_of_mem_declared {e : Entity} {l : Declared} (h : l ∈ e.declared) :
    Composer.columnOr (.text l.2) l.1 = .ok (.text l.2) :=
  Attribute.columnOr_of_isLeaf (isLeaf_of_mem_leaves (mem_leaves_of_mem_declared h)) rfl

theorem leaves_eq_of_forall_ok {e : Entity} (h : ∀ leaf ∈ e.leaves, ∃ v, leaf.2 = .ok v) :
    e.leaves = e.declared.map fun l => (l.1, .ok (.text l.2)) := by
  have textual : ∀ leaf ∈ e.leaves, ∃ c, leaf.2 = .ok (.text c) := by
    intro leaf hleaf
    obtain ⟨v, hv⟩ := h leaf hleaf
    obtain ⟨c, rfl⟩ := Attribute.exists_text_of_isLeaf (isLeaf_of_mem_leaves hleaf) hv
    exact ⟨c, hv⟩
  rw [declared]
  generalize e.leaves = leaves at textual
  induction leaves with
  | nil => rfl
  | cons leaf leaves ih =>
    obtain ⟨a, column⟩ := leaf
    obtain ⟨c, rfl⟩ := textual _ (List.mem_cons_self ..)
    have head : Attribute.declared? (a, .ok (.text c)) = some (a, c) := rfl
    rw [List.filterMap_cons_some head, List.map_cons,
      ← ih fun leaf hleaf => textual leaf (List.mem_cons_of_mem _ hleaf)]

end Entity

end SchemaDrift
