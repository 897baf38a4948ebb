import SchemaDrift.Model.Entity

/-!
# Differences

How a wanted column differs from the one found, dimension by dimension, and what that asks for:
nothing, an alteration in place, or a column that is dropped and made anew. A change of type
always asks for the last.
-/

namespace SchemaDrift

open Document (Value)

/-- What a difference asks for, from the least to the most destructive. -/
inductive ChangeKind where
  | keep
  | alter
  | rebuild
  deriving Repr, DecidableEq

namespace ChangeKind

def label : ChangeKind → String
  | keep => "no_change"
  | alter => "alter"
  | rebuild => "rebuild"

def worse : ChangeKind → ChangeKind → ChangeKind
  | rebuild, _ => rebuild
  | _, rebuild => rebuild
  | alter, _ => alter
  | keep, k => k

def worst (kinds : List ChangeKind) : ChangeKind := kinds.foldr worse keep

@[simp] theorem worst_nil : worst [] = keep := rfl

@[simp] theorem worst_cons (k : ChangeKind) (ks : List ChangeKind) :
    worst (k :: ks) = k.worse (worst ks) := rfl

theorem worse_assoc (a b c : ChangeKind) : (a.worse b).worse c = a.worse (b.worse c) := by
  cases a <;> cases b <;> cases c <;> rfl

theorem worst_append (ks ls : List ChangeKind) :
    worst (ks ++ ls) = (worst ks).worse (worst ls) := by
  induction ks with
  | nil => cases h : worst ls <;> simp [h, worse]
  | cons k ks ih => simp [ih, worse_assoc]

theorem worst_eq_keep {ks : List ChangeKind} (h : ∀ k ∈ ks, k = keep) : worst ks = keep := by
  induction ks with
  | nil => rfl
  | cons k ks ih =>
    rw [worst_cons, h k (List.mem_cons_self ..),
      ih fun k' hk' => h k' (List.mem_cons_of_mem _ hk')]
    rfl

theorem worst_eq_keep_iff (ks : List ChangeKind) : worst ks = keep ↔ ∀ k ∈ ks, k = keep := by
  refine ⟨fun h => ?_, worst_eq_keep⟩
  induction ks with
  | nil => simp
  | cons k ks ih =>
    have both : k = keep ∧ worst ks = keep := by
      rw [worst_cons] at h
      cases k <;> cases hw : worst ks <;> simp_all [worse]
    exact List.forall_mem_cons.2 ⟨both.1, ih both.2⟩

end ChangeKind

/-- The dimensions in which two columns differ. -/
structure Changes where
  type : Bool := false
  length : Bool := false
  precision : Bool := false
  scale : Bool := false
  mandatory : Bool := false
  deriving Repr, DecidableEq

namespace Changes

def decimal (c : Changes) : Bool := c.precision || c.scale

def kind (c : Changes) : ChangeKind :=
  if c.type then .rebuild
  else if c.length || c.decimal || c.mandatory then .alter
  else .keep

/-- The names of the dimensions that differ, in a fixed order. -/
def dimensions (c : Changes) : List String :=
  (if c.type then ["type"] else []) ++ (if c.length then ["length"] else []) ++
    (if c.precision then ["precision"] else []) ++ (if c.scale then ["scale"] else []) ++
      if c.mandatory then ["mandatory"] else []

theorem kind_eq_keep_iff (c : Changes) : c.kind = .keep ↔ c = {} := by
  rcases c with ⟨_ | _, _ | _, _ | _, _ | _, _ | _⟩ <;> simp [kind, decimal]

theorem kind_eq_rebuild_iff (c : Changes) : c.kind = .rebuild ↔ c.type = true := by
  rw [kind]
  cases c.type <;> cases (c.length || c.decimal || c.mandatory) <;> decide

theorem changed_of_kind_eq_alter {c : Changes} (h : c.kind = .alter) :
    c.length = true ∨ c.decimal = true ∨ c.mandatory = true := by
  rw [kind] at h
  split at h
  · cases h
  · split at h
    · next changed =>
      rw [Bool.or_eq_true_iff, Bool.or_eq_true_iff] at changed
      exact or_assoc.1 changed
    · cases h

end Changes

/-- The marks of a difference as they are written: whatever counts as true is a change. -/
structure Marks where
  type : Value := .bool false
  length : Value := .bool false
  precision : Value := .bool false
  scale : Value := .bool false
  mandatory : Value := .bool false
  deriving Repr, DecidableEq

namespace Marks

def changes (m : Marks) : Changes where
  type := m.type.isTruthy
  length := m.length.isTruthy
  precision := m.precision.isTruthy
  scale := m.scale.isTruthy
  mandatory := m.mandatory.isTruthy

def decimal (m : Marks) : Value := m.precision.statedOr m.scale

def ofChanges (c : Changes) : Marks where
  type := .bool c.type
  length := .bool c.length
  precision := .bool c.precision
  scale := .bool c.scale
  mandatory := .bool c.mandatory

end Marks

/-- The column that an attribute wants, beside the column found. -/
structure Difference where
  table : Value
  column : Value
  desired : Option Column
  current : Option Column := none
  marks : Marks := {}
  deriving Repr, DecidableEq

namespace Difference

def changes (d : Difference) : Changes := d.marks.changes

def kind (d : Difference) : ChangeKind := d.changes.kind

def hasChanges (d : Difference) : Bool := d.kind != .keep

/-- Whether the report on the difference can be written: it describes columns that differ. -/
def isReportable (d : Difference) : Bool :=
  !d.hasChanges || (d.current.all (·.isDescribable) && d.desired.all (·.isDescribable))

def mark : ChangeKind → String
  | .keep => "="
  | .alter => "~"
  | .rebuild => "!"

/-- The difference on one line: what was found, what is wanted, in which dimensions they differ. -/
def summary (d : Difference) : String :=
  let head := mark d.kind ++ " " ++ d.column.display
  if d.hasChanges then
    head ++ ": " ++ Column.describe? d.current ++ " -> " ++ Column.describe? d.desired ++ " [" ++
      ", ".intercalate d.changes.dimensions ++ "]"
  else head

/-- The difference once it has been told: its columns are described where they differ. -/
def told (d : Difference) : Difference :=
  if d.hasChanges then
    { d with desired := d.desired.map (·.described), current := d.current.map (·.described) }
  else d

def status : ChangeKind → String
  | .rebuild => "REQUIRES REVIEW (column is dropped and re-created)"
  | _ => "SAFE (altered in place)"

def report (d : Difference) : String :=
  let head := "Attribute Diff for '" ++ d.table.display ++ "." ++ d.column.display ++ "':"
  if d.hasChanges then
    "\n".intercalate [head, "  " ++ d.summary, "  Change type: " ++ d.kind.label,
      "  Status: " ++ status d.kind]
  else head ++ " No changes"

end Difference

end SchemaDrift
