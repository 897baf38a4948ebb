import SchemaDrift.Proofs.Session.Returns

/-!
# Sessions that fail

The fault of a computation is that of the first of its steps that has one. A computation either
returns a result or raises a fault, and a step that is known without the source leaves no trace.
-/

namespace SchemaDrift

section Except

variable {ε α β : Type}

/-- The fault of a result that could not be had. -/
def fault? : Except ε α → Option ε
  | .ok _ => none
  | .error fault => some fault

@[simp] theorem fault?_ok (a : α) : fault? (.ok a : Except ε α) = none := rfl

@[simp] theorem fault?_error (fault : ε) : fault? (.error fault : Except ε α) = some fault := rfl

theorem fault?_eq_some_iff {r : Except ε α} {fault : ε} :
    fault? r = some fault ↔ r = .error fault := by
  cases r <;> simp

theorem fault?_mapM {f : α → Except ε β} {refusal? : α → Option ε} {xs : List α}
    (h : ∀ x ∈ xs, fault? (f x) = refusal? x) : fault? (xs.mapM f) = xs.findSome? refusal? := by
  induction xs with
  | nil => rfl
  | cons x xs ih =>
    have later := ih fun x' hx' => h x' (List.mem_cons_of_mem x hx')
    rw [List.mapM_cons, List.findSome?_cons, ← later, ← h x (List.mem_cons_self ..)]
    cases f x with
    | error fault => rfl
    | ok y => cases xs.mapM f <;> rfl

theorem findSome?_eq_bind_find? (f : α → Option β) (xs : List α) :
    xs.findSome? f = (xs.find? fun x => (f x).isSome).bind f := by
  induction xs with
  | nil => rfl
  | cons x xs ih => cases h : f x <;> simp [h, ih]

end Except

namespace Session

variable {σ α β : Type}

/-- From one trail a session fails and leaves another trail. -/
def Raises (s : Session σ α) (t : Trail σ) (fault : Fault) (t' : Trail σ) : Prop :=
  (ExceptT.run s).run t = (.error fault, t')

theorem Returns.not_raises {s : Session σ α} {t t' t'' : Trail σ} {a : α} {fault : Fault}
    (h : s.Returns t a t') : ¬s.Raises t fault t'' := by
  intro h'
  rw [Returns] at h
  rw [Raises, h] at h'
  cases h'

theorem raises_lift {r : Except Fault α} {fault : Fault} {t t' : Trail σ} :
    (liftM r : Session σ α).Raises t fault t' ↔ r = .error fault ∧ t' = t := by
  show (r, t) = (.error fault, t') ↔ _
  rw [Prod.mk.injEq, @eq_comm _ t t']

theorem lift_ok_bind (a : α) (f : α → Session σ β) :
    (liftM (Except.ok a : Except Fault α) : Session σ α) >>= f = f a := rfl

theorem raises_bind_of_raises {s : Session σ α} {f : α → Session σ β} {fault : Fault}
    {t t' : Trail σ} (h : s.Raises t fault t') : (s >>= f).Raises t fault t' := by
  show ExceptT.bindCont f (s t).1 (s t).2 = (.error fault, t')
  rw [show s t = (.error fault, t') from h]
  rfl

theorem fault?_bind {s : Session σ α} {f : α → Session σ β} {t : Trail σ}
    (returns : ∀ a u, fault? ((ExceptT.run (f a)).run u).1 = none) :
    fault? ((ExceptT.run (s >>= f)).run t).1 = fault? ((ExceptT.run s).run t).1 := by
  show fault? (ExceptT.bindCont f (s t).1 (s t).2).1 = fault? (s t).1
  cases (s t).1 with
  | error fault => rfl
  | ok a => exact returns a (s t).2

theorem Raises.eq {s : Session σ α} {t t' t'' : Trail σ} {fault fault' : Fault}
    (h : s.Raises t fault t') (h' : s.Raises t fault' t'') : fault' = fault ∧ t'' = t' := by
  rw [Raises] at h
  rw [Raises, h] at h'
  cases h'
  exact ⟨rfl, rfl⟩

end Session

end SchemaDrift
