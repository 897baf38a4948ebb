import SchemaDrift.Proofs.Session.Faults

/-!
# Sessions that run alike

Two sessions, beside two sources, run alike if they give the same result and leave trails that are
still bound to each other. What binds two trails is a matter of the `Bond`: it may depend on a world,
which a scope changes for as long as it is open, and on the fault that a run has ended with.
-/

namespace SchemaDrift

variable {ι σ τ α β : Type}

/-- What binds the trails of two runs. It has to outlast a fault. -/
structure Bond (ι σ τ : Type) where
  /-- In a world, two runs that go on or have ended with a fault are bound by their trails. -/
  holds : ι → Option Fault → Trail σ → Trail τ → Prop
  fails : ∀ {w fault t u}, holds w none t u → holds w (some fault) t u

namespace Bond

/-- From trails that are bound, two sessions give one result and leave trails that are bound. -/
def Alike (B : Bond ι σ τ) (s : Session σ α) (s' : Session τ α) : Prop :=
  ∀ w t u, B.holds w none t u → ((ExceptT.run s).run t).1 = ((ExceptT.run s').run u).1 ∧
    B.holds w (fault? ((ExceptT.run s).run t).1) ((ExceptT.run s).run t).2
      ((ExceptT.run s').run u).2

variable {B : Bond ι σ τ} {s : Session σ α} {s' : Session τ α}

theorem alike_lift (r : Except Fault α) : B.Alike (liftM r) (liftM r) := by
  intro w t u h
  show r = r ∧ B.holds w (fault? r) t u
  cases r with
  | ok a => exact ⟨rfl, h⟩
  | error fault => exact ⟨rfl, B.fails h⟩

theorem alike_pure (a : α) : B.Alike (pure a) (pure a) := alike_lift (.ok a)

theorem alike_throw (fault : Fault) : B.Alike (throw fault : Session σ α) (throw fault) :=
  alike_lift (.error fault)

theorem Alike.bind {f : α → Session σ β} {f' : α → Session τ β} (h : B.Alike s s')
    (hf : ∀ a, B.Alike (f a) (f' a)) : B.Alike (s >>= f) (s' >>= f') := by
  intro w t u bound
  obtain ⟨same, bound⟩ := h w t u bound
  show (ExceptT.bindCont f (s t).1 (s t).2).1 = (ExceptT.bindCont f' (s' u).1 (s' u).2).1 ∧
    B.holds w (fault? (ExceptT.bindCont f (s t).1 (s t).2).1) (ExceptT.bindCont f (s t).1 (s t).2).2
      (ExceptT.bindCont f' (s' u).1 (s' u).2).2
  rw [show (s' u).1 = (s t).1 from same.symm]
  replace bound : B.holds w (fault? (s t).1) (s t).2 (s' u).2 := bound
  cases run : (s t).1 with
  | error fault =>
    rw [run] at bound
    exact ⟨rfl, bound⟩
  | ok a =>
    rw [run] at bound
    exact hf a w _ _ bound

/-- After a result that is known without a source, only what follows this result matters. -/
theorem alike_lift_bind {r : Except Fault α} {f : α → Session σ β} {f' : α → Session τ β}
    (hf : ∀ a, r = .ok a → B.Alike (f a) (f' a)) : B.Alike (liftM r >>= f) (liftM r >>= f') := by
  cases r with
  | error fault => exact alike_throw fault
  | ok a => exact hf a rfl

theorem Alike.ite {c : Prop} [Decidable c] {f : Session σ α} {f' : Session τ α}
    (hs : B.Alike s s') (hf : B.Alike f f') :
    B.Alike (if c then s else f) (if c then s' else f') := by
  split
  · exact hs
  · exact hf

theorem alike_mapM {f : α → Session σ β} {f' : α → Session τ β} {xs : List α}
    (h : ∀ x ∈ xs, B.Alike (f x) (f' x)) : B.Alike (xs.mapM f) (xs.mapM f') := by
  induction xs with
  | nil =>
    rw [List.mapM_nil, List.mapM_nil]
    exact alike_pure []
  | cons x xs ih =>
    rw [List.mapM_cons, List.mapM_cons]
    refine (h x (List.mem_cons_self ..)).bind fun y => ?_
    refine (ih fun x' hx' => h x' (List.mem_cons_of_mem x hx')).bind fun ys => ?_
    exact alike_pure (y :: ys)

theorem alike_forM {f : α → Session σ Unit} {f' : α → Session τ Unit} {xs : List α}
    (h : ∀ x ∈ xs, B.Alike (f x) (f' x)) : B.Alike (xs.forM f) (xs.forM f') := by
  induction xs with
  | nil => exact alike_pure ()
  | cons x xs ih =>
    refine (h x (List.mem_cons_self ..)).bind fun _ => ?_
    exact ih fun x' hx' => h x' (List.mem_cons_of_mem x hx')

def still (σ : Type) : Bond σ σ σ where
  holds source _ t u := u = t ∧ t.source = source
  fails := id

/-- Any two trails are bound. -/
def loose (σ τ : Type) : Bond Unit σ τ where
  holds _ _ _ _ := True
  fails := id

theorem source_of_still {s : Session σ α} (h : (still σ).Alike s s) (t : Trail σ) :
    ((ExceptT.run s).run t).2.source = t.source := (h t.source t t ⟨rfl, rfl⟩).2.2

theorem source_of_returns_still {s : Session σ α} {a : α} {t t' : Trail σ}
    (h : (still σ).Alike s s) (returned : s.Returns t a t') : t'.source = t.source := by
  have kept := source_of_still h t
  rwa [show (ExceptT.run s).run t = (.ok a, t') from returned] at kept

theorem source_bind_of_still {s : Session σ α} {f : α → Session σ β}
    (h : ∀ a, (still σ).Alike (f a) (f a)) (t : Trail σ) :
    ((ExceptT.run (s >>= f)).run t).2.source = ((ExceptT.run s).run t).2.source := by
  show (ExceptT.bindCont f (s t).1 (s t).2).2.source = (s t).2.source
  cases (s t).1 with
  | error fault => rfl
  | ok a => exact source_of_still (h a) (s t).2

/-- Two sources serve two runs alike: their lookups do, and their scopes keep what runs inside alike. -/
structure Serves (B : Bond ι σ τ) (P : Provider σ) (P' : Provider τ) : Prop where
  within : ∀ {α : Type} {s : Session σ α} {s' : Session τ α}, B.Alike s s' →
    B.Alike (P.within s) (P'.within s')
  foreignKeys : ∀ table column, B.Alike (P.foreignKeys table column) (P'.foreignKeys table column)
  defaults : ∀ table column, B.Alike (P.defaults table column) (P'.defaults table column)
  indexes : ∀ table column, B.Alike (P.indexes table column) (P'.indexes table column)

end Bond

end SchemaDrift
