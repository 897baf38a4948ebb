import Mathlib.Data.List.Perm.Basic
import SchemaDrift.Metadata.Session

/-!
# Sessions that return

What has to have happened when a computation returned a result: each step of it returned one, in
order, from the trail that the step before had left.
-/

namespace SchemaDrift

section Except

variable {ε α β : Type}

theorem ok_bind (a : α) (f : α → Except ε β) : Except.ok a >>= f = f a := rfl

theorem bind_eq_ok {x : Except ε α} {f : α → Except ε β} {b : β} :
    x >>= f = .ok b ↔ ∃ a, x = .ok a ∧ f a = .ok b := by
  cases x with
  | error fault =>
    constructor
    · intro h
      cases h
    · rintro ⟨a, h, -⟩
      cases h
  | ok a =>
    constructor
    · intro h
      exact ⟨a, rfl, h⟩
    · rintro ⟨a', h, hf⟩
      cases h
      exact hf

theorem pure_eq_ok {a b : α} : (pure a : Except ε α) = .ok b ↔ a = b := by
  constructor
  · intro h
    cases h
    rfl
  · rintro rfl
    rfl

theorem mapM_eq_ok {f : α → Except ε β} {xs : List α} {ys : List β} :
    xs.mapM f = .ok ys ↔ List.Forall₂ (fun x y => f x = .ok y) xs ys := by
  induction xs generalizing ys with
  | nil =>
    rw [List.mapM_nil, pure_eq_ok, List.forall₂_nil_left_iff]
    exact eq_comm
  | cons x xs ih =>
    rw [List.mapM_cons, bind_eq_ok, List.forall₂_cons_left_iff]
    constructor
    · rintro ⟨y, hy, rest⟩
      obtain ⟨ys', hys, same⟩ := bind_eq_ok.1 rest
      exact ⟨y, ys', hy, ih.1 hys, (pure_eq_ok.1 same).symm⟩
    · rintro ⟨y, ys', hy, hys, rfl⟩
      exact ⟨y, hy, bind_eq_ok.2 ⟨ys', ih.2 hys, rfl⟩⟩

theorem perm_of_mapM_eq_ok {f : α → Except ε β} {xs xs' : List α} {ys ys' : List β}
    (h : xs'.Perm xs) (hys : xs.mapM f = .ok ys) (hys' : xs'.mapM f = .ok ys') : ys'.Perm ys := by
  obtain ⟨zs, each, perm⟩ := List.perm_comp_forall₂ h (mapM_eq_ok.1 hys)
  cases hys'.symm.trans (mapM_eq_ok.2 each)
  exact perm

theorem exists_of_mem_forall₂ {R : α → β → Prop} {xs : List α} {ys : List β}
    (h : List.Forall₂ R xs ys) {x : α} (hx : x ∈ xs) : ∃ y ∈ ys, R x y := by
  induction h with
  | nil => cases hx
  | @cons x' y xs ys first _ ih =>
    rcases List.mem_cons.1 hx with rfl | hx
    · exact ⟨y, List.mem_cons_self .., first⟩
    · obtain ⟨y', hy', related⟩ := ih hx
      exact ⟨y', List.mem_cons_of_mem y hy', related⟩

end Except

section Lists

variable {α β γ : Type} {R : α → β → Prop} {S : α → γ → Prop}

theorem exists_forall₂ {xs : List α} (h : ∀ x ∈ xs, ∃ y, R x y) : ∃ ys, List.Forall₂ R xs ys := by
  induction xs with
  | nil => exact ⟨[], .nil⟩
  | cons x xs ih =>
    obtain ⟨y, first⟩ := h x (List.mem_cons_self ..)
    obtain ⟨ys, rest⟩ := ih fun x' hx' => h x' (List.mem_cons_of_mem x hx')
    exact ⟨y :: ys, .cons first rest⟩

theorem forall₂_congr_left {R' : α → β → Prop} {xs : List α} {ys : List β}
    (h : ∀ x ∈ xs, ∀ y, R x y ↔ R' x y) : List.Forall₂ R xs ys ↔ List.Forall₂ R' xs ys := by
  induction xs generalizing ys with
  | nil => rw [List.forall₂_nil_left_iff, List.forall₂_nil_left_iff]
  | cons x xs ih =>
    have rest (ys : List β) : List.Forall₂ R xs ys ↔ List.Forall₂ R' xs ys :=
      ih fun x' hx' => h x' (List.mem_cons_of_mem x hx')
    simp only [List.forall₂_cons_left_iff, h x (List.mem_cons_self ..), rest]

theorem forall₂_and_iff {xs : List α} {ys : List β} {zs : List γ} :
    List.Forall₂ R xs ys ∧ List.Forall₂ S xs zs ↔
      ∃ qs : List (β × γ), List.Forall₂ (fun x q => R x q.1 ∧ S x q.2) xs qs ∧
        ys = qs.map (·.1) ∧ zs = qs.map (·.2) := by
  constructor
  · rintro ⟨first, second⟩
    induction first generalizing zs with
    | nil =>
      cases second
      exact ⟨[], .nil, rfl, rfl⟩
    | @cons x y xs ys hy _ ih =>
      cases second with
      | @cons _ z _ zs hz second =>
        obtain ⟨qs, hqs, rfl, rfl⟩ := ih second
        exact ⟨(y, z) :: qs, .cons ⟨hy, hz⟩ hqs, rfl, rfl⟩
  · rintro ⟨qs, hqs, rfl, rfl⟩
    rw [List.forall₂_map_right_iff, List.forall₂_map_right_iff]
    exact ⟨hqs.imp fun x q h => h.1, hqs.imp fun x q h => h.2⟩

theorem forall₂_image_iff {g : γ → β} {xs : List α} {ys : List β} :
    List.Forall₂ (fun x y => ∃ z, S x z ∧ y = g z) xs ys ↔
      ∃ zs, List.Forall₂ S xs zs ∧ ys = zs.map g := by
  constructor
  · intro h
    induction h with
    | nil => exact ⟨[], .nil, rfl⟩
    | cons first _ ih =>
      obtain ⟨z, hz, rfl⟩ := first
      obtain ⟨zs, hzs, rfl⟩ := ih
      exact ⟨z :: zs, .cons hz hzs, rfl⟩
  · rintro ⟨zs, hzs, rfl⟩
    rw [List.forall₂_map_right_iff]
    exact hzs.imp fun x z hz => ⟨z, hz, rfl⟩

end Lists

namespace Session

variable {σ α β : Type}

/-- From one trail a session returns a result and leaves another trail. -/
def Returns (s : Session σ α) (t : Trail σ) (a : α) (t' : Trail σ) : Prop :=
  (ExceptT.run s).run t = (.ok a, t')

theorem exists_returns {s : Session σ α} {t : Trail σ}
    (h : ((ExceptT.run s).run t).1.isOk = true) : ∃ a t', s.Returns t a t' := by
  rcases run : (ExceptT.run s).run t with ⟨_ | a, t'⟩
  · rw [run] at h
    cases h
  · exact ⟨a, t', run⟩

theorem exists_returns_of_map {s : Session σ α} {t : Trail σ} {f : α → β} {b : β}
    (h : ((ExceptT.run s).run t).1.toOption.map f = some b) :
    ∃ a t', s.Returns t a t' ∧ f a = b := by
  rcases run : (ExceptT.run s).run t with ⟨_ | a, t'⟩
  · rw [run] at h
    cases h
  · rw [run] at h
    exact ⟨a, t', run, Option.some.inj h⟩

theorem exists_returns_of_any {s : Session σ α} {t : Trail σ} {P : α → Trail σ → Bool}
    (h : ((ExceptT.run s).run t).1.toOption.any (P · ((ExceptT.run s).run t).2) = true) :
    ∃ a t', s.Returns t a t' ∧ P a t' = true := by
  rcases run : (ExceptT.run s).run t with ⟨_ | a, t'⟩
  · rw [run] at h
    cases h
  · rw [run] at h
    exact ⟨a, t', run, h⟩

theorem returns_pure {a b : α} {t t' : Trail σ} :
    (pure a : Session σ α).Returns t b t' ↔ a = b ∧ t' = t := by
  constructor
  · intro h
    cases h
    exact ⟨rfl, rfl⟩
  · rintro ⟨rfl, rfl⟩
    rfl

theorem returns_bind {s : Session σ α} {f : α → Session σ β} {t t'' : Trail σ} {b : β} :
    (s >>= f).Returns t b t'' ↔ ∃ a t', s.Returns t a t' ∧ (f a).Returns t' b t'' := by
  show (ExceptT.bindCont f (s t).1 : StateM (Trail σ) (Except Fault β)) (s t).2 = (.ok b, t'') ↔
    ∃ a t', s t = (.ok a, t') ∧ (f a) t' = (.ok b, t'')
  rcases s t with ⟨_ | a, t'⟩
  · constructor
    · intro h
      cases h
    · rintro ⟨a, u, h, -⟩
      cases h
  · constructor
    · intro h
      exact ⟨a, t', rfl, h⟩
    · rintro ⟨a', u, same, h⟩
      cases same
      exact h

theorem run_bind_of_returns {s : Session σ α} {f : α → Session σ β} {t u : Trail σ} {a : α}
    (h : s.Returns t a u) : (ExceptT.run (s >>= f)).run t = (ExceptT.run (f a)).run u := by
  show ExceptT.bindCont f (s t).1 (s t).2 = _
  rw [show s t = (.ok a, u) from h]
  rfl

theorem run_source_bind (f : σ → Session σ α) (t : Trail σ) :
    (ExceptT.run (source >>= f)).run t = (ExceptT.run (f t.source)).run t := rfl

theorem returns_modifySource (f : σ → σ) (t : Trail σ) :
    (modifySource f : Session σ Unit).Returns t () { t with source := f t.source } := rfl

theorem returns_lift {r : Except Fault α} {a : α} {t t' : Trail σ} :
    (liftM r : Session σ α).Returns t a t' ↔ r = .ok a ∧ t' = t := by
  show (r, t) = (.ok a, t') ↔ _
  rw [Prod.mk.injEq]
  exact and_congr_right fun _ => eq_comm

theorem returns_lift_bind {r : Except Fault α} {f : α → Session σ β} {t t' : Trail σ} {b : β} :
    ((liftM r : Session σ α) >>= f).Returns t b t' ↔ ∃ a, r = .ok a ∧ (f a).Returns t b t' := by
  rw [returns_bind]
  constructor
  · rintro ⟨a, u, ha, h⟩
    obtain ⟨known, same⟩ := returns_lift.1 ha
    exact ⟨a, known, same ▸ h⟩
  · rintro ⟨a, ha, h⟩
    exact ⟨a, t, returns_lift.2 ⟨ha, rfl⟩, h⟩

theorem not_returns_throw {fault : Fault} {a : α} {t t' : Trail σ} :
    ¬(throw fault : Session σ α).Returns t a t' := by
  intro h
  cases h

theorem source_of_returns_log {logger : Option Log.Logger} {level : Log.Level} {message : String}
    {t t' : Trail σ} {u : Unit} (h : (log logger level message : Session σ Unit).Returns t u t') :
    t'.source = t.source := by
  unfold log at h
  split at h
  · rw [(returns_pure.1 h).2]
  · cases h
    rfl
  · exact absurd h not_returns_throw

theorem exists_returns_log {logger : Option Log.Logger} (level : Log.Level) (message : String)
    (audible : ∀ v, logger ≠ some (.mute v)) (t : Trail σ) :
    ∃ t', (log logger level message : Session σ Unit).Returns t () t' := by
  match logger with
  | none => exact ⟨_, rfl⟩
  | some .recorder => exact ⟨_, rfl⟩
  | some (.mute v) => exact absurd rfl (audible v)

/-- Sessions that return from every trail on which an invariant holds, and preserve it. -/
theorem exists_returns_mapM_of_forall₂ {f : α → Session σ β} {I : Trail σ → Prop} {xs : List α}
    {ys : List β} (h : List.Forall₂ (fun x y => ∀ t, I t → ∃ t', (f x).Returns t y t' ∧ I t') xs ys)
    {t : Trail σ} (holds : I t) : ∃ t', (xs.mapM f).Returns t ys t' ∧ I t' := by
  induction h generalizing t with
  | nil =>
    refine ⟨t, ?_, holds⟩
    rw [List.mapM_nil]
    exact returns_pure.2 ⟨rfl, rfl⟩
  | @cons x y xs ys first _ ih =>
    obtain ⟨u, first, held⟩ := first t holds
    obtain ⟨t', rest, held⟩ := ih held
    refine ⟨t', ?_, held⟩
    rw [List.mapM_cons]
    refine returns_bind.2 ⟨y, u, first, ?_⟩
    exact returns_bind.2 ⟨ys, t', rest, returns_pure.2 ⟨rfl, rfl⟩⟩

theorem returns_mapM_of_forall₂ {f : α → Session σ β} {xs : List α} {ys : List β} {t : Trail σ}
    (h : List.Forall₂ (fun x y => (f x).Returns t y t) xs ys) : (xs.mapM f).Returns t ys t := by
  have each : List.Forall₂ (fun x y => ∀ u, u = t → ∃ u', (f x).Returns u y u' ∧ u' = t) xs ys := by
    apply h.imp
    rintro x y returned u rfl
    exact ⟨u, returned, rfl⟩
  obtain ⟨t', returned, rfl⟩ := exists_returns_mapM_of_forall₂ (I := (· = t)) each rfl
  exact returned

theorem exists_returns_mapM {f : α → Session σ β} {xs : List α} {t : Trail σ}
    (h : ∀ x ∈ xs, ∃ y, (f x).Returns t y t) : ∃ ys, (xs.mapM f).Returns t ys t := by
  obtain ⟨ys, each⟩ := exists_forall₂ h
  exact ⟨ys, returns_mapM_of_forall₂ each⟩

/--
A session for each item of a list: each returns, from a trail on which the invariant holds if it
held at first and every step preserves it.
-/
theorem forall₂_of_returns_mapM {f : α → Session σ β} {I : Trail σ → Prop} {R : α → β → Prop}
    {xs : List α} {ys : List β} {t t' : Trail σ} (holds : I t)
    (step : ∀ x ∈ xs, ∀ {u y u'}, I u → (f x).Returns u y u' → R x y ∧ I u')
    (h : (xs.mapM f).Returns t ys t') : List.Forall₂ R xs ys ∧ I t' := by
  induction xs generalizing t ys with
  | nil =>
    rw [List.mapM_nil, returns_pure] at h
    obtain ⟨rfl, rfl⟩ := h
    exact ⟨.nil, holds⟩
  | cons x xs ih =>
    rw [List.mapM_cons, returns_bind] at h
    obtain ⟨y, u, first, rest⟩ := h
    obtain ⟨ys', u', others, same⟩ := returns_bind.1 rest
    obtain ⟨rfl, rfl⟩ := returns_pure.1 same
    obtain ⟨related, held⟩ := step x (by simp) holds first
    have later := ih held (fun x' hx' => step x' (List.mem_cons_of_mem x hx')) others
    exact ⟨.cons related later.1, later.2⟩

theorem related_of_returns_mapM {f : α → Session σ β} {R : α → β → Prop} {xs : List α} {ys : List β}
    {t t' : Trail σ} (step : ∀ x ∈ xs, ∀ {u y u'}, (f x).Returns u y u' → R x y)
    (h : (xs.mapM f).Returns t ys t') : List.Forall₂ R xs ys := by
  refine (forall₂_of_returns_mapM (I := fun _ => True) trivial ?_ h).1
  intro x hx u y u' _ returned
  exact ⟨step x hx returned, trivial⟩

/--
A session for each item of a list: if each counts what some list of its own holds of a kind, all of
them count what these lists hold of it.
-/
theorem countP_of_returns_mapM {γ : Type} {f : α → Session σ β} {m : Trail σ → Nat} {q : γ → Bool}
    {g : α × β → List γ} {xs : List α} {ys : List β} {t t' : Trail σ}
    (step : ∀ x ∈ xs, ∀ {u y u'}, (f x).Returns u y u' → m u' = m u + (g (x, y)).countP q)
    (h : (xs.mapM f).Returns t ys t') :
    xs.length = ys.length ∧ m t' = m t + ((xs.zip ys).flatMap g).countP q := by
  induction xs generalizing t ys with
  | nil =>
    rw [List.mapM_nil, returns_pure] at h
    obtain ⟨rfl, rfl⟩ := h
    exact ⟨rfl, rfl⟩
  | cons x xs ih =>
    rw [List.mapM_cons, returns_bind] at h
    obtain ⟨y, u, first, rest⟩ := h
    obtain ⟨ys', u', others, same⟩ := returns_bind.1 rest
    obtain ⟨rfl, rfl⟩ := returns_pure.1 same
    obtain ⟨lengths, counted⟩ := ih (fun x' hx' => step x' (List.mem_cons_of_mem x hx')) others
    refine ⟨congrArg (· + 1) lengths, ?_⟩
    rw [counted, step x (List.mem_cons_self ..) first, List.zip_cons_cons, List.flatMap_cons,
      List.countP_append, Nat.add_assoc]

/-- A session for each item of a list, done for its records only, preserves what each step does. -/
theorem invariant_of_returns_forM {f : α → Session σ Unit} {I : Trail σ → Prop} {xs : List α}
    {t t' : Trail σ} {u : Unit} (holds : I t)
    (step : ∀ x ∈ xs, ∀ {v w v'}, I v → (f x).Returns v w v' → I v')
    (h : (xs.forM f).Returns t u t') : I t' := by
  induction xs generalizing t with
  | nil =>
    rw [(returns_pure.1 h).2]
    exact holds
  | cons x xs ih =>
    obtain ⟨w, v, first, rest⟩ := returns_bind.1 h
    have held := step x (by simp) holds first
    exact ih held (fun x' hx' => step x' (List.mem_cons_of_mem x hx')) rest

theorem audible_of_returns_log {logger : Option Log.Logger} {level : Log.Level} {message : String}
    {t t' : Trail σ} {u : Unit} (h : (log logger level message : Session σ Unit).Returns t u t') :
    ∀ v, logger ≠ some (.mute v) := by
  rintro v rfl
  exact not_returns_throw h

theorem exists_returns_forM {f : α → Session σ Unit} {xs : List α}
    (h : ∀ x ∈ xs, ∀ t, ∃ t', (f x).Returns t () t') (t : Trail σ) :
    ∃ t', (xs.forM f).Returns t () t' := by
  induction xs generalizing t with
  | nil => exact ⟨t, returns_pure.2 ⟨rfl, rfl⟩⟩
  | cons x xs ih =>
    obtain ⟨u, first⟩ := h x (List.mem_cons_self ..) t
    obtain ⟨t', rest⟩ := ih (fun x' hx' => h x' (List.mem_cons_of_mem x hx')) u
    exact ⟨t', returns_bind.2 ⟨(), u, first, rest⟩⟩

/-- What the session has returned from one trail, it returns from any. -/
def Portable (s : Session σ α) : Prop :=
  ∀ {t t' : Trail σ} {a : α}, s.Returns t a t' → ∀ u, ∃ u', s.Returns u a u'

theorem portable_pure (a : α) : (pure a : Session σ α).Portable := by
  intro t t' b h u
  exact ⟨u, returns_pure.2 ⟨(returns_pure.1 h).1, rfl⟩⟩

theorem portable_lift (r : Except Fault α) : (liftM r : Session σ α).Portable := by
  intro t t' a h u
  exact ⟨u, returns_lift.2 ⟨(returns_lift.1 h).1, rfl⟩⟩

theorem portable_log (logger : Option Log.Logger) (level : Log.Level) (message : String) :
    (log logger level message : Session σ Unit).Portable := by
  intro t t' a h u
  exact exists_returns_log level message (audible_of_returns_log h) u

theorem Portable.bind {s : Session σ α} {f : α → Session σ β} (hs : s.Portable)
    (hf : ∀ a, (f a).Portable) : (s >>= f).Portable := by
  intro t t' b h u
  obtain ⟨a, v, first, rest⟩ := returns_bind.1 h
  obtain ⟨u', first⟩ := hs first u
  obtain ⟨u'', rest⟩ := hf a rest u'
  exact ⟨u'', returns_bind.2 ⟨a, u', first, rest⟩⟩

theorem portable_mapM {f : α → Session σ β} (hf : ∀ x, (f x).Portable) (xs : List α) :
    (xs.mapM f).Portable := by
  induction xs with
  | nil =>
    rw [List.mapM_nil]
    exact portable_pure []
  | cons x xs ih =>
    rw [List.mapM_cons]
    exact Portable.bind (hf x) fun y => Portable.bind ih fun ys => portable_pure (y :: ys)

section Gives

variable {s : Session σ α} {f : α → Session σ β} {t u : Trail σ}

/-- From a trail the session returns the result, whatever trail it leaves. -/
def Gives (s : Session σ α) (t : Trail σ) (a : α) : Prop := ∃ t', s.Returns t a t'

theorem Portable.gives_iff (hs : s.Portable) {a : α} : s.Gives t a ↔ s.Gives u a := by
  constructor
  · intro h
    obtain ⟨t', h⟩ := h
    exact hs h u
  · intro h
    obtain ⟨u', h⟩ := h
    exact hs h t

theorem gives_pure {a b : α} : (pure a : Session σ α).Gives t b ↔ a = b := by
  simp only [Gives, returns_pure, exists_and_left, exists_eq, and_true]

theorem gives_lift {r : Except Fault α} {a : α} :
    (liftM r : Session σ α).Gives t a ↔ r = .ok a := by
  simp only [Gives, returns_lift, exists_and_left, exists_eq, and_true]

/-- What follows may start from the first trail again, since it gives the same from any. -/
theorem gives_bind (hf : ∀ a, (f a).Portable) {b : β} :
    (s >>= f).Gives t b ↔ ∃ a, s.Gives t a ∧ (f a).Gives t b := by
  constructor
  · intro h
    obtain ⟨t'', h⟩ := h
    obtain ⟨a, t', first, rest⟩ := returns_bind.1 h
    exact ⟨a, ⟨t', first⟩, hf a rest t⟩
  · intro h
    obtain ⟨a, ⟨t', first⟩, ⟨u, rest⟩⟩ := h
    obtain ⟨t'', rest⟩ := hf a rest t'
    exact ⟨t'', returns_bind.2 ⟨a, t', first, rest⟩⟩

theorem gives_mapM (hf : ∀ a, (f a).Portable) {as : List α} {bs : List β} :
    (as.mapM f).Gives t bs ↔ List.Forall₂ (fun a b => (f a).Gives t b) as bs := by
  induction as generalizing bs with
  | nil =>
    rw [List.mapM_nil, gives_pure, List.forall₂_nil_left_iff]
    exact eq_comm
  | cons a as ih =>
    have rest (b : β) : (as.mapM f >>= fun bs => pure (b :: bs)).Portable :=
      Portable.bind (portable_mapM hf as) fun bs => portable_pure (b :: bs)
    rw [List.mapM_cons, gives_bind rest, List.forall₂_cons_left_iff]
    simp only [gives_bind fun bs => portable_pure (_ :: bs), gives_pure, ih]
    constructor
    · intro h
      obtain ⟨b, first, bs', others, rfl⟩ := h
      exact ⟨b, bs', first, others, rfl⟩
    · intro h
      obtain ⟨b, bs', first, others, rfl⟩ := h
      exact ⟨b, first, bs', others, rfl⟩

end Gives

end Session

end SchemaDrift
