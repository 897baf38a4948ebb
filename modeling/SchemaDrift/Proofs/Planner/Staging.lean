import SchemaDrift.Proofs.Planner.Destruction
import SchemaDrift.Proofs.Planner.Stage

/-!
# Plans are made of stages

Each function of the planner makes stages of its own: an alteration in place requires a column last,
a column that comes is added first, and drops and keys stand alone. `Job.staged` says so of the plan
of every job; for a whole entity it follows from the jobs of its leaves.
-/

namespace SchemaDrift

open Document (Value)

theorem Composer.restated_of_alterToAttribute {b : Composer} {e : Entity} {a : Attribute}
    {column : Value} {ss : List Statement} (isNoId : a.field.isId = false)
    (h : b.alterToAttribute e a column = .ok ss) :
    ∃ owner definition, b.identify e.table = .ok owner ∧
      b.columnDefinition e a column true = .ok definition ∧
      definition.spec.suffix.notNull = a.field.isMandatory ∧
      ss = [b.issue (.alterColumn owner definition)] := by
  rcases command_of_alterToAttribute h with ⟨isId, -⟩ | ⟨-, owner, definition, howner, defines, rfl⟩
  · rw [isNoId] at isId
    cases isId
  · obtain ⟨type, -, spec⟩ := spec_of_columnDefinition defines
    refine ⟨owner, definition, howner, defines, ?_, rfl⟩
    rw [spec]
    show (a.field.isMandatory || a.field.isId) = _
    rw [isNoId, Bool.or_false]

namespace Planner

variable {σ : Type} {p : Planner} {provider : Provider σ} {e : Entity} {a : Attribute}
  {current : Option Column} {column : Value} {c : String} {tableHasRows : Bool} {t t' : Trail σ}
  {plan : Plan} {treats : Declared → Treatment → Prop} {warnings : List Value}

/-! ### Alterations in place -/

section Kept

variable (own : Composer.columnOr (.text c) a = .ok (.text c)) (treated : treats (a, c) .kept)

include own treated

theorem stages_onlyIf {holds : Bool} {type : String} {parameters : Parameters} {ss : List Statement}
    (h : onlyIf holds (p.composer.restate e a (.text c) type parameters) = .ok ss) :
    p.Stages e tableHasRows treats warnings ss := by
  rw [onlyIf] at h
  split at h
  · cases restated : p.composer.restate e a (.text c) type parameters with
    | error fault =>
      rw [restated] at h
      cases h
    | ok s =>
      rw [restated] at h
      cases h
      obtain ⟨named, owner, altered, hnamed, -, haltered, rfl⟩ :=
        Composer.command_of_restate restated
      rw [own] at hnamed
      cases hnamed
      exact .one (.alters treated haltered (by simp))
  · cases h
    exact .nil

theorem stages_obligationPlan {r : List Statement × List Value} (isNoId : a.field.isId = false)
    (h : p.obligationPlan e a (.text c) tableHasRows = .ok r) :
    p.Stages e tableHasRows treats r.2 r.1 ∧ ∀ w ∈ r.2, Warns e treats w := by
  obtain ⟨⟨filling, warnings⟩, hfilling, h⟩ := bind_eq_ok.1 h
  obtain ⟨restated, hrestated, h⟩ := bind_eq_ok.1 h
  obtain rfl := pure_eq_ok.1 h
  obtain ⟨owner, definition, howner, defines, notNull, rfl⟩ :=
    Composer.restated_of_alterToAttribute isNoId hrestated
  have named := Composer.identify_of_own own defines
  rw [obligationFilling] at hfilling
  split at hfilling
  · next tightens =>
    rw [Bool.and_eq_true] at tightens
    obtain ⟨value, hvalue, hfilling⟩ := bind_eq_ok.1 hfilling
    cases value with
    | none =>
      cases hfilling
      refine ⟨.one (.alters treated named fun _ _ => List.mem_singleton_self _), ?_⟩
      intro w hw
      rw [List.mem_singleton.1 hw]
      exact .unfilled treated (by simp) (.inr rfl)
    | some value =>
      obtain ⟨s, hs, hfilling⟩ := bind_eq_ok.1 hfilling
      cases hfilling
      rw [Composer.fillNulls, named, ok_bind, howner, ok_bind] at hs
      obtain rfl := pure_eq_ok.1 hs
      refine ⟨.one (.fills treated tightens.2 howner named hvalue ?_), by simp⟩
      exact notNull.trans tightens.1
  · next loosens =>
    cases hfilling
    refine ⟨.one (.alters treated named fun required rows => absurd ?_ loosens), by simp⟩
    rw [← notNull, required, rows]
    rfl

theorem staged_alterations {d : Difference} {type : String} (isNoId : a.field.isId = false)
    (h : p.alterations e a d type (.text c) tableHasRows = .ok plan) :
    p.Staged e tableHasRows treats plan := by
  obtain ⟨length, hlength, h⟩ := bind_eq_ok.1 h
  obtain ⟨decimal, hdecimal, h⟩ := bind_eq_ok.1 h
  have front (warnings : List Value) :
      p.Stages e tableHasRows treats warnings (length ++ decimal) :=
    (stages_onlyIf own treated hlength).append (stages_onlyIf own treated hdecimal)
  simp only at h
  split at h
  · obtain ⟨obligation, hobligation, h⟩ := bind_eq_ok.1 h
    obtain rfl := pure_eq_ok.1 h
    obtain ⟨requires, warned⟩ := stages_obligationPlan own treated isNoId hobligation
    exact ⟨(front _).append requires, warned, nofun⟩
  · obtain rfl := pure_eq_ok.1 h
    exact ⟨(front _).append .nil, nofun, nofun⟩

end Kept

/-! ### The plan of one attribute -/

theorem exists_text_of_difference {named : Value} {d : Difference}
    (own : Composer.columnOr named a = .ok named)
    (h : p.difference e a current named = .ok d) : ∃ c, named = .text c := by
  obtain ⟨desired, -, h⟩ := bind_eq_ok.1 h
  obtain ⟨named', hnamed, h⟩ := bind_eq_ok.1 h
  obtain ⟨name, hname, h⟩ := bind_eq_ok.1 h
  rw [own] at hnamed
  cases hnamed
  cases named with
  | text c => exact ⟨c, rfl⟩
  | null | bool _ | int _ | real _ | moment _ | bytes _ | list _ | map _ => cases hname

theorem staged_rebuilt {dependencies keyDrops additions restored : List Statement}
    {drop : Statement} {d : Difference} {u : Trail σ} (own : Composer.columnOr (.text c) a = .ok (.text c))
    (treated : treats (a, c) .rebuilt)
    (depends : (p.composer.dropDependencies provider e.table (.text c)).Returns t dependencies u)
    (unlocks : p.primaryKeyDrops e a = .ok keyDrops)
    (drops : p.composer.dropColumn e.table (.text c) = .ok drop)
    (adds : p.composer.leafAdditions e a (.text c) tableHasRows = .ok additions)
    (restores : p.keyStatements e a (.text c) = .ok restored) :
    p.Staged e tableHasRows treats {
      table := e.table, differences := [d], warnings := [rebuildWarning e (.text c) d]
      statements := dependencies ++ keyDrops ++ [drop] ++ additions ++ restored } := by
  have before := category_rebuildDrops depends unlocks drops
  have comes := Composer.additions_of_leafAdditions own adds
  refine ⟨Stages.append (Stages.append ?_ ?_) ?_, ?_, nofun⟩
  · exact stages_of_asides fun s hs => Statement.isAside_of_category_drop (before s hs)
  · exact .one (.comes treated nofun comes nofun)
  · refine stages_of_asides fun s hs => ?_
    exact Statement.isAside_of_aspect (aspect?_of_keyStatements restores s hs) nofun
  · intro w hw
    rw [List.mem_singleton.1 hw]
    exact .loss ..

theorem staged_planChange
    (h : (p.planChange provider e a current column tableHasRows).Returns t plan t') :
    p.Staged e tableHasRows ((Job.change a current column).Treats p e) plan := by
  obtain ⟨named, hnamed, change⟩ := changePlan_of_returns h
  have own := Composer.columnOr_columnOr hnamed
  have treats_of {d : Difference} {c : String} (compared : p.difference e a current named = .ok d)
      (text : named = .text c) :
      (Job.change a current column).Treats p e (a, c) (.ofKind d.kind) := by
    subst text
    exact ⟨rfl, hnamed, d, by rw [← difference_columnOr hnamed, compared], rfl⟩
  cases change with
  | kept compared kind whole =>
    subst whole
    exact ⟨.nil, nofun, nofun⟩
  | altered compared kind typed alters =>
    obtain ⟨c, rfl⟩ := exists_text_of_difference own compared
    obtain ⟨_, _, _, _, comparison⟩ := exists_comparison compared
    have treated := treats_of compared rfl
    rw [kind] at treated
    exact staged_alterations own treated (comparison.isId_of_alter kind) alters
  | rebuilt compared kind depends unlocks drops adds restores whole =>
    obtain ⟨c, rfl⟩ := exists_text_of_difference own compared
    have treated := treats_of compared rfl
    rw [kind] at treated
    subst whole
    exact staged_rebuilt own treated depends unlocks drops adds restores

/-! ### The plan of a new attribute -/

theorem columnOr_eq_newColumn {f : Field} {ps : List Attribute} {name : String}
    (h : f.columnName = .ok (.text name)) :
    Composer.columnOr column (.plain f ps) =
      .ok (newColumn (.plain f ps) column (.text name)) := by
  show _ = Except.ok (column.statedOr (.text name))
  rw [Composer.columnOr, Value.stated?, Value.statedOr]
  cases column.isTruthy with
  | true => rfl
  | false => exact h

theorem addedColumns_eq (columned : ∀ leaf ∈ a.expand (.ok ""), ∃ v, leaf.2 = .ok v) :
    Composer.addedColumns a column =
      (a.expand (.ok "")).map fun leaf => (leaf.1, leaf.2.map (newColumn a column)) := by
  cases a with
  | embedded f first rest =>
    have kept : ∀ leaf ∈ (Attribute.embedded f first rest).expand (.ok ""),
        (leaf.1, leaf.2.map (newColumn (.embedded f first rest) column)) = leaf := by
      intro leaf hleaf
      obtain ⟨v, hv⟩ := columned leaf hleaf
      rw [hv]
      exact Prod.ext rfl hv.symm
    rw [List.map_congr_left kept, List.map_id']
    rfl
  | plain f ps =>
    obtain ⟨v, hv⟩ := columned _ (by rw [Attribute.expand_plain]; exact List.mem_singleton_self _)
    obtain ⟨own, hown, hv⟩ := bind_eq_ok.1 hv
    cases own with
    | text name =>
      rw [Attribute.expand_plain, hown]
      show [(_, Composer.columnOr column (.plain f ps))] =
        [(_, .ok (newColumn (.plain f ps) column (.text ("" ++ name))))]
      rw [String.empty_append, columnOr_eq_newColumn hown]
    | null | bool _ | int _ | real _ | moment _ | bytes _ | list _ | map _ => cases hv

/-- What a new column asks for beside itself: a warning where nothing fills it, and keys. -/
theorem parts_of_additionParts {own : Value} {r : List Value × List Statement}
    (h : p.additionParts e tableHasRows a own = .ok r) :
    (Composer.needsTransition a.field tableHasRows = true →
      p.composer.conventions.filling? a.field = .ok none →
      .text (fillWarning e.table own "rows") ∈ r.1) ∧
    (∀ w ∈ r.1, w = .text (fillWarning e.table own "rows")) ∧
    ∀ s ∈ r.2, s.aspect? = some .key := by
  obtain ⟨lacks, hlacks, h⟩ := bind_eq_ok.1 h
  obtain ⟨references, refers, h⟩ := bind_eq_ok.1 h
  obtain rfl := pure_eq_ok.1 h
  refine ⟨fun needs unfilled => ?_, fun w hw => ?_, aspect?_of_references refers⟩
  · rw [Composer.lacksFilling, if_pos needs, unfilled] at hlacks
    obtain rfl := pure_eq_ok.1 hlacks
    exact List.mem_singleton_self _
  · cases lacks with
    | true => exact List.mem_singleton.1 hw
    | false => cases hw

theorem returns_additionParts {parts : List (List Value × List Statement)}
    (h : ((a.expand (.ok "")).mapM fun leaf => do
      p.additionParts e tableHasRows leaf.1 (newColumn a column (← leaf.2)) :
        Session σ _).Returns t parts t') :
    List.Forall₂ (fun leaf r => ∃ own, leaf.2 = .ok own ∧
      p.additionParts e tableHasRows leaf.1 own = .ok r)
        (Composer.addedColumns a column) parts := by
  have expanded : List.Forall₂ (fun leaf r => ∃ own, leaf.2 = .ok own ∧
      p.additionParts e tableHasRows leaf.1 (newColumn a column own) = .ok r)
        (a.expand (.ok "")) parts := by
    refine Session.related_of_returns_mapM ?_ h
    intro leaf _ _ r _ parted
    obtain ⟨own, hown, parted⟩ := Session.returns_lift_bind.1 parted
    exact ⟨own, hown, (Session.returns_lift.1 parted).1⟩
  have columned : ∀ leaf ∈ a.expand (.ok ""), ∃ v, leaf.2 = .ok v := by
    intro leaf hleaf
    obtain ⟨_, _, own, hown, -⟩ := exists_of_mem_forall₂ expanded hleaf
    exact ⟨own, hown⟩
  rw [addedColumns_eq columned, List.forall₂_map_left_iff]
  refine expanded.imp fun leaf r related => ?_
  obtain ⟨own, hown, parted⟩ := related
  exact ⟨newColumn a column own, by rw [hown]; rfl, parted⟩

theorem staged_planAdd
    (h : (p.planAdd e a column tableHasRows : Session σ Plan).Returns t plan t') :
    p.Staged e tableHasRows ((Job.add a column).Treats p e) plan := by
  obtain ⟨additions, u, adds, h⟩ := Session.returns_bind.1 h
  obtain ⟨parts, v, hparts, h⟩ := Session.returns_bind.1 h
  obtain ⟨rfl, -⟩ := returns_announce h
  obtain ⟨groups, hgroups, rfl⟩ := Composer.returns_addColumn_additions adds
  have hparts := returns_additionParts hparts
  -- A leaf is among the groups and among the parts under one column, which is a text.
  have texts : ∀ {leaf own}, leaf ∈ Composer.addedColumns a column → leaf.2 = .ok own →
      ∃ c, own = .text c ∧ (Job.add a column).Treats p e (leaf.1, c) .added := by
    intro leaf own hleaf hown
    obtain ⟨_, _, c, hc, -⟩ := exists_of_mem_forall₂ hgroups hleaf
    have same := Except.ok.inj (hown.symm.trans hc)
    exact ⟨c, same, by rw [← hc]; exact hleaf, rfl⟩
  refine ⟨Stages.append ⟨groups, ?_, rfl⟩ ?_, ?_, nofun⟩
  · intro group hgroup
    obtain ⟨leaf, hleaf, c, hc, additions⟩ := exists_of_mem_forall₂ hgroups.flip hgroup
    obtain ⟨c', same, treated⟩ := texts hleaf hc
    cases same
    refine .comes treated nofun additions fun _ needs unfilled => ?_
    obtain ⟨r, hr, own, hown, parted⟩ := exists_of_mem_forall₂ hparts hleaf
    cases Except.ok.inj (hown.symm.trans hc)
    exact List.mem_flatMap.2 ⟨r, hr, (parts_of_additionParts parted).1 needs unfilled⟩
  · refine stages_of_asides fun s hs => ?_
    obtain ⟨r, hr, hs⟩ := List.mem_flatMap.1 hs
    obtain ⟨leaf, -, own, -, parted⟩ := exists_of_mem_forall₂ hparts.flip hr
    exact Statement.isAside_of_aspect ((parts_of_additionParts parted).2.2 s hs) nofun
  · intro w hw
    obtain ⟨r, hr, hw⟩ := List.mem_flatMap.1 hw
    obtain ⟨leaf, hleaf, own, hown, parted⟩ := exists_of_mem_forall₂ hparts.flip hr
    obtain ⟨c, rfl, treated⟩ := texts hleaf hown
    rw [(parts_of_additionParts parted).2.1 w hw]
    exact .unfilled treated nofun (.inl rfl)

/-! ### The plan of an entity -/

/-- The job that a leaf is to the plan of its entity. -/
def part (found : Found) (l : Declared) : Job :=
  match found.get? l.key with
  | some current => .change l.1 current (.text l.2)
  | none => .add l.1 (.text l.2)

theorem returns_part {found : Found} {leaf : Attribute.Leaf} {r : String × Plan}
    (hleaf : leaf ∈ e.leaves)
    (h : (p.planLeaf provider e found tableHasRows leaf).Returns t r t') :
    ∃ c u, leaf.2 = .ok (.text c) ∧
      ((part found (leaf.1, c)).plan p provider e tableHasRows).Returns t r.2 u := by
  obtain ⟨l, -, rfl, -, ⟨current, present, changes⟩ | ⟨missing, adds⟩⟩ := planLeaf_cases hleaf h
  · refine ⟨l.2, t', rfl, ?_⟩
    rw [part, present]
    exact changes
  · refine ⟨l.2, t', rfl, ?_⟩
    rw [part, missing]
    exact adds

theorem treatment_of_difference {found : Found} {l : Declared} {d : Difference}
    (present : found.get? l.key = some current)
    (compared : p.difference e l.1 current (.text l.2) = .ok d) :
    p.treatment e found l = .ofKind d.kind := by
  rw [treatment, present, rebuilds, present]
  simp only [compared, Option.isNone_some, beq_iff_eq, Treatment.ofKind]
  rfl

section Part

variable {found : Found} {l l' : Declared} {x : Treatment}

theorem eq_of_treats_part (hl : l ∈ e.declared) (h : (part found l).Treats p e l' x) :
    l' = l ∧ x = p.treatment e found l := by
  have own := Entity.columnOr_of_mem_declared hl
  rw [part] at h
  cases present : found.get? l.key with
  | some current =>
    rw [present] at h
    obtain ⟨first, named, d, compared, rfl⟩ := h
    have same := Except.ok.inj (own.symm.trans named)
    exact ⟨Prod.ext first (Value.text.inj same).symm,
      (treatment_of_difference present compared).symm⟩
  | none =>
    rw [present] at h
    obtain ⟨mem, rfl⟩ := h
    rw [Composer.addedColumns, Entity.isEmbedded_of_mem_declared hl, own] at mem
    obtain ⟨first, second⟩ := Prod.mk.inj (List.mem_singleton.1 mem)
    refine ⟨Prod.ext first (Value.text.inj (Except.ok.inj second)), ?_⟩
    rw [treatment, present]
    rfl

theorem treats_part_of_rebuilt (hl : l ∈ e.declared) (rebuilt : p.treatment e found l = .rebuilt) :
    (part found l).Treats p e l .rebuilt := by
  have own := Entity.columnOr_of_mem_declared hl
  rw [part]
  cases present : found.get? l.key with
  | some current =>
    cases compared : p.difference e l.1 current (.text l.2) with
    | error fault => simp [treatment, rebuilds, present, compared] at rebuilt
    | ok d =>
      rw [treatment_of_difference present compared] at rebuilt
      exact ⟨rfl, own, d, compared, rebuilt.symm⟩
  | none =>
    rw [treatment, present] at rebuilt
    cases rebuilt

theorem staged_part
    (h : ((part found l).plan p provider e tableHasRows : Session σ Plan).Returns t plan t') :
    p.Staged e tableHasRows ((part found l).Treats p e) plan := by
  rw [part] at h ⊢
  cases present : found.get? l.key with
  | some current =>
    rw [present] at h
    exact staged_planChange h
  | none =>
    rw [present] at h
    exact staged_planAdd h

end Part

theorem category_orphanDrops {seen : List String} {entry : String × Option Column}
    {ss : List Statement} (h : (p.orphanDrops provider e seen entry).Returns t ss t') :
    ∀ s ∈ ss, s.category = .drop := by
  rw [orphanDrops] at h
  split at h
  · obtain ⟨rfl, -⟩ := Session.returns_pure.1 h
    simp
  · obtain ⟨type, -, h⟩ := Session.returns_lift_bind.1 h
    split at h
    · obtain ⟨rfl, -⟩ := Session.returns_pure.1 h
      simp
    · exact Composer.category_dropColumnFully h

/-- The plan of an entity is made of the plans of its leaves, and of drops at the end. -/
theorem parts_of_returns_planChanges {columns : List (Value × Option Column)}
    (h : (p.planChanges provider e columns tableHasRows).Returns t plan t') :
    ∃ found parts drops, columnsByName columns = .ok found ∧
      List.Forall₂ (fun leaf r => ∃ c u u', leaf.2 = .ok (.text c) ∧
        ((part found (leaf.1, c)).plan p provider e tableHasRows).Returns u r u')
          e.leaves parts ∧
      (∀ s ∈ drops, s.category = .drop) ∧
      plan = (parts.foldl Plan.append { table := e.table }).append
        (if p.config.separateDrops then { table := e.table, separateDrops := drops }
          else { table := e.table, statements := drops }) := by
  obtain ⟨found, parts, drops, u, v, hfound, hparts, hdrops, -, rfl⟩ :=
    steps_of_returns_planChanges h
  refine ⟨found, parts.map (·.2), drops.flatten, hfound, ?_, ?_, rfl⟩
  · rw [List.forall₂_map_right_iff]
    refine Session.related_of_returns_mapM ?_ hparts
    intro leaf hleaf x r x' planned
    obtain ⟨c, u', hc, planned⟩ := returns_part hleaf planned
    exact ⟨c, x, u', hc, planned⟩
  · have dropping := Session.related_of_returns_mapM
      (R := fun _ ss => ∀ s ∈ ss, s.category = .drop)
      (fun entry _ _ _ _ dropped => category_orphanDrops dropped) hdrops
    intro s hs
    obtain ⟨ss, mem, hs⟩ := List.mem_flatten.1 hs
    obtain ⟨entry, -, dropped⟩ := exists_of_mem_forall₂ dropping.flip mem
    exact dropped s hs

theorem staged_planChanges {columns : List (Value × Option Column)}
    (h : (p.planChanges provider e columns tableHasRows).Returns t plan t') :
    p.Staged e tableHasRows ((Job.entity columns).Treats p e) plan := by
  obtain ⟨found, parts, drops, hfound, planned, dropping, rfl⟩ := parts_of_returns_planChanges h
  have asides : ∀ s ∈ drops, s.IsAside :=
    fun s hs => Statement.isAside_of_category_drop (dropping s hs)
  refine Staged.append (staged_foldl ⟨.nil, nofun, nofun⟩ fun part mem => ?_) ?_
  · obtain ⟨leaf, hleaf, c, u, u', hc, returned⟩ := exists_of_mem_forall₂ planned.flip mem
    refine (staged_part returned).mono fun l x treated => ?_
    have hl := Entity.mem_declared_of_mem_leaves hleaf hc
    obtain ⟨rfl, rfl⟩ := eq_of_treats_part hl treated
    exact ⟨hl, found, hfound, rfl⟩
  · cases p.config.separateDrops with
    | true => exact ⟨.nil, nofun, asides⟩
    | false => exact ⟨stages_of_asides asides, nofun, nofun⟩

/-- The plan for a job is made of stages, by what becomes of each column. -/
theorem Job.staged {job : Job} (h : (job.plan p provider e tableHasRows).Returns t plan t') :
    p.Staged e tableHasRows (job.Treats p e) plan := by
  cases job with
  | change a current column => exact staged_planChange h
  | add a column => exact staged_planAdd h
  | entity columns => exact staged_planChanges h

/-! ### Columns that are required again -/

theorem exists_requires_of_rebuilt {l : Declared}
    (h : (p.planChange provider e a current column tableHasRows).Returns t plan t')
    (treated : (Job.change a current column).Treats p e l .rebuilt)
    (needs : Composer.needsTransition l.1.field tableHasRows = true)
    (unfilled : p.composer.conventions.filling? l.1.field = .ok none) :
    ∃ owner column spec, p.composer.identify (.text l.2) = .ok column ∧
      p.composer.issue (.alterColumn owner ⟨column, spec⟩) ∈ plan.statements ∧
      spec.suffix.notNull = true := by
  obtain ⟨named, hnamed, change⟩ := changePlan_of_returns h
  have own := Composer.columnOr_columnOr hnamed
  obtain ⟨rfl, hnamed', d, compared, rebuilt⟩ := treated
  cases hnamed.symm.trans hnamed'
  rw [← difference_columnOr hnamed] at compared
  cases change with
  | kept compared' kind =>
    cases compared.symm.trans compared'
    rw [kind] at rebuilt
    cases rebuilt
  | altered compared' kind =>
    cases compared.symm.trans compared'
    rw [kind] at rebuilt
    cases rebuilt
  | @rebuilt d' dependencies keyDrops additions restored drop u _ _ _ _ _ adds _ whole =>
    have courses := Composer.additions_of_leafAdditions own adds
    obtain ⟨owner, definition, identified, rfl⟩ := courses.required_of_unfilled needs unfilled
    refine ⟨owner, definition.column, definition.spec.withNotNull true, identified, ?_, rfl⟩
    rw [whole]
    simp

theorem Job.exists_requires_of_rebuilt {job : Job} {l : Declared}
    (h : (job.plan p provider e tableHasRows).Returns t plan t')
    (treated : job.Treats p e l .rebuilt)
    (needs : Composer.needsTransition l.1.field tableHasRows = true)
    (unfilled : p.composer.conventions.filling? l.1.field = .ok none) :
    ∃ owner column spec, p.composer.identify (.text l.2) = .ok column ∧
      p.composer.issue (.alterColumn owner ⟨column, spec⟩) ∈ plan.statements ∧
      spec.suffix.notNull = true := by
  cases job with
  | change a current column => exact Planner.exists_requires_of_rebuilt h treated needs unfilled
  | add a column => cases treated.2
  | entity columns =>
    obtain ⟨hl, found, hfound, rebuilt⟩ := treated
    obtain ⟨found', parts, drops, hfound', planned, -, rfl⟩ := parts_of_returns_planChanges h
    cases hfound.symm.trans hfound'
    have leaf := Entity.mem_leaves_of_mem_declared hl
    obtain ⟨own, mem, c, u, u', hc, returned⟩ := exists_of_mem_forall₂ planned leaf
    cases hc
    have treated := treats_part_of_rebuilt hl rebuilt.symm
    rw [part] at returned treated
    cases present : found.get? l.key with
    | none =>
      rw [present] at treated
      cases treated.2
    | some current =>
      rw [present] at returned treated
      obtain ⟨owner, column, spec, identified, required, notNull⟩ :=
        Planner.exists_requires_of_rebuilt returned treated needs unfilled
      refine ⟨owner, column, spec, identified, ?_, notNull⟩
      rw [foldl_append]
      refine List.mem_append_left _ (List.mem_append_right _ ?_)
      exact List.mem_flatMap.2 ⟨own, mem, required⟩

end Planner

end SchemaDrift
