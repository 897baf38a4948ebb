import SchemaDrift.Metadata.Database
import SchemaDrift.Metadata.Inventory
import SchemaDrift.Proofs.Metadata.Recorded
import SchemaDrift.Proofs.Session.Reports

/-!
# Statements on record

What a session adds to a log that hears everything: the lines of some statements and, besides, other
reports and what the metadata source has to say for itself.
-/

namespace SchemaDrift

open Document (Value)
open Log (Record)

variable {σ α β : Type} {F : Record → Prop} {records : List Record} {ss us : List Statement}
  {t t' u v : Trail σ}

/-- Records are accounted for by statements, by other events, or by a source of their own. -/
structure Listing (F : Record → Prop) (records : List Record) (ss : List Statement) :
    Prop where
  lists : ∀ s ∈ ss, (Event.listed s).record ∈ records
  accounts : ∀ r ∈ records, F r ∨ (∃ x : Event, x.isListing = false ∧ r = x.record) ∨
    ∃ s ∈ ss, r = (Event.listed s).record

namespace Listing

theorem nil : Listing F [] [] := ⟨by simp, by simp⟩

theorem append {later : List Record} (h : Listing F records ss)
    (h' : Listing F later us) : Listing F (records ++ later) (ss ++ us) where
  lists := by
    intro s hs
    rcases List.mem_append.1 hs with hs | hs
    · exact List.mem_append_left _ (h.lists s hs)
    · exact List.mem_append_right _ (h'.lists s hs)
  accounts := by
    intro r hr
    rcases List.mem_append.1 hr with hr | hr
    · rcases h.accounts r hr with foreign | report | ⟨s, hs, line⟩
      · exact .inl foreign
      · exact .inr (.inl report)
      · exact .inr (.inr ⟨s, List.mem_append_left _ hs, line⟩)
    · rcases h'.accounts r hr with foreign | report | ⟨s, hs, line⟩
      · exact .inl foreign
      · exact .inr (.inl report)
      · exact .inr (.inr ⟨s, List.mem_append_right _ hs, line⟩)

theorem congr (h : Listing F records ss) (same : ∀ s, s ∈ us ↔ s ∈ ss) :
    Listing F records us where
  lists := fun s hs => h.lists s ((same s).1 hs)
  accounts := by simpa only [same] using h.accounts

theorem one {x : Event} (isReport : x.isListing = false) : Listing F [x.record] [] := by
  refine ⟨by simp, fun r hr => ?_⟩
  exact .inr (.inl ⟨x, isReport, List.mem_singleton.1 hr⟩)

theorem lines (ss : List Statement) :
    Listing F ((ss.map Event.listed).map Event.record) ss := by
  constructor
  · intro s hs
    exact List.mem_map_of_mem (List.mem_map_of_mem hs)
  · intro r hr
    simp only [List.mem_map] at hr
    obtain ⟨_, ⟨s, hs, rfl⟩, rfl⟩ := hr
    exact .inr (.inr ⟨s, hs, rfl⟩)

end Listing

/-- From one trail to the next the log grew by records that statements account for. -/
def Trail.Lists (F : Record → Prop) (t t' : Trail σ) (ss : List Statement) : Prop :=
  ∃ records, t'.log = t.log ++ records ∧ Listing F records ss

namespace Trail.Lists

theorem of_log_eq (same : t'.log = t.log) : Lists F t t' [] :=
  ⟨[], by rw [same, List.append_nil], .nil⟩

theorem trans (h : Lists F t u ss) (h' : Lists F u v us) :
    Lists F t v (ss ++ us) := by
  obtain ⟨records, grown, listing⟩ := h
  obtain ⟨later, grown', listing'⟩ := h'
  exact ⟨records ++ later, by rw [grown', grown, List.append_assoc], listing.append listing'⟩

/-- What is listed again makes no difference. -/
theorem congr (h : Lists F t u ss) (same : ∀ s, s ∈ us ↔ s ∈ ss) : Lists F t u us := by
  obtain ⟨records, grown, listing⟩ := h
  exact ⟨records, grown, listing.congr same⟩

theorem trans_nil (h : Lists F t u ss) (h' : Lists F u v []) :
    Lists F t v ss := by
  simpa using h.trans h'

theorem nil_trans (h : Lists F t u []) (h' : Lists F u v ss) :
    Lists F t v ss := h.trans h'

end Trail.Lists

namespace Session

theorem lists_of_returns_mapM {f : α → Session σ β} {g : β → List Statement} {xs : List α}
    {ys : List β} (step : ∀ x ∈ xs, ∀ {u y u'}, (f x).Returns u y u' → u.Lists F u' (g y))
    (h : (xs.mapM f).Returns t ys t') : t.Lists F t' (ys.flatMap g) := by
  induction xs generalizing t ys with
  | nil =>
    rw [List.mapM_nil, returns_pure] at h
    obtain ⟨rfl, rfl⟩ := h
    exact .of_log_eq rfl
  | cons x xs ih =>
    rw [List.mapM_cons, returns_bind] at h
    obtain ⟨y, u, first, rest⟩ := h
    obtain ⟨ys', u', others, same⟩ := returns_bind.1 rest
    obtain ⟨rfl, rfl⟩ := returns_pure.1 same
    have now := step x (List.mem_cons_self ..) first
    exact now.trans (ih (fun x' hx' => step x' (List.mem_cons_of_mem x hx')) others)

theorem lists_nil_of_returns_mapM {f : α → Session σ β} {xs : List α} {ys : List β}
    (step : ∀ x ∈ xs, ∀ {u y u'}, (f x).Returns u y u' → u.Lists F u' [])
    (h : (xs.mapM f).Returns t ys t') : t.Lists F t' [] :=
  (lists_of_returns_mapM (g := fun _ => []) step h).congr (by simp)

theorem lists_of_returns_forM {f : α → Session σ Unit} {xs : List α} {w : Unit}
    (step : ∀ x ∈ xs, ∀ {u w u'}, (f x).Returns u w u' → u.Lists F u' [])
    (h : (xs.forM f).Returns t w t') : t.Lists F t' [] :=
  invariant_of_returns_forM (I := fun u => t.Lists F u []) (.of_log_eq rfl)
    (fun x hx _ _ _ before now => before.trans_nil (step x hx now)) h

end Session

/-- Every event goes into the log that the caller supplied. -/
structure Config.IsHeard (c : Config) : Prop where
  logger : c.logger = some .recorder
  statements : c.statementLogging = true

namespace Config.IsHeard

variable {c : Config}

theorem audible (h : c.IsHeard) : c.reporting.IsAudible := by
  intro v mute
  rw [reporting, h.logger] at mute
  cases mute

theorem records_eq (h : c.IsHeard) (events : List Event) :
    c.reporting.records events = events.map Event.record := by
  have passes (x : Event) : c.reporting.passes x = true := by
    rw [Reporting.passes, show c.reporting.statements.isTruthy = true from h.statements, Bool.or_true]
  have heard : c.reporting.logger = some .recorder := h.logger
  rw [Reporting.records, if_pos heard, List.filter_eq_self.2 fun x _ => passes x]

theorem lists_log (h : c.IsHeard) {x : Event} (isReport : x.isListing = false) {w : Unit}
    (returned : (Session.log c.logger x.record.level x.record.message).Returns t w t') :
    t.Lists F t' [] := by
  have passes : c.reporting.passes x = true := by simp [Reporting.passes, isReport]
  cases returned.symm.trans (Session.run_log h.audible passes t)
  exact ⟨[x.record], by simp [Trail.reported, h.records_eq], .one isReport⟩

theorem lists_logStatements (h : c.IsHeard) {w : Unit}
    (returned : (Composer.logStatements c ss).Returns t w t') : t.Lists F t' ss := by
  cases returned.symm.trans (Composer.run_logStatements h.audible ss t)
  exact ⟨_, by rw [Trail.reported, h.records_eq], .lines ss⟩

end Config.IsHeard

/-- What a session adds to the log is foreign to statements. -/
def Session.Adds (F : Record → Prop) (s : Session σ α) : Prop :=
  ∀ {t a t'}, s.Returns t a t' → ∃ records, t'.log = t.log ++ records ∧ ∀ r ∈ records, F r

/-- What lookups add to the log is foreign to statements, inside a scope or not. -/
structure Provider.Adds (P : Provider σ) (F : Record → Prop) : Prop where
  within : ∀ {α : Type} {s : Session σ α}, s.Adds F → (P.within s).Adds F
  foreignKeys : ∀ table column, (P.foreignKeys table column).Adds F
  defaults : ∀ table column, (P.defaults table column).Adds F
  indexes : ∀ table column, (P.indexes table column).Adds F

namespace Session.Adds

theorem lists {s : Session σ α} {a : α} (h : s.Adds F) (returned : s.Returns t a t') :
    t.Lists F t' [] := by
  obtain ⟨records, grown, foreign⟩ := h returned
  exact ⟨records, grown, by simp, fun r hr => .inl (foreign r hr)⟩

theorem pure (a : α) : (Pure.pure a : Session σ α).Adds F := by
  intro t b t' h
  obtain ⟨-, rfl⟩ := returns_pure.1 h
  exact ⟨[], by simp, by simp⟩

theorem bind {s : Session σ α} {f : α → Session σ β} (h : s.Adds F)
    (hf : ∀ a, (f a).Adds F) : (s >>= f).Adds F := by
  intro t b t' returned
  obtain ⟨a, u, first, rest⟩ := returns_bind.1 returned
  obtain ⟨records, grown, foreign⟩ := h first
  obtain ⟨later, grown', foreign'⟩ := hf a rest
  refine ⟨records ++ later, by rw [grown', grown, List.append_assoc], fun r hr => ?_⟩
  exact (List.mem_append.1 hr).elim (foreign r) (foreign' r)

theorem of_log_eq {s : Session σ α} (h : ∀ {t a t'}, s.Returns t a t' → t'.log = t.log) :
    s.Adds F :=
  fun returned => ⟨[], by rw [h returned, List.append_nil], by simp⟩

theorem lift (r : Except Fault α) : (liftM r : Session σ α).Adds F :=
  of_log_eq fun returned => by rw [(returns_lift.1 returned).2]

theorem throw (fault : Fault) : (MonadExcept.throw fault : Session σ α).Adds F :=
  fun returned => absurd returned not_returns_throw

theorem modifySource (f : σ → σ) : (Session.modifySource f).Adds F :=
  of_log_eq fun returned => by
    cases returned
    rfl

theorem source : (Session.source : Session σ σ).Adds F :=
  of_log_eq fun returned => by
    cases returned
    rfl

theorem ensuring {s : Session σ α} {f : Trail σ → Trail σ} (h : s.Adds F)
    (last : ∀ t, ∃ records, (f t).log = t.log ++ records ∧ ∀ r ∈ records, F r) :
    (s.ensuring f).Adds F := by
  intro t a t' returned
  obtain ⟨u, inside, rfl⟩ := returns_ensuring returned
  obtain ⟨records, grown, foreign⟩ := h inside
  obtain ⟨later, grown', foreign'⟩ := last u
  refine ⟨records ++ later, by rw [grown', grown, List.append_assoc], fun r hr => ?_⟩
  exact (List.mem_append.1 hr).elim (foreign r) (foreign' r)

theorem log (logger : Option Log.Logger) {level : Log.Level} {message : String}
    (foreign : F ⟨level, message⟩) :
    (Session.log logger level message : Session σ Unit).Adds F := by
  intro t a t' returned
  unfold Session.log at returned
  split at returned
  · obtain ⟨-, rfl⟩ := returns_pure.1 returned
    exact ⟨[], by simp, by simp⟩
  · cases returned
    exact ⟨[⟨level, message⟩], rfl, by simpa using foreign⟩
  · exact absurd returned not_returns_throw

end Session.Adds

theorem Inventory.adds_answer (lookup : Lookup) (table column : Value)
    (read : Inventory → Except Fault α) : (answer lookup table column read).Adds F := by
  refine Session.Adds.bind Session.Adds.source fun i => ?_
  split
  · exact Session.Adds.throw _
  · exact Session.Adds.lift _

theorem Inventory.adds : Inventory.provider.Adds F where
  within h := Session.Adds.bind (Session.Adds.modifySource _) fun _ =>
    Session.Adds.ensuring h fun _ => ⟨[], by simp, by simp⟩
  foreignKeys table column := adds_answer .foreignKeys table column (·.foreignKeys table column)
  defaults table column := adds_answer .defaults table column (·.defaults table column)
  indexes table column := adds_answer .indexes table column (·.indexes table column)

namespace Database

variable {d : Database} {table column : Value}

/-- What a database has to say for itself: of connections, of queries, and of those that fail. -/
inductive Tells (d : Database) : Record → Prop
  | opens : Tells d ⟨.debug, "開啟中繼資料連線: " ++ d.path⟩
  | closes : Tells d ⟨.debug, "關閉中繼資料連線: " ++ d.path⟩
  | refused {attempt : Nat} {words : String} (refusal : d.refusal? attempt = some words) :
    Tells d ⟨.error, "連接資料庫失敗: " ++ words⟩
  | asks (q : Query) (reported : d.statementLogging = true) : Tells d ⟨.debug, q.report⟩
  | failed (q : Query) (words : String) : Tells d ⟨.error, q.failureReport words⟩

theorem tells_closing (connection : Nat) (t : Trail Connections) :
    ∃ records, (d.closing connection t).log = t.log ++ records ∧ ∀ r ∈ records, d.Tells r := by
  unfold closing
  split
  · exact ⟨[], by simp, by simp⟩
  · exact ⟨[], by simp, by simp⟩
  · exact ⟨[_], rfl, by simpa using Tells.closes⟩

theorem adds_onConnection {s : Nat → Session Connections α}
    (h : ∀ connection, (s connection).Adds d.Tells) : (d.onConnection s).Adds d.Tells := by
  refine Session.Adds.bind Session.Adds.source fun connections => ?_
  split
  · next connection _ => exact h connection
  · split
    · exact Session.Adds.throw _
    · split
      · refine Session.Adds.bind (Session.Adds.modifySource _) fun _ => ?_
        refine Session.Adds.bind (Session.Adds.log d.logger .opens) fun _ => ?_
        exact Session.Adds.ensuring (h _) (tells_closing _)
      · next words refusal =>
        refine Session.Adds.bind (Session.Adds.modifySource _) fun _ => ?_
        refine Session.Adds.bind (Session.Adds.log d.logger (.refused refusal)) fun _ => ?_
        exact Session.Adds.throw _

theorem adds_reportQuery (q : Query) : (d.reportQuery q).Adds d.Tells := by
  unfold reportQuery
  split
  · next reported => exact Session.Adds.log d.logger (.asks q reported)
  · exact Session.Adds.pure ()

theorem adds_query (q : Query) (answer : Nat → Answer α) (connection : Nat) :
    (d.query q answer connection).Adds d.Tells := by
  refine Session.Adds.bind (adds_reportQuery q) fun _ => ?_
  refine Session.Adds.bind Session.Adds.source fun connections => ?_
  refine Session.Adds.bind (Session.Adds.modifySource _) fun _ => ?_
  exact Session.Adds.pure (answer connections.queries)

theorem adds_ask {q : Query} {answer : Nat → Answer α} : (d.ask q answer).Adds d.Tells := by
  refine Session.Adds.bind (adds_onConnection (adds_query q answer)) fun found => ?_
  cases found with
  | ok rows => exact Session.Adds.pure rows
  | error words =>
    refine Session.Adds.bind (Session.Adds.log d.logger (.failed q words)) fun _ => ?_
    exact Session.Adds.throw _

theorem adds_askNames {q : Query} {answer : Nat → Answer String} :
    (d.askNames q answer).Adds d.Tells :=
  Session.Adds.bind adds_ask fun rows => Session.Adds.pure (rows.map Value.text)

/-- A database adds to a log what it has to say for itself. -/
theorem adds : d.provider.Adds d.Tells where
  within h := adds_onConnection fun _ => h
  foreignKeys table column := by
    show (d.foreignKeyNames table column).Adds d.Tells
    unfold foreignKeyNames
    split <;> exact adds_askNames
  defaults table column := by
    show (d.defaultNames table column).Adds d.Tells
    unfold defaultNames
    split
    · exact Session.Adds.pure []
    · exact adds_askNames
  indexes table column := by
    refine Session.Adds.bind adds_ask fun rows => ?_
    refine Session.Adds.bind (Session.Adds.lift _) fun about => ?_
    exact Session.Adds.pure _

end Database

end SchemaDrift
