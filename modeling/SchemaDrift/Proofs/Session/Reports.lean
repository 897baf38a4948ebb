import SchemaDrift.Ddl.Composer
import SchemaDrift.Proofs.Session.Returns

/-!
# What sessions report

A run reports of plans, warns, counts what depends on a column, and lists statements line by line.
Which of these events its log keeps is a matter of the settings: without a logger of the caller's none
of them, and the lines of statements only where statements are to be logged.
-/

namespace SchemaDrift

open Document (Value)

/-- What a run has to report. -/
inductive Event where
  | told (message : String)
  | warned (message : String)
  /-- So many statements drop what depends on a column. -/
  | counted (table column : Value) (count : Nat)
  | listed (s : Statement)

namespace Event

def record : Event → Log.Record
  | told message => ⟨.info, message⟩
  | warned message => ⟨.warning, message⟩
  | counted table column count =>
    ⟨.debug, table.display ++ "." ++ column.display ++ s!" 有 {count} 個依賴需先刪除"⟩
  | listed s => ⟨.debug, s.logLine⟩

def isListing : Event → Bool
  | listed _ => true
  | _ => false

end Event

/-- How a run reports: the settings that no statement depends on. -/
structure Reporting where
  logger : Option Log.Logger
  level : Log.Level
  statements : Value

/-- How a run of the configuration reports. -/
def Config.reporting (c : Config) : Reporting := ⟨c.logger, c.logLevel, c.statementLoggingSetting⟩

namespace Reporting

variable {r : Reporting}

def IsAudible (r : Reporting) : Prop := ∀ v, r.logger ≠ some (.mute v)

def passes (r : Reporting) (x : Event) : Bool := !x.isListing || r.statements.isTruthy

/-- What the log keeps of events. The built-in logger keeps its records to itself. -/
def records (r : Reporting) (events : List Event) : List Log.Record :=
  if r.logger = some .recorder then (events.filter r.passes).map Event.record else []

@[simp] theorem records_nil : r.records [] = [] := by simp [records]

theorem records_append (xs ys : List Event) :
    r.records (xs ++ ys) = r.records xs ++ r.records ys := by
  by_cases kept : r.logger = some .recorder <;> simp [records, kept]

theorem records_of_mute_listing (silent : r.statements.isTruthy = false) (ss : List Statement) :
    r.records (ss.map .listed) = [] := by
  have none : (ss.map Event.listed).filter r.passes = [] := by
    simp [List.filter_eq_nil_iff, passes, Event.isListing, silent]
  simp [records, none]

end Reporting

section Runs

variable {σ : Type} {r : Reporting}

/-- The trail with what a run keeps of events. -/
def Trail.reported (t : Trail σ) (r : Reporting) (events : List Event) : Trail σ :=
  { t with log := t.log ++ r.records events }

theorem Trail.reported_append (t : Trail σ) (xs ys : List Event) :
    (t.reported r xs).reported r ys = t.reported r (xs ++ ys) := by
  simp [reported, Reporting.records_append]

theorem Session.run_log (audible : r.IsAudible) {x : Event} (passes : r.passes x = true)
    (t : Trail σ) : (ExceptT.run (log r.logger x.record.level x.record.message)).run t =
      (.ok (), t.reported r [x]) := by
  have one : [x].filter r.passes = [x] := by simp [passes]
  cases logger : r.logger with
  | none =>
    have kept : t.reported r [x] = t := by simp [Trail.reported, Reporting.records, logger]
    rw [kept]
    rfl
  | some given =>
    cases given with
    | recorder =>
      have kept : t.reported r [x] = { t with log := t.log ++ [x.record] } := by
        simp [Trail.reported, Reporting.records, logger, one]
      rw [kept]
      rfl
    | mute v => exact absurd logger (audible v)

theorem Composer.run_logStatements {c : Config} (audible : c.reporting.IsAudible)
    (ss : List Statement) (t : Trail σ) : (ExceptT.run (logStatements c ss)).run t =
      (.ok (), t.reported c.reporting (ss.map .listed)) := by
  rw [logStatements]
  split
  · next asked =>
    induction ss generalizing t with
    | nil =>
      simp [Trail.reported]
      rfl
    | cons s ss ih =>
      have passes : c.reporting.passes (.listed s) = true := by
        rw [Reporting.passes]
        exact asked
      have first : Session.Returns (Session.log c.logger .debug s.logLine) t ()
          (t.reported c.reporting [.listed s]) := Session.run_log audible passes t
      have rest := ih (t.reported c.reporting [.listed s])
      rw [Trail.reported_append] at rest
      exact (Session.run_bind_of_returns first).trans rest
  · next unasked =>
    have silent : c.reporting.statements.isTruthy = false := Bool.eq_false_iff.2 unasked
    simp [Trail.reported, Reporting.records_of_mute_listing silent]
    rfl

end Runs

end SchemaDrift
