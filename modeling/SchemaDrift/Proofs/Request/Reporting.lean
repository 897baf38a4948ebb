import SchemaDrift.Proofs.Metadata.Scopes

/-!
# Calls under other reports

Logger, log level and statement logging are for those who watch: whatever they are, every call gives
the same answer or fault and asks the metadata source for the same. Two runs that differ in them have
the same events to report, of which each log keeps what its settings let through.
-/

namespace SchemaDrift

open Document (Value)

namespace Reporting

variable {r r' : Reporting}

/--
Two runs beside sources that are the same, of which each has added to its log what it keeps of the
same events.
-/
def bond (r r' : Reporting) : Bond (List Log.Record × List Log.Record) Inventory Inventory where
  holds before _ t u := u.source = t.source ∧
    ∃ events, t.log = before.1 ++ r.records events ∧ u.log = before.2 ++ r'.records events
  fails := id

theorem bond_reported {before : List Log.Record × List Log.Record} {fault fault' : Option Fault}
    {t u : Trail Inventory} (bound : (bond r r').holds before fault t u) (events : List Event) :
    (bond r r').holds before fault' (t.reported r events) (u.reported r' events) := by
  obtain ⟨same, earlier, ht, hu⟩ := bound
  refine ⟨same, earlier ++ events, ?_, ?_⟩
  · simp [Trail.reported, ht, records_append]
  · simp [Trail.reported, hu, records_append]

theorem reports_bond {c c' : Config} (audible : c.reporting.IsAudible)
    (audible' : c'.reporting.IsAudible) : (bond c.reporting c'.reporting).Reports c c' where
  tell := by
    intro x isReport before t u bound
    have passes (r : Reporting) : r.passes x = true := by simp [Reporting.passes, isReport]
    have run : (ExceptT.run (Session.log c.logger x.record.level x.record.message)).run t =
        (.ok (), t.reported c.reporting [x]) := Session.run_log audible (passes _) t
    have run' : (ExceptT.run (Session.log c'.logger x.record.level x.record.message)).run u =
        (.ok (), u.reported c'.reporting [x]) := Session.run_log audible' (passes _) u
    rw [run, run']
    exact ⟨rfl, bond_reported bound [x]⟩
  list := by
    intro ss before t u bound
    rw [Composer.run_logStatements audible, Composer.run_logStatements audible']
    exact ⟨rfl, bond_reported bound (ss.map .listed)⟩

theorem alike_answer {α : Type} (lookup : Lookup) (table column : Value)
    (read : Inventory → Except Fault α) :
    (bond r r').Alike (Inventory.answer lookup table column read)
      (Inventory.answer lookup table column read) := by
  rintro before t u ⟨same, events⟩
  rw [Inventory.run_answer, Inventory.run_answer, same]
  exact ⟨rfl, same, events⟩

theorem serves_bond : (bond r r').Serves Inventory.provider Inventory.provider where
  within := by
    rintro α s s' h before t u ⟨same, events⟩
    obtain ⟨result, same, events⟩ := h before { t with source := t.source.openScope }
      { u with source := u.source.openScope } ⟨congrArg Inventory.openScope same, events⟩
    exact ⟨result, congrArg Inventory.closeScope same, events⟩
  foreignKeys table column := alike_answer .foreignKeys table column (·.foreignKeys table column)
  defaults table column := alike_answer .defaults table column (·.defaults table column)
  indexes table column := alike_answer .indexes table column (·.indexes table column)

end Reporting

namespace Call

/-- The call with another way to report in every configuration that it carries. -/
def under (r : Reporting) : Call → Call
  | compose b operation given entity? => .compose (b.relogged fun _ => r) operation given entity?
  | plan p operation given entity? => .plan (p.relogged fun _ => r) operation given entity?

variable {r r' : Reporting}

theorem twins_under (audible : r.IsAudible) (audible' : r'.IsAudible) (c : Call) :
    Twins (r.bond r') (c.under r) (c.under r') := by
  have reports (c : Config) : (r.bond r').Reports (c.relogged fun _ => r) (c.relogged fun _ => r') :=
    @Reporting.reports_bond (c.relogged fun _ => r) (c.relogged fun _ => r') audible audible'
  cases c with
  | compose b => exact .compose ⟨⟨fun _ => r', rfl⟩, reports b.config⟩
  | plan p => exact .plan ⟨⟨fun _ => r', rfl⟩, reports p.config, reports p.composer.config⟩

theorem run_under (audible : r.IsAudible) (audible' : r'.IsAudible) (c : Call)
    {t u : Trail Inventory} (same : u.source = t.source) :
    ((c.under r').run u).1 = ((c.under r).run t).1 ∧
      ((c.under r').run u).2.source = ((c.under r).run t).2.source ∧
      ∃ events, ((c.under r).run t).2.log = t.log ++ r.records events ∧
        ((c.under r').run u).2.log = u.log ++ r'.records events := by
  have alike := (twins_under audible audible' c).alike Reporting.serves_bond
  obtain ⟨result, bound⟩ := alike (t.log, u.log) t u ⟨same, [], by simp, by simp⟩
  exact ⟨result.symm, bound⟩

theorem source_after_under (audible : r.IsAudible) (audible' : r'.IsAudible) (calls : List Call)
    {t u : Trail Inventory} (same : u.source = t.source) :
    (after (calls.map (under r')) u).source = (after (calls.map (under r)) t).source := by
  induction calls generalizing t u with
  | nil => exact same
  | cons c calls ih => exact ih (run_under audible audible' c same).2.1

/--
Reports do not interfere: of two runs of the same calls under loggers that can be heard, each call
gives the same result or the same fault and leaves the source with the same counts, and both runs
have the same events to report.
-/
theorem reports_do_not_interfere (audible : r.IsAudible) (audible' : r'.IsAudible) (i : Inventory)
    (calls : List Call) (c : Call) :
    let t := after (calls.map (under r)) { source := i }
    let u := after (calls.map (under r')) { source := i }
    ((c.under r').run u).1 = ((c.under r).run t).1 ∧
      ((c.under r').run u).2.source = ((c.under r).run t).2.source ∧
      ∃ events, ((c.under r).run t).2.log = t.log ++ r.records events ∧
        ((c.under r').run u).2.log = u.log ++ r'.records events :=
  run_under audible audible' c (source_after_under audible audible' calls rfl)

/-- A logger of the caller's that is handed every event. -/
def loud : Reporting := ⟨some .recorder, .debug, .bool true⟩

/-- A logger of the caller's that is handed no statements. -/
def quiet : Reporting := ⟨some .recorder, .warning, .bool false⟩

/-- What depends on a column that no attribute declares. -/
def colourRecords : Inventory where
  indexEntries := [⟨"PARCEL", "COLOUR", { name := "IX_COLOUR" }⟩]

theorem reports_do_not_interfere_colour :
    ((dropColour.under quiet).run { source := colourRecords }).1 =
        ((dropColour.under loud).run { source := colourRecords }).1 ∧
      ((dropColour.under quiet).run { source := colourRecords }).2.source =
        ((dropColour.under loud).run { source := colourRecords }).2.source ∧
      (((dropColour.under loud).run { source := colourRecords }).2.log.map (·.level),
          ((dropColour.under quiet).run { source := colourRecords }).2.log.map (·.level)) =
        ([.debug, .debug, .info, .debug, .debug], [.debug, .info]) := by
  have audible : loud.IsAudible := nofun
  have audible' : quiet.IsAudible := nofun
  obtain ⟨result, source, -⟩ := reports_do_not_interfere audible audible' colourRecords [] dropColour
  exact ⟨result, source, by decide +kernel⟩

end Call

end SchemaDrift
