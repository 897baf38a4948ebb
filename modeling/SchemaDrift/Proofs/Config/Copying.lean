import Mathlib.Logic.Relation
import SchemaDrift.Proofs.Config.Values

/-!
# Writing and copying configurations

A configuration whose overrides are maps is read back from its document, the logger aside, and
copies of it are made of its own values with those of the revision in their place. Copies after one
another are one copy of the original, and whatever they lead to is in order (`settings_survive`).
-/

namespace SchemaDrift.Config

open Document (Value)
open Log (Logger)

/-- The overrides of a configuration are maps, as they are declared. -/
structure HasMaps (c : Config) : Prop where
  types : ∃ entries, c.typeOverrides = .map entries
  defaults : ∃ entries, c.defaultOverrides = .map entries

/-- There is no logger, or one that counts as such. -/
def Counts (logger : Option Logger) : Prop := logger.all (·.isTruthy) = true

/-- Some copies after each other lead from one configuration to another one. -/
def LeadsTo : Config → Config → Prop :=
  Relation.ReflTransGen fun c d => ∃ r : Revision, c.revised r = .ok d

namespace Revision

/-- Values with those of the revision in their place. -/
def onto (r : Revision) (value : Setting → Value) (s : Setting) : Value :=
  (Value.lookup? s.key r.settings).getD (value s)

/-- The first revision updated with the second. -/
def updated (a b : Revision) : Revision := ⟨b.settings ++ a.settings, b.logger.or a.logger⟩

theorem onto_updated (a b : Revision) (value : Setting → Value) :
    (a.updated b).onto value = b.onto (a.onto value) := by
  funext s
  rw [onto, updated, Value.lookup?_append, Option.getD_or]
  rfl

theorem updated_ofEntries (a b : List (Value × Value)) :
    (ofEntries a).updated (ofEntries b) = ofEntries (b ++ a) := by
  rw [updated, ofEntries, ofEntries, ofEntries, Value.lookup?_append, Option.map_or]

end Revision

variable {c d : Config} {value : Setting → Value} {logger : Option Logger}

theorem toEntries_eq (maps : c.HasMaps) :
    c.toEntries = .ok (Setting.entries c.value Setting.all) := by
  obtain ⟨types, htypes⟩ := maps.types
  obtain ⟨defaults, hdefaults⟩ := maps.defaults
  have written :
      ({ c with typeOverrides := .map types, defaultOverrides := .map defaults } : Config) = c := by
    rw [← htypes, ← hdefaults]
  rw [toEntries, htypes, hdefaults]
  exact congrArg (fun w : Config => Except.ok (Setting.entries w.value Setting.all)) written

theorem valueIn_append (settings : List (Value × Value)) (value : Setting → Value) (s : Setting) :
    valueIn (settings ++ Setting.entries value Setting.all) s =
      (Value.lookup? s.key settings).getD (value s) := by
  rw [valueIn, Value.lookup?_append, Setting.lookup?_entries value s.mem_all, Option.getD_or,
    Option.getD_some]

theorem ofDocument_toDocument (maps : c.HasMaps) :
    (do ofDocument (← c.toDocument)) = .ok { c with logger := none } := by
  have values : valueIn (Setting.entries c.value Setting.all) = c.value :=
    funext (valueIn_append [] c.value)
  rw [toDocument, toEntries_eq maps]
  show ofEntries (Setting.entries c.value Setting.all) _ = _
  rw [Setting.lookup?_logger, ofEntries, values]
  exact c.ofValues_value none

theorem ofValues_onto_normalized (h : Admissible value) (r : Revision) :
    ofValues (r.onto (normalized value)) logger = ofValues (r.onto value) logger := by
  apply ofValues_congr
  · rw [Revision.onto, Revision.onto]
    cases Value.lookup? Setting.logLevel.key r.settings with
    | some v => rfl
    | none =>
      -- Upper case is no further change of a name that is in upper case.
      obtain ⟨s, l, level, named⟩ := h.logLevel
      have once : readLogLevel (value .logLevel) = .ok l :=
        readLogLevel_eq_ok_iff.2 ⟨s, level, named⟩
      have again : readLogLevel (normalized value .logLevel) = .ok l := by
        rw [normalized, level]
        exact readLogLevel_eq_ok_iff.2 ⟨Text.upper s, rfl, by rw [Text.upper_upper, named]⟩
      exact again.trans once.symm
  · intro s other
    have kept : normalized value s = value s := by
      cases s with
      | logLevel => exact absurd rfl other
      | _ => rfl
    rw [Revision.onto, Revision.onto, kept]

theorem filter_of_counts (h : Counts logger) : logger.filter (·.isTruthy) = logger := by
  cases logger with
  | none => rfl
  | some l => exact Option.filter_some_pos h

theorem revised_eq (maps : c.HasMaps) (counts : Counts c.logger) (r : Revision) :
    c.revised r = ofValues (r.onto c.value) (r.logger.getD c.logger) := by
  rw [revised, toEntries_eq maps, ok_bind, filter_of_counts counts, ofEntries]
  exact congrArg (ofValues · _) (funext (valueIn_append r.settings c.value))

theorem admissible_of_revised {r : Revision} (h : c.revised r = .ok d) : Admissible d.value := by
  obtain ⟨entries, -, made⟩ := bind_eq_ok.1 h
  rw [(value_of_ofValues made).1]
  exact (admissible_of_ofValues made).normalized

theorem revised_revised (maps : c.HasMaps) (counts : Counts c.logger) {a : Revision}
    (h : c.revised a = .ok d) (maps' : d.HasMaps) (counts' : Counts d.logger) (b : Revision) :
    d.revised b = c.revised (a.updated b) := by
  rw [revised_eq maps counts] at h
  obtain ⟨values, kept⟩ := value_of_ofValues h
  have loggers : b.logger.getD d.logger = (a.updated b).logger.getD c.logger := by
    rw [kept, Revision.updated, Option.getD_or]
  rw [revised_eq maps' counts', revised_eq maps counts, Revision.onto_updated, values, loggers,
    ofValues_onto_normalized (admissible_of_ofValues h)]

theorem admissible_of_leadsTo (h : c.LeadsTo d) : Admissible d.value := by
  induction h with
  | refl => exact c.admissible_value
  | tail _ last =>
    obtain ⟨r, revised⟩ := last
    exact admissible_of_revised revised

/--
Written out and read back, a configuration loses its logger and nothing else. A copy can be made
where the revised values are admissible, and has these, and the logger unless another one is named.
A copy of a copy is a copy with both revisions, or fails as that one does. Whatever copies lead to is
in order.
-/
theorem settings_survive (maps : c.HasMaps) (counts : Counts c.logger) :
    (do ofDocument (← c.toDocument)) = .ok { c with logger := none } ∧
      (∀ r : Revision,
        c.revised r = ofValues (r.onto c.value) (r.logger.getD c.logger) ∧
        ((∃ d, c.revised r = .ok d) ↔ Admissible (r.onto c.value)) ∧
        ∀ d, c.revised r = .ok d →
          d.value = normalized (r.onto c.value) ∧ d.logger = r.logger.getD c.logger) ∧
      (∀ (a b : Revision) (d : Config), c.revised a = .ok d → d.HasMaps → Counts d.logger →
        d.revised b = c.revised (a.updated b)) ∧
      (∀ (a b : List (Value × Value)) (d : Config),
        c.copy a = .ok d → d.HasMaps → Counts d.logger → d.copy b = c.copy (b ++ a)) ∧
      ∀ d, c.LeadsTo d → Admissible d.value := by
  refine ⟨ofDocument_toDocument maps, fun r => ?_, fun a b d => ?_, fun a b d => ?_, fun d => ?_⟩
  · have made := revised_eq maps counts r
    refine ⟨made, ⟨?_, ?_⟩, fun d h => value_of_ofValues (made ▸ h)⟩
    · rintro ⟨d, h⟩
      exact admissible_of_ofValues (made ▸ h)
    · intro h
      rw [made]
      exact exists_ofValues h _
  · intro h maps' counts'
    exact revised_revised maps counts h maps' counts' b
  · intro h maps' counts'
    rw [copy, copy, ← Revision.updated_ofEntries]
    exact revised_revised maps counts h maps' counts' _
  · exact admissible_of_leadsTo

/-- A configuration with overrides and a logger of its own. -/
def audited : Config :=
  { ofDialect "mssql" with
    logger := some .recorder
    logLevel := .debug
    typeOverrides := .map [("decimal", "money")] }

/-- The configuration with another level and default, and nothing known under a third name. -/
def quieter : Config :=
  { audited with logLevel := .warning, defaultOverrides := .map [("decimal", "0.0")] }

theorem settings_survive_audited :
    audited.HasMaps ∧ Counts audited.logger ∧ quieter.HasMaps ∧ Counts quieter.logger ∧
      (do ofDocument (← audited.toDocument)) = .ok { audited with logger := none } ∧
      audited.copy [("log_level", "Warning"), ("default_overrides", .map [("decimal", "0.0")]),
        ("verbosity", .int 3)] = .ok quieter ∧
      quieter.copy [("log_level", "error"), ("logger", .null)] =
        audited.copy [("log_level", "error"), ("logger", .null), ("log_level", "Warning"),
          ("default_overrides", .map [("decimal", "0.0")]), ("verbosity", .int 3)] ∧
      (¬ ∃ d, audited.copy [("default_string_length", .int 0)] = .ok d) ∧
      Admissible quieter.value := by
  have maps : audited.HasMaps := ⟨⟨_, rfl⟩, ⟨_, rfl⟩⟩
  have maps' : quieter.HasMaps := ⟨⟨_, rfl⟩, ⟨_, rfl⟩⟩
  obtain ⟨back, single, -, twice, reached⟩ := settings_survive maps rfl
  have copied : audited.copy [("log_level", "Warning"),
      ("default_overrides", .map [("decimal", "0.0")]), ("verbosity", .int 3)] = .ok quieter := by
    rw [copy, (single _).1]
    rfl
  refine ⟨maps, rfl, maps', rfl, back, copied, twice _ _ _ copied maps' rfl, ?_, ?_⟩
  · rw [copy, (single _).2.1]
    intro h
    exact absurd h.stringLength (by decide)
  · exact reached quieter (.single ⟨_, copied⟩)

end SchemaDrift.Config
