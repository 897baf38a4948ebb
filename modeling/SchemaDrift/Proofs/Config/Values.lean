import Mathlib.Data.List.Nodup
import SchemaDrift.Config.Basic
import SchemaDrift.Proofs.Session.Returns
import SchemaDrift.Proofs.Text.UpperCase

/-!
# Values of settings

A configuration can be made of values for its settings exactly where the log level names a level and
the two lengths are positive (`Admissible`). It has these values then, the log level in upper case,
and is determined by them and its logger.
-/

namespace SchemaDrift

open Document (Value)
open Log (Level Logger)

theorem Log.Level.name_injective {l l' : Level} (h : l.name = l'.name) : l = l' := by
  revert h
  cases l <;> cases l' <;> decide

theorem Log.Level.ofName?_eq_some_iff {s : String} {l : Level} :
    Level.ofName? s = some l ↔ s = l.name := by
  constructor
  · intro found
    have named := List.find?_some found
    rw [beq_iff_eq] at named
    exact named.symm
  · rintro rfl
    cases l <;> decide

theorem Log.Level.upper_name (l : Level) : Text.upper l.name = l.name := by
  cases l <;> decide +kernel

namespace Setting

theorem nodup_keys : (all.map key).Nodup := by decide

theorem mem_all (s : Setting) : s ∈ all := by cases s <;> decide

theorem key_injective {s s' : Setting} (h : s.key = s'.key) : s = s' :=
  List.inj_on_of_nodup_map nodup_keys (mem_all s) (mem_all s') h

def entries (value : Setting → Value) (ss : List Setting) : List (Value × Value) :=
  ss.map fun s => (.text s.key, value s)

theorem lookup?_entries (value : Setting → Value) {s : Setting} {ss : List Setting} (h : s ∈ ss) :
    Value.lookup? s.key (entries value ss) = some (value s) := by
  induction ss with
  | nil => cases h
  | cons t ss ih =>
    show (if t.key = s.key then some (value t) else Value.lookup? s.key (entries value ss)) = _
    by_cases same : t = s
    · rw [same, if_pos rfl]
    · rw [if_neg fun keys => same (key_injective keys)]
      exact ih ((List.mem_cons.1 h).resolve_left (Ne.symm same))

theorem lookup?_logger (value : Setting → Value) (ss : List Setting) :
    Value.lookup? "logger" (entries value ss) = none := by
  induction ss with
  | nil => rfl
  | cons t ss ih =>
    have other : t.key ≠ "logger" := by cases t <;> decide
    show (if t.key = "logger" then some (value t) else Value.lookup? "logger" (entries value ss)) = _
    rw [if_neg other, ih]

end Setting

theorem Document.Value.lookup?_append (key : String) (xs ys : List (Value × Value)) :
    lookup? key (xs ++ ys) = (lookup? key xs).or (lookup? key ys) := by
  induction xs with
  | nil => rfl
  | cons x xs ih =>
    obtain ⟨k, v⟩ := x
    cases k with
    | text k => by_cases same : k = key <;> simp [lookup?, same, ih]
    | null | bool _ | int _ | real _ | moment _ | bytes _ | list _ | map _ => exact ih

namespace Config

/-- Values of which a configuration can be made. -/
structure Admissible (value : Setting → Value) : Prop where
  logLevel : ∃ (s : String) (l : Level), value .logLevel = .text s ∧ Text.upper s = l.name
  enumLength : (value .enumLength).isAtMostZero? = some false
  stringLength :
    value .stringLength = .null ∨ (value .stringLength).isAtMostZero? = some false

def normalized (value : Setting → Value) : Setting → Value
  | .logLevel =>
    match value .logLevel with
    | .text s => .text (Text.upper s)
    | other => other
  | s => value s

theorem readLogLevel_eq_ok_iff {v : Value} {l : Level} :
    readLogLevel v = .ok l ↔ ∃ s, v = .text s ∧ Text.upper s = l.name := by
  cases v with
  | text s =>
    rw [readLogLevel]
    constructor
    · intro h
      split at h
      · next found named =>
        cases h
        exact ⟨s, rfl, Level.ofName?_eq_some_iff.1 named⟩
      · cases h
    · rintro ⟨_, ⟨rfl⟩, named⟩
      rw [Level.ofName?_eq_some_iff.2 named]
  | null | bool _ | int _ | real _ | moment _ | bytes _ | list _ | map _ =>
    constructor
    · intro h
      cases h
    · rintro ⟨_, h, -⟩
      cases h

theorem readLength_eq_ok_iff {fault : String → Fault} {v : Value}
    {r : { v : Value // v.isAtMostZero? = some false }} :
    readLength fault v = .ok r ↔ v = r.1 := by
  rw [readLength]
  constructor
  · intro h
    split at h
    · cases h
    · split at h <;> cases h
    · cases h
      rfl
  · rintro rfl
    split
    · next absent => rw [r.2] at absent; cases absent
    · next small => rw [r.2] at small; cases small
    · rfl

theorem readOptionalLength_eq_ok_iff {fault : String → Fault} {v : Value}
    {r : { v : Value // v = .null ∨ v.isAtMostZero? = some false }} :
    readOptionalLength fault v = .ok r ↔ v = r.1 := by
  unfold readOptionalLength
  split
  · constructor
    · intro h
      cases h
      rfl
    · intro h
      exact congrArg Except.ok (Subtype.ext h)
  · next stated =>
    constructor
    · intro h
      cases read : readLength fault v with
      | error f => rw [read] at h; cases h
      | ok w =>
        rw [read] at h
        cases h
        exact readLength_eq_ok_iff.1 read
    · rintro rfl
      have positive := r.2.resolve_left stated
      rw [(readLength_eq_ok_iff (r := ⟨r.1, positive⟩)).2 rfl]
      rfl

variable {value value' : Setting → Value} {logger : Option Logger} {c d : Config}

theorem exists_ofValues (h : Admissible value) (logger : Option Logger) :
    ∃ d, ofValues value logger = .ok d := by
  obtain ⟨s, l, level, named⟩ := h.logLevel
  rw [ofValues, readLogLevel_eq_ok_iff.2 ⟨s, level, named⟩, ok_bind,
    (readLength_eq_ok_iff (r := ⟨_, h.enumLength⟩)).2 rfl, ok_bind,
    (readOptionalLength_eq_ok_iff (r := ⟨_, h.stringLength⟩)).2 rfl, ok_bind]
  exact ⟨_, rfl⟩

theorem admissible_of_ofValues (h : ofValues value logger = .ok d) : Admissible value := by
  obtain ⟨l, level, h⟩ := bind_eq_ok.1 h
  obtain ⟨enum, henum, h⟩ := bind_eq_ok.1 h
  obtain ⟨string, hstring, -⟩ := bind_eq_ok.1 h
  obtain ⟨s, hs, named⟩ := readLogLevel_eq_ok_iff.1 level
  exact ⟨⟨s, l, hs, named⟩, readLength_eq_ok_iff.1 henum ▸ enum.2,
    readOptionalLength_eq_ok_iff.1 hstring ▸ string.2⟩

theorem value_of_ofValues (h : ofValues value logger = .ok d) :
    d.value = normalized value ∧ d.logger = logger := by
  obtain ⟨l, level, h⟩ := bind_eq_ok.1 h
  obtain ⟨enum, henum, h⟩ := bind_eq_ok.1 h
  obtain ⟨string, hstring, h⟩ := bind_eq_ok.1 h
  obtain rfl := pure_eq_ok.1 h
  refine ⟨?_, rfl⟩
  obtain ⟨s, hs, named⟩ := readLogLevel_eq_ok_iff.1 level
  funext t
  cases t with
  | logLevel =>
    show Value.text l.name = normalized value .logLevel
    rw [normalized, hs, ← named]
  | enumLength => exact (readLength_eq_ok_iff.1 henum).symm
  | stringLength => exact (readOptionalLength_eq_ok_iff.1 hstring).symm
  | _ => rfl

/-- Where the log level is read as the same, no setting but itself tells the values apart. -/
theorem ofValues_congr (level : readLogLevel (value .logLevel) = readLogLevel (value' .logLevel))
    (others : ∀ s, s ≠ .logLevel → value s = value' s) (logger : Option Logger) :
    ofValues value logger = ofValues value' logger := by
  simp only [ofValues, level]
  simp [others]

theorem eq_of_value_eq (values : c.value = d.value) (logger : c.logger = d.logger) : c = d := by
  have same (s : Setting) : c.value s = d.value s := congrFun values s
  have level : c.logLevel = d.logLevel :=
    Level.name_injective (Value.text.inj (same .logLevel))
  cases c
  cases d
  cases level
  cases logger
  cases same .dialect
  cases same .statementLogging
  cases same .stringLength
  cases same .enumLength
  cases same .decimalPrecision
  cases same .decimalScale
  cases same .managedIndexPrefix
  cases same .deleteStampInUniqueIndex
  cases same .separateDrops
  cases same .typeOverrides
  cases same .defaultOverrides
  cases same .databasePath
  cases same .readOnly
  rfl

theorem admissible_value (c : Config) : Admissible c.value where
  logLevel := ⟨c.logLevel.name, c.logLevel, rfl, c.logLevel.upper_name⟩
  enumLength := c.enumLength_pos
  stringLength := c.stringLength_pos

theorem normalized_value (c : Config) : normalized c.value = c.value := by
  funext s
  cases s with
  | logLevel => exact congrArg Value.text c.logLevel.upper_name
  | _ => rfl

theorem Admissible.normalized (h : Admissible value) : Admissible (normalized value) := by
  obtain ⟨s, l, level, named⟩ := h.logLevel
  refine ⟨⟨Text.upper s, l, ?_, ?_⟩, h.enumLength, h.stringLength⟩
  · rw [Config.normalized, level]
  · rw [Text.upper_upper, named]

theorem ofValues_value (c : Config) (logger : Option Logger) :
    ofValues c.value logger = .ok { c with logger } := by
  obtain ⟨d, made⟩ := exists_ofValues c.admissible_value logger
  obtain ⟨values, kept⟩ := value_of_ofValues made
  rw [normalized_value] at values
  have same : d = { c with logger } := by
    apply eq_of_value_eq
    · rw [values]
      funext s
      cases s <;> rfl
    · exact kept
  rw [made, same]

-- All defaults are accepted, and are those of a dialect of which nothing else is said.
theorem ofEntries_nil (logger : Option Logger) :
    ofEntries [] logger = .ok { ofDialect "access" with logger } := by
  have defaults : valueIn [] = (ofDialect "access").value := by
    funext s
    cases s <;> rfl
  rw [ofEntries, defaults]
  exact (ofDialect "access").ofValues_value logger

end Config

end SchemaDrift
