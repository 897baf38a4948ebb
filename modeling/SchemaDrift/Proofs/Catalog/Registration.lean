import Mathlib.Data.String.Basic
import SchemaDrift.Catalog.Registry
import SchemaDrift.Proofs.Text.LowerCase

/-!
# Registrations after one another

What a registry knows after any number of calls that register catalogues, some of which fail. A call
either fails, and then leaves the registry alone, or writes its catalogue under its name in lower
case (`after_eq`). So a dialect is the catalogue that was last registered under its name, or else the
built-in one (`latest_registration_counts`).
-/

namespace SchemaDrift

/-- A call that registers a catalogue with a name. -/
structure Registration where
  catalog : Catalog
  name : String
  replace : Bool := false
  named : catalog.name = .text name

def Registration.key (call : Registration) : String := Text.lower call.name

def Catalog.builtin? (name : String) : Option Catalog :=
  [access, mssql].find? (·.name = .text name)

namespace Registry

open Document (Value)

/-- The registry after a call. One that fails leaves it as it was. -/
def after (r : Registry) (call : Registration) : Registry :=
  match r.register call.catalog call.replace with
  | .ok next => next
  | .error _ => r

/-- The registry after calls one after another. -/
def run (r : Registry) (calls : List Registration) : Registry := calls.foldl after r

def successes (r : Registry) : List Registration → List Registration
  | [] => []
  | call :: calls =>
    if (r.register call.catalog call.replace).isOk then call :: (r.after call).successes calls
    else (r.after call).successes calls

def latest? (r : Registry) (calls : List Registration) (key : String) : Option Registration :=
  (r.successes calls).reverse.find? (·.key = key)

/-- A catalogue is registered whose name in lower case is the key. -/
def Holds (r : Registry) (key : String) : Prop :=
  ∃ c ∈ r.catalogs.values, ∃ name, c.name = .text name ∧ Text.lower name = key

/-- Each catalogue is registered under its own name in lower case. -/
def KeyedByName (r : Registry) : Prop :=
  ∀ key c, r.catalogs.get? key = some c → ∃ name, c.name = .text name ∧ Text.lower name = key

variable {r : Registry} {call : Registration} {calls : List Registration}

theorem register_eq (r : Registry) (call : Registration) :
    r.register call.catalog call.replace =
      if call.key ∈ r.catalogs.keys ∧ call.replace = false then .error (.dialectTaken call.name)
      else .ok ⟨r.catalogs.insert call.key call.catalog⟩ := by
  have taken : (r.catalogs.contains call.key && !call.replace) = true ↔
      call.key ∈ r.catalogs.keys ∧ call.replace = false := by
    rw [Bool.and_eq_true, OrderedMap.contains_iff, Bool.not_eq_true']
  rw [register, call.named]
  exact if_congr taken rfl rfl

theorem after_eq (r : Registry) (call : Registration) :
    r.after call =
      if call.key ∈ r.catalogs.keys ∧ call.replace = false then r
      else ⟨r.catalogs.insert call.key call.catalog⟩ := by
  rw [after, register_eq]
  by_cases taken : call.key ∈ r.catalogs.keys ∧ call.replace = false
  · rw [if_pos taken, if_pos taken]
  · rw [if_neg taken, if_neg taken]

theorem KeyedByName.after (h : r.KeyedByName) (call : Registration) :
    (r.after call).KeyedByName := by
  rw [after_eq]
  split
  · exact h
  · intro key c found
    rw [OrderedMap.get?_insert] at found
    split at found
    · next same =>
      cases found
      exact ⟨call.name, call.named, same⟩
    · exact h key c found

theorem KeyedByName.holds_iff (h : r.KeyedByName) (key : String) :
    r.Holds key ↔ key ∈ r.catalogs.keys := by
  constructor
  · rintro ⟨c, mem, name, named, rfl⟩
    obtain ⟨⟨k, c⟩, entry, rfl⟩ := List.mem_map.1 mem
    obtain ⟨name', named', rfl⟩ := h k c ((OrderedMap.get?_eq_some_iff ..).2 entry)
    cases named.symm.trans named'
    exact List.mem_map_of_mem entry
  · intro mem
    obtain ⟨⟨k, c⟩, entry, rfl⟩ := List.mem_map.1 mem
    exact ⟨c, List.mem_map_of_mem entry, h k c ((OrderedMap.get?_eq_some_iff ..).2 entry)⟩

theorem keys_subset_after (r : Registry) (call : Registration) :
    r.catalogs.keys ⊆ (r.after call).catalogs.keys := by
  intro key mem
  rw [after_eq]
  split
  · exact mem
  · rw [OrderedMap.keys_insert]
    split
    · exact mem
    · exact List.mem_append_left _ mem

theorem KeyedByName.run (h : r.KeyedByName) (calls : List Registration) :
    (r.run calls).KeyedByName := by
  induction calls generalizing r with
  | nil => exact h
  | cons call calls ih => exact ih (h.after call)

theorem keys_subset_run (r : Registry) (calls : List Registration) :
    r.catalogs.keys ⊆ (r.run calls).catalogs.keys := by
  induction calls generalizing r with
  | nil => exact fun _ mem => mem
  | cons call calls ih => exact fun _ mem => ih _ (keys_subset_after r call mem)

theorem get?_run (r : Registry) (calls : List Registration) (key : String) :
    (r.run calls).catalogs.get? key =
      ((r.latest? calls key).map (·.catalog)).or (r.catalogs.get? key) := by
  induction calls generalizing r with
  | nil => rfl
  | cons call calls ih =>
    -- The first call is written before the others, so that it counts where no later one does.
    show ((r.after call).run calls).catalogs.get? key = _
    rw [ih, latest?, latest?, successes, after_eq, register_eq]
    by_cases taken : call.key ∈ r.catalogs.keys ∧ call.replace = false
    · rw [if_pos taken, if_pos taken]
      rfl
    · rw [if_neg taken, if_neg taken]
      show _ = (((call :: successes _ calls).reverse.find? (·.key = key)).map (·.catalog)).or _
      rw [List.reverse_cons, List.find?_append, OrderedMap.get?_insert, Option.map_or,
        Option.or_assoc]
      by_cases same : call.key = key <;> simp [same]

theorem keyedByName_initial : initial.KeyedByName := by
  intro key c found
  have mem := (OrderedMap.get?_eq_some_iff ..).1 found
  rcases List.mem_cons.1 mem with first | mem
  · cases first
    exact ⟨"access", rfl, by decide +kernel⟩
  · cases List.mem_singleton.1 mem
    exact ⟨"mssql", rfl, by decide +kernel⟩

theorem get?_initial (key : String) : initial.catalogs.get? key = Catalog.builtin? key := by
  have access : (Catalog.access.name = .text key) ↔ "access" = key :=
    ⟨Value.text.inj, congrArg _⟩
  have mssql : (Catalog.mssql.name = .text key) ↔ "mssql" = key :=
    ⟨Value.text.inj, congrArg _⟩
  show (if "access" = key then some Catalog.access else
    if "mssql" = key then some Catalog.mssql else none) = _
  simp only [Catalog.builtin?, List.find?_cons, access, mssql, List.find?_nil]
  by_cases first : "access" = key
  · simp [first]
  · by_cases second : "mssql" = key <;> simp [first, second]

theorem mem_available {key : String} : key ∈ r.available ↔ key ∈ r.catalogs.keys :=
  (List.mergeSort_perm ..).mem_iff

-- Sorting leaves no key in front of a larger one, and no two keys are the same.
theorem available_ascends (r : Registry) : r.available.Pairwise (· < ·) := by
  have sorted : r.available.Pairwise (· ≤ ·) := by
    refine (List.pairwise_mergeSort ?_ ?_ _).imp of_decide_eq_true
    · intro a b c ab bc
      exact decide_eq_true (String.le_trans (of_decide_eq_true ab) (of_decide_eq_true bc))
    · intro a b
      simpa using String.le_total a b
  have once : r.available.Nodup := (List.mergeSort_perm ..).nodup_iff.2 r.catalogs.nodup
  exact (sorted.and once).imp fun h => Std.lt_of_le_of_ne h.1 h.2

theorem exists_get_iff {dialect : String} :
    (∃ c, r.get dialect = .ok c) ↔ Text.lower dialect ∈ r.available := by
  rw [mem_available, ← OrderedMap.contains_iff, OrderedMap.contains, get]
  cases r.catalogs.get? (Text.lower dialect) with
  | none => simp
  | some c => simp

theorem register_fails_iff (h : r.KeyedByName) (call : Registration) :
    (∃ f, r.register call.catalog call.replace = .error f) ↔
      call.replace = false ∧ r.Holds call.key := by
  rw [register_eq, h.holds_iff]
  constructor
  · rintro ⟨f, failed⟩
    split at failed
    · next taken => exact taken.symm
    · cases failed
  · intro taken
    exact ⟨_, if_pos taken.symm⟩

theorem run_of_register_fails {f : Fault}
    (h : (r.run calls).register call.catalog call.replace = .error f) :
    f = .dialectTaken call.name ∧ r.run (calls ++ [call]) = r.run calls := by
  constructor
  · rw [register_eq] at h
    split at h
    · cases h
      rfl
    · cases h
  · rw [run, List.foldl_concat]
    show (r.run calls).after call = _
    rw [after, h]

theorem get_run (calls : List Registration) (dialect : String) :
    (initial.run calls).get dialect =
      match ((initial.latest? calls (Text.lower dialect)).map (·.catalog)).or
        (Catalog.builtin? (Text.lower dialect)) with
      | some c => .ok c
      | none => .error (.unknownDialect dialect (initial.run calls).available) := by
  have found : (initial.run calls).catalogs.get? (Text.lower dialect) =
      ((initial.latest? calls (Text.lower dialect)).map (·.catalog)).or
        (Catalog.builtin? (Text.lower dialect)) := by
    rw [get?_run, get?_initial]
  exact congrArg (fun c? : Option Catalog =>
    match c? with
    | some c => Except.ok c
    | none => .error (Fault.unknownDialect dialect (initial.run calls).available)) found

theorem KeyedByName.lower_eq (h : r.KeyedByName) {key : String} (mem : key ∈ r.available) :
    Text.lower key = key := by
  obtain ⟨-, -, name, -, rfl⟩ := (h.holds_iff key).2 (mem_available.1 mem)
  exact Text.lower_lower name

/--
Whatever is registered, a call fails only where it asks for no replacement and a catalogue is
registered whose name is the same in lower case, and leaves the registry alone then. A dialect is the
catalogue that was last registered under its name, or else the built-in one. The list of dialects
ascends and holds the names in lower case that are known, and none is ever lost.
-/
theorem latest_registration_counts (calls : List Registration) :
    (∀ call : Registration,
        ((∃ f, (initial.run calls).register call.catalog call.replace = .error f) ↔
          call.replace = false ∧ (initial.run calls).Holds call.key) ∧
        ∀ f, (initial.run calls).register call.catalog call.replace = .error f →
          f = .dialectTaken call.name ∧ initial.run (calls ++ [call]) = initial.run calls) ∧
      (∀ dialect, (initial.run calls).get dialect =
        match ((initial.latest? calls (Text.lower dialect)).map (·.catalog)).or
          (Catalog.builtin? (Text.lower dialect)) with
        | some c => .ok c
        | none => .error (.unknownDialect dialect (initial.run calls).available)) ∧
      (initial.run calls).available.Pairwise (· < ·) ∧
      (∀ name, name ∈ (initial.run calls).available ↔
        Text.lower name = name ∧ ∃ c, (initial.run calls).get name = .ok c) ∧
      (∀ dialect, (∃ c, (initial.run calls).get dialect = .ok c) ↔
        Text.lower dialect ∈ (initial.run calls).available) ∧
      ∀ later dialect, (∃ c, (initial.run calls).get dialect = .ok c) →
        ∃ c, (initial.run (calls ++ later)).get dialect = .ok c := by
  have keyed := keyedByName_initial.run calls
  refine ⟨fun call => ⟨register_fails_iff keyed call, fun f => run_of_register_fails⟩,
    get_run calls, available_ascends _, fun name => ?_, fun dialect => exists_get_iff,
    fun later dialect => ?_⟩
  · rw [exists_get_iff]
    constructor
    · intro mem
      have lowered := keyed.lower_eq mem
      exact ⟨lowered, lowered.symm ▸ mem⟩
    · rintro ⟨lowered, mem⟩
      exact lowered ▸ mem
  · rw [exists_get_iff, exists_get_iff, mem_available, mem_available, run, run, List.foldl_append]
    exact fun mem => keys_subset_run _ later mem

def renamed (c : Catalog) (name : String) (replace : Bool := false) : Registration :=
  ⟨{ c with name := .text name }, name, replace, rfl⟩

/-- A dialect of a ledger, and another one that takes its place. -/
def ledgers : List Registration := [renamed .access "Ledger", renamed .mssql "ledger" true]

theorem latest_registration_counts_ledgers :
    (initial.run ledgers).register { Catalog.mssql with name := "LEDGER" } =
        .error (.dialectTaken "LEDGER") ∧
      initial.run (ledgers ++ [renamed .mssql "LEDGER"]) = initial.run ledgers ∧
      (initial.run ledgers).get "lEDGER" = .ok { Catalog.mssql with name := "ledger" } ∧
      "ledger" ∈ (initial.run ledgers).available ∧
      ∃ c, (initial.run ledgers).get "ACCESS" = .ok c := by
  obtain ⟨call, found, -, listed, -, -⟩ := latest_registration_counts ledgers
  have kept := (latest_registration_counts []).2.2.2.2.2
  have refused : (initial.run ledgers).register { Catalog.mssql with name := "LEDGER" } =
      .error (.dialectTaken "LEDGER") := by
    decide +kernel
  refine ⟨refused, ?_, ?_, ?_, ?_⟩
  · exact ((call (renamed .mssql "LEDGER")).2 _ refused).2
  · rw [found]
    decide +kernel
  · exact (listed "ledger").2 ⟨by decide +kernel, _, by rw [found]; rfl⟩
  · exact kept ledgers "ACCESS" ⟨.access, by decide +kernel⟩

end Registry

end SchemaDrift
