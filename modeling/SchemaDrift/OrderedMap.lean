/-!
# Maps that remember insertion order

A finite map kept as the list of its entries, each key once. Writing to a key that is present
replaces the value and keeps the position; writing to a new key appends. Lookup after a write,
the keys after a write, and the merge of two maps are described by the lemmas below.
-/

namespace SchemaDrift

/-- An insertion-ordered map with distinct keys. -/
structure OrderedMap (α β : Type) where
  entries : List (α × β)
  nodup : (entries.map Prod.fst).Nodup := by decide
  deriving Repr, DecidableEq

namespace OrderedMap

variable {α β : Type}

@[ext] theorem ext {m n : OrderedMap α β} (h : m.entries = n.entries) : m = n := by
  cases m; cases n; cases h; rfl

def empty : OrderedMap α β := ⟨[], by simp⟩

instance : Inhabited (OrderedMap α β) := ⟨empty⟩

/-- The keys in order of first insertion. -/
def keys (m : OrderedMap α β) : List α := m.entries.map Prod.fst

def values (m : OrderedMap α β) : List β := m.entries.map Prod.snd

def isEmpty (m : OrderedMap α β) : Bool := m.entries.isEmpty

variable [DecidableEq α]

/-- The value found first under a key in a list of entries. -/
def lookupIn (k : α) : List (α × β) → Option β
  | [] => none
  | (k', v) :: rest => if k' = k then some v else lookupIn k rest

/-- A list of entries after writing `v` under `k`. -/
def writeIn (k : α) (v : β) : List (α × β) → List (α × β)
  | [] => [(k, v)]
  | (k', v') :: rest => if k' = k then (k', v) :: rest else (k', v') :: writeIn k v rest

theorem keys_writeIn (k : α) (v : β) (es : List (α × β)) :
    (writeIn k v es).map Prod.fst =
      if k ∈ es.map Prod.fst then es.map Prod.fst else es.map Prod.fst ++ [k] := by
  induction es with
  | nil => simp [writeIn]
  | cons e es ih =>
    obtain ⟨k', v'⟩ := e
    by_cases h : k' = k
    · simp [writeIn, h]
    · have h' : k ≠ k' := Ne.symm h
      by_cases hk : k ∈ es.map Prod.fst
      · rw [if_pos hk] at ih
        have : k ∈ k' :: es.map Prod.fst := List.mem_cons_of_mem _ hk
        simp only [writeIn, h, if_false, List.map_cons, ih, if_pos this]
      · rw [if_neg hk] at ih
        have : k ∉ k' :: es.map Prod.fst := by simp only [List.mem_cons, not_or]; exact ⟨h', hk⟩
        simp only [writeIn, h, if_false, List.map_cons, ih, if_neg this, List.cons_append]

theorem lookupIn_writeIn (k k' : α) (v : β) (es : List (α × β)) :
    lookupIn k' (writeIn k v es) = if k = k' then some v else lookupIn k' es := by
  induction es with
  | nil => simp [writeIn, lookupIn]
  | cons e es ih =>
    obtain ⟨l, w⟩ := e
    by_cases h : l = k
    · subst h
      by_cases hl : l = k' <;> simp [writeIn, lookupIn, hl]
    · by_cases hl : l = k'
      · subst hl
        simp [writeIn, lookupIn, h, Ne.symm h]
      · simp [writeIn, lookupIn, h, hl, ih]

def get? (m : OrderedMap α β) (k : α) : Option β := lookupIn k m.entries

def contains (m : OrderedMap α β) (k : α) : Bool := (m.get? k).isSome

def insert (m : OrderedMap α β) (k : α) (v : β) : OrderedMap α β :=
  ⟨writeIn k v m.entries, by
    rw [keys_writeIn]
    split
    · exact m.nodup
    · rename_i h
      rw [List.nodup_append]
      exact ⟨m.nodup, by simp, by
        intro a ha b hb
        simp only [List.mem_singleton] at hb
        subst hb
        intro hab
        exact h (hab ▸ ha)⟩⟩

def insertMany (m : OrderedMap α β) (es : List (α × β)) : OrderedMap α β :=
  es.foldl (fun acc e => acc.insert e.1 e.2) m

/-- The map written by a list of entries: a repeated key keeps its first place and last value. -/
def ofList (es : List (α × β)) : OrderedMap α β := empty.insertMany es

/-- The entries of `m` overwritten by those of `n`. -/
def merge (m n : OrderedMap α β) : OrderedMap α β := m.insertMany n.entries

@[simp] theorem get?_insert (m : OrderedMap α β) (k k' : α) (v : β) :
    (m.insert k v).get? k' = if k = k' then some v else m.get? k' :=
  lookupIn_writeIn k k' v m.entries

theorem keys_insert (m : OrderedMap α β) (k : α) (v : β) :
    (m.insert k v).keys = if k ∈ m.keys then m.keys else m.keys ++ [k] :=
  keys_writeIn k v m.entries

theorem lookupIn_eq_none_iff (k : α) (es : List (α × β)) :
    lookupIn k es = none ↔ k ∉ es.map Prod.fst := by
  induction es with
  | nil => simp [lookupIn]
  | cons e es ih =>
    obtain ⟨l, w⟩ := e
    by_cases h : l = k
    · simp [lookupIn, h]
    · simp only [lookupIn, h, if_false, ih, List.map_cons, List.mem_cons, not_or]
      exact ⟨fun hk => ⟨Ne.symm h, hk⟩, fun hk => hk.2⟩

theorem get?_eq_none_iff (m : OrderedMap α β) (k : α) : m.get? k = none ↔ k ∉ m.keys :=
  lookupIn_eq_none_iff k m.entries

theorem mem_entries_of_get? {m : OrderedMap α β} {k : α} {v : β} (h : m.get? k = some v) :
    (k, v) ∈ m.entries := by
  rw [get?] at h
  generalize m.entries = es at h
  induction es with
  | nil => cases h
  | cons e es ih =>
    rw [lookupIn] at h
    split at h
    · next same =>
      cases h
      exact same ▸ List.mem_cons_self ..
    · exact List.mem_cons_of_mem e (ih h)

theorem get?_eq_some_iff (m : OrderedMap α β) (k : α) (v : β) :
    m.get? k = some v ↔ (k, v) ∈ m.entries := by
  refine ⟨mem_entries_of_get?, fun mem => ?_⟩
  rw [get?]
  have nodup := m.nodup
  generalize m.entries = es at mem nodup
  induction es with
  | nil => cases mem
  | cons e es ih =>
    rw [List.map_cons, List.nodup_cons] at nodup
    rw [lookupIn]
    rcases List.mem_cons.1 mem with rfl | later
    · rw [if_pos rfl]
    · have other : e.1 ≠ k := fun same => nodup.1 (same ▸ List.mem_map_of_mem later)
      rw [if_neg other]
      exact ih later nodup.2

theorem get?_eq_of_perm {m n : OrderedMap α β} (h : m.entries.Perm n.entries) (k : α) :
    m.get? k = n.get? k := by
  apply Option.ext
  intro v
  rw [get?_eq_some_iff, get?_eq_some_iff, h.mem_iff]

@[simp] theorem contains_iff (m : OrderedMap α β) (k : α) : m.contains k = true ↔ k ∈ m.keys := by
  rw [contains, Option.isSome_iff_ne_none, ne_eq, get?_eq_none_iff, Decidable.not_not]

@[simp] theorem insertMany_nil (m : OrderedMap α β) : m.insertMany [] = m := rfl

@[simp] theorem insertMany_cons (m : OrderedMap α β) (e : α × β) (es : List (α × β)) :
    m.insertMany (e :: es) = (m.insert e.1 e.2).insertMany es := rfl

theorem mem_keys_insertMany {m : OrderedMap α β} {es : List (α × β)} {k : α}
    (h : k ∈ (m.insertMany es).keys) : k ∈ m.keys ∨ k ∈ es.map Prod.fst := by
  induction es generalizing m with
  | nil => exact .inl h
  | cons e es ih =>
    rw [insertMany_cons] at h
    rcases ih h with old | later
    · rw [keys_insert] at old
      split at old
      · exact .inl old
      · rcases List.mem_append.1 old with old | new
        · exact .inl old
        · exact .inr (List.mem_cons.2 (.inl (List.mem_singleton.1 new)))
    · exact .inr (List.mem_cons_of_mem _ later)

theorem mem_keys_ofList {es : List (α × β)} {k : α} (h : k ∈ (ofList es).keys) :
    k ∈ es.map Prod.fst := by
  rcases mem_keys_insertMany h with none | mem
  · cases none
  · exact mem

theorem mem_keys_insertMany_of_mem {m : OrderedMap α β} {es : List (α × β)} {k : α}
    (h : k ∈ m.keys ∨ k ∈ es.map Prod.fst) : k ∈ (m.insertMany es).keys := by
  induction es generalizing m with
  | nil => exact h.resolve_right List.not_mem_nil
  | cons e es ih =>
    rw [insertMany_cons]
    have written : k ∈ m.keys ∨ k = e.1 → k ∈ (m.insert e.1 e.2).keys := by
      rw [keys_insert]
      split
      · next present =>
        rintro (old | rfl)
        · exact old
        · exact present
      · rw [List.mem_append, List.mem_singleton]
        exact id
    rcases h with old | new
    · exact ih (.inl (written (.inl old)))
    · rcases List.mem_cons.1 new with first | later
      · exact ih (.inl (written (.inr first)))
      · exact ih (.inr later)

theorem mem_of_get?_insertMany {m : OrderedMap α β} {es : List (α × β)} {k : α} {v : β}
    (h : (m.insertMany es).get? k = some v) : m.get? k = some v ∨ (k, v) ∈ es := by
  induction es generalizing m with
  | nil => exact .inl h
  | cons e es ih =>
    rcases ih h with now | later
    · rw [get?_insert] at now
      split at now
      · next same =>
        cases now
        subst same
        exact .inr (List.mem_cons_self ..)
      · exact .inl now
    · exact .inr (List.mem_cons_of_mem _ later)

/-- What is found under a key was written under it, and under every key that was written. -/
theorem exists_get?_ofList {es : List (α × β)} {k : α} (h : k ∈ es.map Prod.fst) :
    ∃ v, (ofList es).get? k = some v ∧ (k, v) ∈ es := by
  have present : k ∈ (ofList es).keys := mem_keys_insertMany_of_mem (.inr h)
  cases found : (ofList es).get? k with
  | none => exact absurd present ((get?_eq_none_iff _ _).1 found)
  | some v =>
    rcases mem_of_get?_insertMany found with none | mem
    · cases none
    · exact ⟨v, rfl, mem⟩

theorem writeIn_of_not_mem {k : α} {v : β} {es : List (α × β)} (h : k ∉ es.map Prod.fst) :
    writeIn k v es = es ++ [(k, v)] := by
  induction es with
  | nil => rfl
  | cons e es ih =>
    rw [List.map_cons, List.mem_cons, not_or] at h
    rw [writeIn, if_neg (Ne.symm h.1), ih h.2, List.cons_append]

theorem entries_insertMany {m : OrderedMap α β} {es : List (α × β)}
    (h : ((m.entries ++ es).map Prod.fst).Nodup) :
    (m.insertMany es).entries = m.entries ++ es := by
  induction es generalizing m with
  | nil => simp
  | cons e es ih =>
    have new : e.1 ∉ m.entries.map Prod.fst := by
      rw [List.map_append, List.nodup_append] at h
      intro old
      exact h.2.2 _ old _ (List.mem_map_of_mem (List.mem_cons_self ..)) rfl
    have inserted : (m.insert e.1 e.2).entries = m.entries ++ [e] := writeIn_of_not_mem new
    have whole : (m.insert e.1 e.2).entries ++ es = m.entries ++ e :: es := by
      rw [inserted, List.append_assoc, List.singleton_append]
    rw [insertMany_cons, ih (by rwa [whole]), whole]

theorem entries_ofList {es : List (α × β)} (h : (es.map Prod.fst).Nodup) :
    (ofList es).entries = es := by
  apply entries_insertMany
  exact h

theorem mem_of_mem_ofList {es : List (α × β)} {e : α × β} (h : e ∈ (ofList es).entries) :
    e ∈ es := by
  rcases mem_of_get?_insertMany ((get?_eq_some_iff _ _ _).2 h) with none | mem
  · cases none
  · exact mem

@[simp] theorem ofList_entries (m : OrderedMap α β) : ofList m.entries = m := by
  apply ext
  exact entries_ofList m.nodup

theorem get?_insertMany {m : OrderedMap α β} {es : List (α × β)} (h : (es.map Prod.fst).Nodup)
    (k : α) : (m.insertMany es).get? k = (lookupIn k es).or (m.get? k) := by
  induction es generalizing m with
  | nil => rfl
  | cons e es ih =>
    rw [List.map_cons, List.nodup_cons] at h
    rw [insertMany_cons, ih h.2, get?_insert, lookupIn]
    by_cases same : e.1 = k
    · have once : lookupIn k es = none := (lookupIn_eq_none_iff k es).2 (same ▸ h.1)
      rw [if_pos same, if_pos same, once]
      rfl
    · rw [if_neg same, if_neg same]

theorem keys_insertMany {m : OrderedMap α β} {es : List (α × β)} (h : (es.map Prod.fst).Nodup) :
    (m.insertMany es).keys = m.keys ++ (es.map Prod.fst).filter (· ∉ m.keys) := by
  induction es generalizing m with
  | nil => simp
  | cons e es ih =>
    rw [List.map_cons, List.nodup_cons] at h
    rw [insertMany_cons, ih h.2, keys_insert, List.map_cons]
    by_cases present : e.1 ∈ m.keys
    · simp [present]
    · have others : (es.map Prod.fst).filter (· ∉ m.keys ++ [e.1]) =
          (es.map Prod.fst).filter (· ∉ m.keys) := by
        apply List.filter_congr
        intro k hk
        have other : k ≠ e.1 := fun same => h.1 (same ▸ hk)
        simp [other]
      rw [if_neg present, others]
      simp [present]

theorem get?_merge (m n : OrderedMap α β) (k : α) :
    (m.merge n).get? k = (n.get? k).or (m.get? k) :=
  get?_insertMany n.nodup k

/-- In a merge the keys of the first map come first, and then the keys that only the second has. -/
theorem keys_merge (m n : OrderedMap α β) :
    (m.merge n).keys = m.keys ++ n.keys.filter (· ∉ m.keys) :=
  keys_insertMany n.nodup

theorem eq_of_lookupIn_eq {es fs : List (α × β)} (nodup : (es.map Prod.fst).Nodup)
    (keys : es.map Prod.fst = fs.map Prod.fst) (h : ∀ k, lookupIn k es = lookupIn k fs) :
    es = fs := by
  induction es generalizing fs with
  | nil => exact (List.map_eq_nil_iff.1 keys.symm).symm
  | cons e es ih =>
    cases fs with
    | nil => cases keys
    | cons f fs =>
      rw [List.map_cons, List.map_cons, List.cons.injEq] at keys
      rw [List.map_cons, List.nodup_cons] at nodup
      have value : e.2 = f.2 := by simpa [lookupIn, keys.1] using h f.1
      have rest : es = fs := by
        apply ih nodup.2 keys.2
        intro k
        by_cases same : k = e.1
        · have absent : e.1 ∉ fs.map Prod.fst := keys.2 ▸ nodup.1
          rw [same, (lookupIn_eq_none_iff _ _).2 nodup.1, (lookupIn_eq_none_iff _ _).2 absent]
        · have found := h k
          rwa [lookupIn, lookupIn, if_neg (Ne.symm same), if_neg (keys.1 ▸ Ne.symm same)] at found
      rw [rest, Prod.ext keys.1 value]

/-- A map is determined by its keys in their order and by what is found under them. -/
theorem eq_of_keys_of_get? {m n : OrderedMap α β} (keys : m.keys = n.keys)
    (h : ∀ k, m.get? k = n.get? k) : m = n := by
  apply ext
  exact eq_of_lookupIn_eq m.nodup keys h

@[simp] theorem merge_empty (m : OrderedMap α β) : m.merge empty = m := rfl

theorem merge_assoc (m n o : OrderedMap α β) : (m.merge n).merge o = m.merge (n.merge o) := by
  apply eq_of_keys_of_get?
  · simp only [keys_merge, List.filter_append, List.append_assoc, List.filter_filter,
      List.mem_append, List.mem_filter]
    congr 2
    apply List.filter_congr
    intro k _
    by_cases inFirst : k ∈ m.keys <;> simp [inFirst]
  · intro k
    simp only [get?_merge, Option.or_assoc]

end OrderedMap

end SchemaDrift
