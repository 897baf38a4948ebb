import SchemaDrift.Proofs.Model.Typed

/-!
# Leaves of an attribute

An attribute stands for the leaves below it. Each leaf stands at a place: an address, which tells
the part to go to at each embedded attribute on the way down, and the embedded attributes met on
this way. An expansion lists the leaves in the order of their addresses, each with its own column
behind the prefixes of the attributes around it (`expand_lists_leaves`).
-/

namespace SchemaDrift.Attribute

open Document (Value)

/-- What holds of plain attributes, and of embedded ones if it holds of their parts. -/
theorem byParts {P : Attribute → Prop} (plain : ∀ f ps, P (.plain f ps))
    (embedded : ∀ f first rest, (∀ part ∈ first :: rest, P part) → P (.embedded f first rest))
    (a : Attribute) : P a :=
  one a
where
  one : (a : Attribute) → P a
    | .plain f ps => plain f ps
    | .embedded f first rest =>
      embedded f first rest (List.forall_mem_cons.2 ⟨one first, all rest⟩)
  all : (as : List Attribute) → ∀ part ∈ as, P part
    | [] => List.forall_mem_nil P
    | a :: as => List.forall_mem_cons.2 ⟨one a, all as⟩

/-- Where a leaf stands below an attribute. -/
structure Place where
  /-- The number of the part to go to, at each embedded attribute on the way down. -/
  address : List Nat
  /-- The embedded attributes on the way, from the outside in. -/
  around : List Field
  leaf : Attribute

/-- A place below the part with a number, seen from the embedded attribute. -/
def Place.under (f : Field) (i : Nat) (w : Place) : Place := ⟨i :: w.address, f :: w.around, w.leaf⟩

/-- The attribute has the leaf at the place; what a plain attribute states as parts is no leaf. -/
inductive HasLeaf : Attribute → Place → Prop
  | itself (f : Field) (ps : List Attribute) : HasLeaf (.plain f ps) ⟨[], [], .plain f ps⟩
  | ofPart {f : Field} {first part : Attribute} {rest : List Attribute} {i : Nat} {w : Place}
      (isPart : (first :: rest)[i]? = some part) (inside : HasLeaf part w) :
      HasLeaf (.embedded f first rest) (w.under f i)

mutual

/-- The places of the leaves, from left to right. -/
def places : Attribute → List Place
  | .plain f ps => [⟨[], [], .plain f ps⟩]
  | .embedded f first rest => (places first).map (Place.under f 0) ++ placesFrom f 1 rest

/-- The places below the parts of an embedded attribute from a number on. -/
def placesFrom (f : Field) (i : Nat) : List Attribute → List Place
  | [] => []
  | a :: rest => (places a).map (Place.under f i) ++ placesFrom f (i + 1) rest

end

@[simp] theorem places_plain (f : Field) (ps : List Attribute) :
    (plain f ps).places = [⟨[], [], .plain f ps⟩] := by
  simp [places]

@[simp] theorem places_embedded (f : Field) (first : Attribute) (rest : List Attribute) :
    (embedded f first rest).places = placesFrom f 0 (first :: rest) := by
  simp [places, placesFrom]

@[simp] theorem placesFrom_nil (f : Field) (i : Nat) : placesFrom f i [] = [] := by
  simp [placesFrom]

@[simp] theorem placesFrom_cons (f : Field) (i : Nat) (a : Attribute) (as : List Attribute) :
    placesFrom f i (a :: as) = a.places.map (Place.under f i) ++ placesFrom f (i + 1) as := by
  simp [placesFrom]

theorem mem_placesFrom {f : Field} {i : Nat} {as : List Attribute} {w : Place} :
    w ∈ placesFrom f i as ↔
      ∃ j part, as[j]? = some part ∧ ∃ inner ∈ places part, w = inner.under f (i + j) := by
  induction as generalizing i with
  | nil => simp
  | cons a as ih =>
    rw [placesFrom_cons, List.mem_append, List.mem_map, ih]
    constructor
    · rintro (⟨inner, hinner, rfl⟩ | ⟨j, part, hpart, inner, hinner, rfl⟩)
      · exact ⟨0, a, rfl, inner, hinner, rfl⟩
      · have number : i + 1 + j = i + (j + 1) := by omega
        exact ⟨j + 1, part, hpart, inner, hinner, by rw [number]⟩
    · rintro ⟨j, part, hpart, inner, hinner, rfl⟩
      cases j with
      | zero =>
        obtain rfl : a = part := by simpa using hpart
        exact .inl ⟨inner, hinner, rfl⟩
      | succ j =>
        have number : i + 1 + j = i + (j + 1) := by omega
        exact .inr ⟨j, part, hpart, inner, hinner, by rw [number]⟩

theorem mem_places_iff (a : Attribute) (w : Place) : w ∈ a.places ↔ a.HasLeaf w := by
  induction a using byParts generalizing w with
  | plain f ps =>
    rw [places_plain, List.mem_singleton]
    constructor
    · rintro rfl
      exact .itself f ps
    · intro h
      cases h
      rfl
  | embedded f first rest ih =>
    rw [places_embedded, mem_placesFrom]
    constructor
    · rintro ⟨j, part, hpart, inner, hinner, rfl⟩
      have inside := (ih part (List.mem_of_getElem? hpart) inner).1 hinner
      rw [Nat.zero_add]
      exact .ofPart hpart inside
    · intro h
      cases h with
      | @ofPart _ _ part _ i inner hpart inside =>
        have hinner := (ih part (List.mem_of_getElem? hpart) inner).2 inside
        exact ⟨i, part, hpart, inner, hinner, by rw [Nat.zero_add]⟩

theorem places_ne_nil (a : Attribute) : a.places ≠ [] := by
  induction a using byParts with
  | plain f ps => simp
  | embedded f first rest ih =>
    have some : first.places ≠ [] := ih first (List.mem_cons_self ..)
    simp [some]

theorem number_le_of_mem_placesFrom {f : Field} {i : Nat} {as : List Attribute} {w : Place}
    (h : w ∈ placesFrom f i as) : ∃ n rest, w.address = n :: rest ∧ i ≤ n := by
  obtain ⟨j, part, -, inner, -, rfl⟩ := mem_placesFrom.1 h
  exact ⟨i + j, inner.address, rfl, by omega⟩

/-- The addresses of the places ascend: a part comes with all its leaves before the next one. -/
theorem ascending_places (a : Attribute) : (a.places.map Place.address).Pairwise (· < ·) := by
  induction a using byParts with
  | plain f ps => simp
  | embedded f first rest ih =>
    rw [places_embedded]
    generalize first :: rest = parts at ih
    generalize 0 = i
    induction parts generalizing i with
    | nil => simp
    | cons part parts later =>
      rw [placesFrom_cons, List.map_append, List.pairwise_append]
      refine ⟨?_, later (fun p hp => ih p (List.mem_cons_of_mem part hp)) (i + 1), ?_⟩
      · have inside := ih part (List.mem_cons_self ..)
        simp only [List.map_map, List.pairwise_map] at inside ⊢
        apply inside.imp
        intro w w' before
        exact List.cons_lt_cons_iff.2 (.inr ⟨rfl, before⟩)
      · intro address haddress address' haddress'
        simp only [List.map_map, List.mem_map] at haddress haddress'
        obtain ⟨w, -, rfl⟩ := haddress
        obtain ⟨w', hw', rfl⟩ := haddress'
        obtain ⟨n, tail, whole, above⟩ := number_le_of_mem_placesFrom hw'
        rw [whole]
        exact List.cons_lt_cons_iff.2 (.inl (by omega))

/-- What the columns of an attribute's parts begin with. -/
def front (f : Field) : Value := f.columnPrefix.statedOr ""

/-- What the columns of the parts begin with, behind a prefix and from the outside in. -/
def behind (pre : Except Fault Value) (around : List Field) : Except Fault Value :=
  around.foldl (fun inner f => joined inner (front f)) pre

/-- Below an attribute each leaf has its column behind what is around it. -/
theorem expand_eq_places (a : Attribute) (pre : Except Fault Value) :
    a.expand pre =
      a.places.map fun w => (w.leaf, do joined (behind pre w.around) (← w.leaf.columnName)) := by
  induction a using byParts generalizing pre with
  | plain f ps =>
    rw [expand_plain, places_plain]
    rfl
  | embedded f first rest ih =>
    rw [expand_embedded, places_embedded]
    generalize first :: rest = parts at ih
    generalize 0 = i
    induction parts generalizing i with
    | nil => simp
    | cons part parts later =>
      have inside := ih part (List.mem_cons_self ..) (joined pre (f.columnPrefix.statedOr ""))
      have others := later (fun p hp => ih p (List.mem_cons_of_mem part hp)) (i + 1)
      rw [expandAll_cons, placesFrom_cons, List.map_append, List.map_map, inside, others]
      rfl

theorem expand_ne_nil (a : Attribute) (pre : Except Fault Value) : a.expand pre ≠ [] := by
  rw [expand_eq_places]
  simpa using a.places_ne_nil

theorem behind_error (fault : Fault) (around : List Field) :
    behind (.error fault) around = .error fault := by
  induction around with
  | nil => rfl
  | cons f around ih => exact ih

theorem joined_of_asText?_eq_none {v : Value} (h : v.asText? = none) (p : String) :
    joined (.ok (.text p)) v = .error .wrongShape := by
  cases v <;> first | rfl | cases h

/-- The prefixes of the attributes around a place, if all of them are texts. -/
def Place.fronts? (w : Place) : Option (List String) := w.around.mapM fun f => (front f).asText?

theorem behind_text (p : String) (around : List Field) :
    behind (.ok (.text p)) around =
      match around.mapM fun f => (front f).asText? with
      | some fronts => .ok (.text (p ++ String.join fronts))
      | none => .error .wrongShape := by
  induction around generalizing p with
  | nil => simp [behind]
  | cons f around ih =>
    show behind (joined (.ok (.text p)) (front f)) around = _
    rw [List.mapM_cons]
    cases text : front f with
    | text s =>
      rw [joined_text, ih]
      cases around.mapM fun f => (front f).asText? with
      | none => rfl
      | some fronts => simp [Value.asText?, String.join_cons, String.append_assoc]
    | null | bool _ | int _ | real _ | moment _ | bytes _ | list _ | map _ =>
      rw [joined_of_asText?_eq_none rfl, behind_error]
      rfl

/--
The column of the leaf at a place behind a text: the prefixes around it follow, from the outside in,
and then its own column. All of them have to be texts.
-/
def Place.column (p : String) (w : Place) : Except Fault Value := do
  let own ← w.leaf.columnName
  match w.fronts?, own with
  | some fronts, .text own => return .text (p ++ String.join fronts ++ own)
  | _, _ => throw .wrongShape

theorem expand_text (a : Attribute) (p : String) :
    a.expand (.ok (.text p)) = a.places.map fun w => (w.leaf, w.column p) := by
  rw [expand_eq_places]
  apply List.map_congr_left
  intro w _
  rw [Prod.mk.injEq]
  refine ⟨rfl, ?_⟩
  rw [behind_text, Place.column, Place.fronts?]
  cases w.leaf.columnName with
  | error fault => rfl
  | ok own =>
    rw [ok_bind, ok_bind]
    cases w.around.mapM fun f => (front f).asText? with
    | none => rfl
    | some fronts =>
      cases own with
      | text own => rfl
      | null | bool _ | int _ | real _ | moment _ | bytes _ | list _ | map _ =>
        exact joined_of_asText?_eq_none rfl _

theorem Place.column_append (w : Place) (p q : String) :
    w.column (p ++ q) = (do joined (.ok (.text p)) (← w.column q)) := by
  rw [column, column]
  cases w.leaf.columnName with
  | error fault => rfl
  | ok own =>
    rw [ok_bind, ok_bind]
    cases w.fronts? with
    | none => rfl
    | some fronts =>
      cases own with
      | text own =>
        show Except.ok (Value.text (p ++ q ++ String.join fronts ++ own)) =
          .ok (.text (p ++ (q ++ String.join fronts ++ own)))
        simp only [String.append_assoc]
      | null | bool _ | int _ | real _ | moment _ | bytes _ | list _ | map _ => rfl

theorem HasLeaf.exists_texts {a : Attribute} {w : Place} (h : a.HasLeaf w) (typed : a.IsTyped) :
    ∃ fronts own, w.fronts? = some fronts ∧ w.leaf.columnName = .ok (.text own) := by
  induction h with
  | itself f ps =>
    obtain ⟨own, hown⟩ := typed.field.exists_columnName
    exact ⟨[], own, rfl, hown⟩
  | @ofPart f first part rest i w isPart inside ih =>
    obtain ⟨s, hs⟩ : (front f).IsText := typed.field.columnPrefix.isText_statedOr ""
    have typedPart : part.IsTyped := by
      cases typed with
      | embedded field head tail =>
        exact List.forall_mem_cons.2 ⟨head, tail⟩ part (List.mem_of_getElem? isPart)
    obtain ⟨fronts, own, hfronts, hown⟩ := ih typedPart
    refine ⟨s :: fronts, own, ?_, hown⟩
    rw [Place.fronts?] at hfronts
    rw [Place.fronts?, Place.under, List.mapM_cons, hs, hfronts]
    rfl

/--
An expansion lists the leaves below an attribute, at least one, in the order of their addresses.
Each has its own column behind the prefixes of the attributes around it, from the outside in, and
behind the prefix of the whole; what is put in front of this prefix is put in front of each column.
-/
theorem expand_lists_leaves (a : Attribute) :
    (a.places.map Place.address).Pairwise (· < ·) ∧ (∀ w, w ∈ a.places ↔ a.HasLeaf w) ∧
      a.places ≠ [] ∧
      (∀ p : String, a.expand (.ok (.text p)) = a.places.map fun w => (w.leaf, w.column p)) ∧
      (a.IsTyped → ∀ w ∈ a.places, ∃ fronts own, w.fronts? = some fronts ∧
        w.leaf.columnName = .ok (.text own) ∧
        ∀ p, w.column p = .ok (.text (p ++ String.join fronts ++ own))) ∧
      ∀ p q : String, a.expand (.ok (.text (p ++ q))) =
        (a.expand (.ok (.text q))).map fun leaf =>
          (leaf.1, do joined (.ok (.text p)) (← leaf.2)) := by
  refine ⟨a.ascending_places, a.mem_places_iff, a.places_ne_nil, a.expand_text, ?_, ?_⟩
  · intro typed w hw
    obtain ⟨fronts, own, hfronts, hown⟩ := ((a.mem_places_iff w).1 hw).exists_texts typed
    refine ⟨fronts, own, hfronts, hown, fun p => ?_⟩
    rw [Place.column, hfronts, hown]
    rfl
  · intro p q
    rw [expand_text, expand_text, List.map_map]
    apply List.map_congr_left
    intro w _
    rw [w.column_append]
    rfl

/-- A home with the coordinates of its door, whose columns begin as those of the home do. -/
def home : Attribute :=
  .embedded { name := "home", type := ⟨"Home", "Home"⟩, columnPrefix := "HOME_" }
    (.plain { name := "street", type := ⟨"java.lang.String", "String"⟩ } [])
    [.embedded { name := "door", type := ⟨"Point", "Point"⟩ }
      (.plain { name := "lat", type := ⟨"java.lang.Double", "Double"⟩, column := "DOOR_LAT" } [])
      [.plain { name := "lon", type := ⟨"java.lang.Double", "Double"⟩ } []]]

theorem home_isTyped : home.IsTyped := by
  have lat : (plain { name := "lat", type := ⟨"java.lang.Double", "Double"⟩, column := "DOOR_LAT" }
      []).IsTyped := .plain (by decide)
  have lon : (plain { name := "lon", type := ⟨"java.lang.Double", "Double"⟩ } []).IsTyped :=
    .plain (by decide)
  refine .embedded (by decide) (.plain (by decide)) ?_
  intro a ha
  rw [List.mem_singleton.1 ha]
  refine .embedded (by decide) lat ?_
  intro a ha
  rw [List.mem_singleton.1 ha]
  exact lon

/-- The places of a home's leaves, and its columns where they were kept before. -/
theorem expand_lists_leaves_home :
    home.IsTyped ∧ home.places.map Place.address = [[0], [1, 0], [1, 1]] ∧
      (home.expand (.ok (.text "OLD_"))).map (·.2) =
        [.ok "OLD_HOME_STREET", .ok "OLD_HOME_DOOR_LAT", .ok "OLD_HOME_LON"] ∧
      ∀ w ∈ home.places, ∃ fronts own, w.fronts? = some fronts ∧
        w.leaf.columnName = .ok (.text own) ∧
        ∀ p, w.column p = .ok (.text (p ++ String.join fronts ++ own)) := by
  obtain ⟨-, -, -, -, columns, -⟩ := expand_lists_leaves home
  exact ⟨home_isTyped, by simp [home, Place.under], rfl, columns home_isTyped⟩

end SchemaDrift.Attribute
