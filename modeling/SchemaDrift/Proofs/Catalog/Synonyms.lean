import Mathlib.Data.List.Pairwise
import SchemaDrift.Catalog.Builtin
import SchemaDrift.Catalog.Compatibility
import SchemaDrift.Proofs.Catalog.Construction

/-!
# Synonym classes

In a catalogue no type is in two classes. So the synonyms of a type are the members of the one class
that has it, and to count as the same type is an equivalence, although a class is looked up for the
first of two types and then asked for the second.
-/

namespace SchemaDrift.Catalog

variable {c : Catalog}

theorem pairwise_disjoint (c : Catalog) : c.synonymClasses.Pairwise List.Disjoint :=
  (List.nodup_flatten.1 c.disjoint).2

theorem eq_of_mem_of_mem {members others : List String} {type : String}
    (hm : members ∈ c.synonymClasses) (ho : others ∈ c.synonymClasses)
    (inMembers : type ∈ members) (inOthers : type ∈ others) : members = others := by
  have symmetric : Std.Symm (List.Disjoint : List String → List String → Prop) :=
    ⟨fun _ _ => List.disjoint_symm⟩
  by_contra different
  have apart := c.pairwise_disjoint.forall hm ho different
  exact apart inMembers inOthers

theorem classWith?_eq_some_iff {member : String} {members : List String} :
    c.classWith? member = some members ↔ members ∈ c.synonymClasses ∧ member ∈ members := by
  rw [classWith?]
  constructor
  · intro h
    have inMembers : member ∈ members := by simpa using List.find?_some h
    exact ⟨List.mem_of_find?_eq_some h, inMembers⟩
  · rintro ⟨hm, inMembers⟩
    have present : (c.synonymClasses.find? (·.contains member)).isSome = true :=
      List.find?_isSome.2 ⟨members, hm, List.contains_iff_mem.2 inMembers⟩
    obtain ⟨found, hfound⟩ := Option.isSome_iff_exists.1 present
    have inFound : member ∈ found := by simpa using List.find?_some hfound
    have same := eq_of_mem_of_mem (List.mem_of_find?_eq_some hfound) hm inFound inMembers
    rw [hfound, same]

theorem synonyms_eq_of_mem {members : List String} {type : String} (hm : members ∈ c.synonymClasses)
    (inMembers : Text.lower type ∈ members) : c.synonyms type = members := by
  rw [synonyms, synonymClass?, classWith?_eq_some_iff.2 ⟨hm, inMembers⟩]
  rfl

theorem synonyms_eq_nil {type : String}
    (h : ∀ members ∈ c.synonymClasses, Text.lower type ∉ members) : c.synonyms type = [] := by
  have none : c.classWith? (Text.lower type) = none := by
    rw [Option.eq_none_iff_forall_ne_some]
    intro members found
    obtain ⟨hm, inMembers⟩ := classWith?_eq_some_iff.1 found
    exact h members hm inMembers
  rw [synonyms, synonymClass?, none]
  rfl

theorem mem_synonyms_iff {type other : String} :
    other ∈ c.synonyms type ↔
      ∃ members ∈ c.synonymClasses, Text.lower type ∈ members ∧ other ∈ members := by
  constructor
  · intro h
    by_cases some : ∃ members ∈ c.synonymClasses, Text.lower type ∈ members
    · obtain ⟨members, hm, inMembers⟩ := some
      rw [synonyms_eq_of_mem hm inMembers] at h
      exact ⟨members, hm, inMembers, h⟩
    · rw [synonyms_eq_nil fun members hm inMembers => some ⟨members, hm, inMembers⟩] at h
      cases h
  · rintro ⟨members, hm, inMembers, inOther⟩
    rwa [synonyms_eq_of_mem hm inMembers]

/-- The synonyms of a type are the members of the one class that has it in lower case, if any. -/
structure IndexesSynonyms (c : Catalog) : Prop where
  apart : c.synonymClasses.Pairwise List.Disjoint
  distinct : ∀ members ∈ c.synonymClasses, members.Nodup
  unique : ∀ type members, members ∈ c.synonymClasses → Text.lower type ∈ members →
    (∀ others ∈ c.synonymClasses, Text.lower type ∈ others → others = members) ∧
      c.synonyms type = members
  absent : ∀ type, (∀ members ∈ c.synonymClasses, Text.lower type ∉ members) → c.synonyms type = []

theorem indexesSynonyms (c : Catalog) : c.IndexesSynonyms where
  apart := c.pairwise_disjoint
  distinct := (List.nodup_flatten.1 c.disjoint).1
  unique := by
    intro type members hm inMembers
    refine ⟨?_, synonyms_eq_of_mem hm inMembers⟩
    intro others ho inOthers
    exact eq_of_mem_of_mem ho hm inOthers inMembers
  absent := fun _ h => synonyms_eq_nil h

/--
A declaration whose temporal categories are known is accepted just if no member of its synonym
classes is repeated, else the first that repeats an earlier one is named; and every catalogue finds
the synonyms of a type in the one class that has it.
-/
theorem ofDeclaration_isOk_iff_nodup (d : Declaration) (known : d.unknownCategories = []) :
    ((∃ c, ofDeclaration d = .ok c) ↔ (d.synonymClasses.flatten.map Text.lower).Nodup) ∧
      (¬(d.synonymClasses.flatten.map Text.lower).Nodup →
        ∃ earlier member later fault,
          d.synonymClasses.flatten.map Text.lower = earlier ++ member :: later ∧
          earlier.Nodup ∧ member ∈ earlier ∧ ofDeclaration d = .error fault ∧
          fault = .sharedSynonym d.name member ∧ fault.kind = .configuration ∧
          fault.settingKey = "synonym_classes") ∧
      (∀ c, ofDeclaration d = .ok c →
        c.synonymClasses = d.synonymClasses.map (·.map Text.lower)) ∧
      ∀ c : Catalog, c.IndexesSynonyms := by
  refine ⟨exists_ofDeclaration_iff known, ?_, ?_, indexesSynonyms⟩
  · intro repeated
    obtain ⟨earlier, member, later, split, nodup, old, refused⟩ :=
      ofDeclaration_of_not_nodup known repeated
    exact ⟨earlier, member, later, _, split, nodup, old, refused, rfl, rfl, rfl⟩
  · intro c hc
    exact (ofDeclaration_eq_ok_iff.1 hc).2.synonymClasses

/-- A dialect in which two classes have one type, written in two ways. -/
def sharing : Declaration where
  name := "sharing"
  types := .ofEntries [("String", "varchar")]
  temporalTypes := .ofList [("timestamp", "datetime")]
  synonymClasses := [["varchar", "Text"], ["datetime"], ["TEXT", "memo"]]

theorem ofDeclaration_isOk_iff_nodup_sharing :
    sharing.unknownCategories = [] ∧ ¬(sharing.synonymClasses.flatten.map Text.lower).Nodup ∧
      ∃ earlier member later fault,
        sharing.synonymClasses.flatten.map Text.lower = earlier ++ member :: later ∧
        earlier.Nodup ∧ member ∈ earlier ∧ ofDeclaration sharing = .error fault ∧
        fault = .sharedSynonym sharing.name member ∧ fault.kind = .configuration ∧
        fault.settingKey = "synonym_classes" := by
  have known : sharing.unknownCategories = [] := by decide +kernel
  have repeated : ¬(sharing.synonymClasses.flatten.map Text.lower).Nodup := by decide +kernel
  exact ⟨known, repeated, (ofDeclaration_isOk_iff_nodup sharing known).2.1 repeated⟩

/-- The names, in lower case, are one name or stand in one class. -/
def Synonymous (c : Catalog) (name other : String) : Prop :=
  name = other ∨ ∃ members ∈ c.synonymClasses, name ∈ members ∧ other ∈ members

theorem synonymous_equivalence (c : Catalog) : Equivalence c.Synonymous where
  refl _ := .inl rfl
  symm := by
    rintro name other (same | ⟨members, hm, inName, inOther⟩)
    · exact .inl same.symm
    · exact .inr ⟨members, hm, inOther, inName⟩
  trans := by
    rintro first second third (rfl | ⟨members, hm, inFirst, inSecond⟩) later
    · exact later
    · rcases later with rfl | ⟨others, ho, inSecond', inThird⟩
      · exact .inr ⟨members, hm, inFirst, inSecond⟩
      · have same := eq_of_mem_of_mem ho hm inSecond' inSecond
        exact .inr ⟨members, hm, inFirst, same ▸ inThird⟩

theorem typesEquivalent_iff {type other : String} : c.typesEquivalent type other = true ↔
    c.Synonymous (Text.lower (Text.strip type)) (Text.lower (Text.strip other)) := by
  rw [typesEquivalent, Bool.or_eq_true, beq_iff_eq, List.contains_iff_mem, mem_synonyms_iff,
    Synonymous]

/--
To count as the same type is an equivalence that sees of a type its name in lower case without the
blanks at its ends: it is one name, or one class of synonyms.
-/
theorem typesEquivalent_equivalence (c : Catalog) :
    Equivalence (fun type other => c.typesEquivalent type other = true) ∧
      (∀ type type' other other', Text.lower (Text.strip type) = Text.lower (Text.strip type') →
        Text.lower (Text.strip other) = Text.lower (Text.strip other') →
        c.typesEquivalent type other = c.typesEquivalent type' other') ∧
      ∀ type other, c.typesEquivalent type other = true ↔
        c.Synonymous (Text.lower (Text.strip type)) (Text.lower (Text.strip other)) := by
  have names := c.synonymous_equivalence
  refine ⟨⟨?_, ?_, ?_⟩, ?_, fun _ _ => typesEquivalent_iff⟩
  · intro type
    exact c.typesEquivalent_self type
  · intro type other h
    rw [typesEquivalent_iff] at h ⊢
    exact names.symm h
  · intro first second third h h'
    rw [typesEquivalent_iff] at h h' ⊢
    exact names.trans h h'
  · intro type type' other other' same same'
    rw [Bool.eq_iff_iff, typesEquivalent_iff, typesEquivalent_iff, same, same']

/-- A text column without bounds, written with blanks and in two cases. -/
theorem typesEquivalent_equivalence_access :
    Text.lower (Text.strip "\tVARCHAR ") = Text.lower (Text.strip "varchar") ∧
      Text.lower (Text.strip "Text(MAX)") = Text.lower (Text.strip " text(max)\n") ∧
      access.typesEquivalent "\tVARCHAR " "Text(MAX)" =
        access.typesEquivalent "varchar" " text(max)\n" ∧
      access.typesEquivalent "varchar" " text(max)\n" = true := by
  have same : Text.lower (Text.strip "\tVARCHAR ") = Text.lower (Text.strip "varchar") := by
    decide +kernel
  have same' : Text.lower (Text.strip "Text(MAX)") = Text.lower (Text.strip " text(max)\n") := by
    decide +kernel
  have alike := (typesEquivalent_equivalence access).2.1 _ _ _ _ same same'
  exact ⟨same, same', alike, by decide +kernel⟩

end SchemaDrift.Catalog
