import Mathlib.Data.List.Pairwise
import SchemaDrift.Proofs.Identifier.Token
import SchemaDrift.Proofs.Model.Typed

/-!
# The deletion stamp of an index

Over soft deletion a unique index takes the deletion stamp to its columns, unless that is one of
them. The stamp is looked for as it stands bare among the names as they are written, where a name in
quotes stays in them. `createIndex_stamps_once_iff` says when the index has the stamp exactly once.
-/

namespace SchemaDrift

open Document (Value)

section Once

variable {α : Type} {P : α → Prop} {l : List α}

/-- No two places of the list have the property. -/
def AtMostOnce (P : α → Prop) (l : List α) : Prop := l.Pairwise fun a a' => ¬(P a ∧ P a')

/-- One place of the list has the property, and no other. -/
def Once (P : α → Prop) (l : List α) : Prop := AtMostOnce P l ∧ ∃ a ∈ l, P a

theorem AtMostOnce.eq (h : AtMostOnce P l) {a a' : α} (ha : a ∈ l) (ha' : a' ∈ l) (hP : P a)
    (hP' : P a') : a = a' := by
  by_contra differ
  have symmetric : Std.Symm fun a a' => ¬(P a ∧ P a') := ⟨fun a a' apart both => apart both.symm⟩
  have apart : ¬(P a ∧ P a') := List.Pairwise.forall h ha ha' differ
  exact apart ⟨hP, hP'⟩

theorem once_added_iff [DecidableEq α] {x : α} (own : P x) (h : AtMostOnce P l) :
    Once P (if x ∉ l then l ++ [x] else l) ↔ ∀ a ∈ l, P a → a = x := by
  by_cases listed : x ∈ l
  · have same : ∀ a ∈ l, P a → a = x := by
      intro a ha hP
      exact h.eq ha listed hP own
    rw [if_neg (not_not.2 listed)]
    exact iff_of_true ⟨h, x, listed, own⟩ same
  · rw [if_pos listed, Once, AtMostOnce, List.pairwise_append]
    constructor
    · intro once a ha hP
      have apart : ¬(P a ∧ P x) := once.1.2.2 a ha x (List.mem_singleton_self x)
      exact absurd ⟨hP, own⟩ apart
    · intro same
      have none : ∀ a ∈ l, ¬P a := by
        intro a ha hP
        rw [same a ha hP] at ha
        exact listed ha
      refine ⟨⟨h, List.pairwise_singleton _ x, ?_⟩, x, by simp, own⟩
      intro a ha a' _ both
      exact none a ha both.1

end Once

namespace Quoter

variable {q : Quoter} {o k : Char} {name text : String}

/-- The text is the name in any case, as it is or in quotes. -/
def Spells (q : Quoter) (name text : String) : Prop :=
  ∃ spelt, Text.upper spelt = name ∧ (text = spelt ∨ text = q.quote spelt)

theorem spells_self (h : Text.upper name = name) : q.Spells name name := ⟨name, h, .inl rfl⟩

namespace IsPunctuated

variable (hq : q.IsPunctuated o k)

include hq

theorem spells_iff_of_bare (h : q.isQuoted text = false) :
    q.Spells name text ↔ Text.upper text = name := by
  constructor
  · intro spells
    obtain ⟨spelt, same, rfl | rfl⟩ := spells
    · exact same
    · rw [hq.isQuoted_quote] at h
      cases h
  · intro same
    exact ⟨text, same, .inl rfl⟩

theorem spells_iff_of_isQuoted (bare : q.isQuoted name = false) (h : q.isQuoted text = true) :
    q.Spells name text ↔ ∃ spelt, Text.upper spelt = name ∧ text = q.quote spelt := by
  constructor
  · intro spells
    obtain ⟨spelt, same, rfl | quoted⟩ := spells
    · rw [← same, hq.isQuoted_upper, h] at bare
      cases bare
    · exact ⟨spelt, same, quoted⟩
  · intro quoted
    obtain ⟨spelt, same, quoted⟩ := quoted
    exact ⟨spelt, same, .inr quoted⟩

theorem spells_normalize_iff (bare : q.isQuoted name = false) (text : String) :
    q.Spells name (q.normalize text) ↔ q.Spells name text := by
  by_cases quoted : q.isQuoted text = true
  · rw [normalize_of_isQuoted quoted]
  · have plain : q.isQuoted text = false := Bool.eq_false_iff.2 quoted
    have upper : q.isQuoted (Text.upper text) = false := by rw [hq.isQuoted_upper, plain]
    rw [hq.spells_iff_of_bare plain, normalize_of_not_isQuoted plain, quoteIfNeeded]
    split
    · rw [hq.spells_iff_of_isQuoted bare (hq.isQuoted_quote _)]
      constructor
      · intro spells
        obtain ⟨spelt, same, quoted⟩ := spells
        rw [← same, ← hq.quote_injective quoted, Text.upper_upper]
      · intro same
        exact ⟨Text.upper text, by rw [Text.upper_upper, same], rfl⟩
    · rw [hq.spells_iff_of_bare upper, Text.upper_upper]

/-- A word is written bare exactly if it is neither stated in quotes nor reserved. -/
theorem normalize_eq_iff_of_spells (bare : q.isQuoted name = false)
    (word : isWordLine name.toList = true) (h : q.Spells name text) :
    q.normalize text = name ↔ q.isQuoted text = false ∧ q.isReserved name = false := by
  cases quoted : q.isQuoted text with
  | true =>
    have differ : text ≠ name := by
      rintro rfl
      rw [quoted] at bare
      cases bare
    rw [normalize_of_isQuoted quoted]
    exact iff_of_false differ nofun
  | false =>
    have same : Text.upper text = name := (hq.spells_iff_of_bare quoted).1 h
    have safe : q.needsQuoting name = q.isReserved name := by
      simp [needsQuoting, isSafe, bare, word]
    have written := hq.normalize_eq_upper_iff quoted
    rw [same, safe] at written
    rw [written]
    exact (and_iff_right rfl).symm

end IsPunctuated

end Quoter

namespace Composer

variable {b : Composer} {e : Entity} {table index : String} {names : List String}

theorem createIndex_text (quoteOpen : b.catalog.quoteOpen.IsText)
    (quoteClose : b.catalog.quoteClose.IsText) (named : e.table = .text table) (unique : Bool) :
    b.createIndex e (.text index) (names.map .text) unique =
      .ok (b.issue (.createIndex unique (b.catalog.quoter.identifier index)
        (b.catalog.quoter.identifier table)
        (b.indexColumns e (names.map b.catalog.quoter.identifier) unique))) := by
  have identified (name : String) :
      b.identify (.text name) = .ok (b.catalog.quoter.identifier name) :=
    Catalog.identify_of_marks quoteOpen quoteClose name
  have listed : (names.map Value.text).mapM b.identify =
      .ok (names.map b.catalog.quoter.identifier) := by
    rw [mapM_eq_ok, List.forall₂_map_left_iff, List.forall₂_map_right_iff, List.forall₂_same]
    intro name _
    exact identified name
  rw [createIndex, listed, ok_bind, identified, ok_bind, named, identified]
  rfl

/-- The identifier is the column of the deletion stamp. -/
def IsStamp (b : Composer) (column : Identifier) : Prop :=
  b.catalog.quoter.Spells deletionStamp.text column.text

theorem isStamp_deletionStamp : b.IsStamp deletionStamp :=
  Quoter.spells_self (by decide +kernel)

theorem isQuoted_deletionStamp {q : Quoter} {o k : Char} (hq : q.IsPunctuated o k) :
    q.isQuoted deletionStamp.text = false := by
  apply Bool.eq_false_iff.2
  intro quoted
  obtain ⟨body, whole⟩ := hq.isQuoted_iff.1 quoted
  have first : 'D' = o := (List.cons.inj whole).1
  have mark := hq.punctuation_opening
  rw [← first] at mark
  exact absurd mark (by decide)

/-- The columns of a unique index over soft deletion have the stamp once if it is written bare. -/
theorem once_indexColumns_iff (soft : e.softDelete = true)
    (stamping : b.config.deleteStampInUniqueIndex = true)
    (once : AtMostOnce b.IsStamp (names.map b.catalog.quoter.identifier)) :
    Once b.IsStamp (b.indexColumns e (names.map b.catalog.quoter.identifier) true) ↔
      ∀ name ∈ names, b.IsStamp (b.catalog.quoter.identifier name) →
        b.catalog.quoter.normalize name = deletionStamp.text := by
  have columns : b.indexColumns e (names.map b.catalog.quoter.identifier) true =
      if deletionStamp ∉ names.map b.catalog.quoter.identifier then
        names.map b.catalog.quoter.identifier ++ [deletionStamp]
      else names.map b.catalog.quoter.identifier := by
    simp [indexColumns, soft, stamping]
  rw [columns, once_added_iff isStamp_deletionStamp once, List.forall_mem_map]
  simp only [Quoter.identifier, deletionStamp, Identifier.mk.injEq]

/--
If the deletion stamp is written for at most one of the columns listed, a unique index over soft
deletion has it exactly once if and only if it is written bare there. With punctuation for quotes,
it is written for the columns that spell it, and bare for those that are not stated in quotes, where
its name is not reserved.
-/
theorem createIndex_stamps_once_iff (quoteOpen : b.catalog.quoteOpen.IsText)
    (quoteClose : b.catalog.quoteClose.IsText) (named : e.table = .text table)
    (soft : e.softDelete = true) (stamping : b.config.deleteStampInUniqueIndex = true)
    (index : String) (names : List String) :
    ∃ columns, b.createIndex e (.text index) (names.map .text) true =
        .ok (b.issue (.createIndex true (b.catalog.quoter.identifier index)
          (b.catalog.quoter.identifier table) columns)) ∧
      (AtMostOnce b.IsStamp (names.map b.catalog.quoter.identifier) →
        (Once b.IsStamp columns ↔ ∀ name ∈ names, b.IsStamp (b.catalog.quoter.identifier name) →
          b.catalog.quoter.normalize name = deletionStamp.text)) ∧
      ∀ o k, b.catalog.quoter.IsPunctuated o k →
        AtMostOnce (b.catalog.quoter.Spells deletionStamp.text) names →
        (Once b.IsStamp columns ↔ ∀ name ∈ names,
          b.catalog.quoter.Spells deletionStamp.text name →
            b.catalog.quoter.isQuoted name = false ∧
              b.catalog.quoter.isReserved deletionStamp.text = false) := by
  refine ⟨_, createIndex_text quoteOpen quoteClose named true,
    once_indexColumns_iff soft stamping, ?_⟩
  intro o k hq once
  have bare := isQuoted_deletionStamp hq
  have word : isWordLine deletionStamp.text.toList = true := by decide
  have spelt (name : String) : b.IsStamp (b.catalog.quoter.identifier name) ↔
      b.catalog.quoter.Spells deletionStamp.text name := hq.spells_normalize_iff bare name
  have written : AtMostOnce b.IsStamp (names.map b.catalog.quoter.identifier) := by
    apply List.pairwise_map.2
    simp only [spelt]
    exact once
  rw [once_indexColumns_iff soft stamping written]
  refine forall₂_congr fun name _ => ?_
  rw [spelt]
  exact forall_congr' fun spells => hq.normalize_eq_iff_of_spells bare word spells

/-- A ticket whose code is free again once it was deleted. -/
def ticket : Entity where
  name := "Ticket"
  table := "TICKET"
  softDelete := true

theorem access_isPunctuated : Catalog.access.quoter.IsPunctuated '[' ']' :=
  ⟨rfl, rfl, by decide, by decide⟩

theorem not_spells_code : ¬Catalog.access.quoter.Spells deletionStamp.text "code" := by
  rw [access_isPunctuated.spells_iff_of_bare (by decide +kernel)]
  decide +kernel

theorem atMostOnce_code (text : String) :
    AtMostOnce (Catalog.access.quoter.Spells deletionStamp.text) ["code", text] := by
  simp [AtMostOnce, not_spells_code]

/-- The statement of a unique index of the ticket's code and another column. -/
def ticketIndex (columns : List Identifier) : Statement :=
  (ofConfig .access default).issue (.createIndex true ⟨"UK_CODE"⟩ ⟨"TICKET"⟩ columns)

theorem createIndex_stamps_once_ticket :
    (ofConfig .access default).createIndex ticket "uk_code" ["code", "delete_ts"] true =
        .ok (ticketIndex [⟨"CODE"⟩, deletionStamp]) ∧
      (ticketIndex [⟨"CODE"⟩, deletionStamp]).text =
        "create unique index UK_CODE on TICKET (CODE, DELETE_TS) ^" ∧
      Once (ofConfig .access default).IsStamp [⟨"CODE"⟩, deletionStamp] := by
  have whole : (ofConfig .access default).createIndex ticket "uk_code" ["code", "delete_ts"] true =
      .ok (ticketIndex [⟨"CODE"⟩, deletionStamp]) := rfl
  refine ⟨whole, by decide +kernel, ?_⟩
  obtain ⟨columns, created, -, once⟩ := createIndex_stamps_once_iff
    (b := ofConfig .access default) (e := ticket)
    (by decide) (by decide) rfl rfl rfl "uk_code" ["code", "delete_ts"]
  cases created.symm.trans whole
  apply (once '[' ']' access_isPunctuated (atMostOnce_code "delete_ts")).2
  intro name hname spells
  rcases List.mem_cons.1 hname with rfl | hname
  · exact absurd spells not_spells_code
  · rw [List.mem_singleton.1 hname]
    decide +kernel

/-- The stamp stated in quotes is not taken for the stamp, and is added once more. -/
theorem createIndex_stamps_twice :
    AtMostOnce (Catalog.access.quoter.Spells deletionStamp.text) ["code", "[DELETE_TS]"] ∧
      (ticketIndex [⟨"CODE"⟩, ⟨"[DELETE_TS]"⟩, deletionStamp]).text =
        "create unique index UK_CODE on TICKET (CODE, [DELETE_TS], DELETE_TS) ^" ∧
      (ofConfig .access default).createIndex ticket "uk_code" ["code", "[DELETE_TS]"] true =
        .ok (ticketIndex [⟨"CODE"⟩, ⟨"[DELETE_TS]"⟩, deletionStamp]) ∧
      ¬Once (ofConfig .access default).IsStamp [⟨"CODE"⟩, ⟨"[DELETE_TS]"⟩, deletionStamp] := by
  refine ⟨atMostOnce_code _, by decide +kernel, rfl, ?_⟩
  intro once
  have quoted : (ofConfig .access default).IsStamp ⟨"[DELETE_TS]"⟩ :=
    ⟨"DELETE_TS", by decide +kernel, .inr (by decide +kernel)⟩
  have same : (⟨"[DELETE_TS]"⟩ : Identifier) = deletionStamp :=
    once.1.eq (by simp) (by simp) quoted isStamp_deletionStamp
  exact absurd same (by decide)

end Composer

end SchemaDrift
