import MediaCatalog.Cache.Key
import MediaCatalog.Filter.Clause
import MediaCatalog.Proofs.Json.Printer
import MediaCatalog.Proofs.Sorting

set_option autoImplicit false

namespace MediaCatalog

namespace TagFilter

variable {tags others : List TagFilter}

instance : Std.TransCmp compareKeys :=
  inferInstanceAs (Std.TransCmp (compareLex (compareOn TagFilter.type) (compareOn TagFilter.value)))

instance : Std.TransCmp compareAll :=
  inferInstanceAs (Std.TransCmp (compareLex compareKeys (compareOn fun tag => tag.operator.rank)))

theorem compareKeys_eq {a b : TagFilter} : compareKeys a b = .eq ↔ a.key = b.key := by
  simp only [compareKeys, Ordering.then_eq_eq, Std.LawfulEqOrd.compare_eq_iff_eq, key,
    Prod.mk.injEq]

instance : Std.LawfulEqCmp compareAll where
  eq_of_compare {a b} same := by
    obtain ⟨keys, ranks⟩ := Ordering.then_eq_eq.1 same
    obtain ⟨types, values⟩ := Prod.mk.inj (compareKeys_eq.1 keys)
    have ranks : a.operator.rank = b.operator.rank := Std.LawfulEqOrd.eq_of_compare ranks
    have operators : a.operator = b.operator := by
      revert ranks
      cases a.operator <;> cases b.operator <;> simp [TagOperator.rank]
    cases a
    cases b
    rw [mk.injEq]
    exact ⟨types, values, operators⟩

theorem sorted_eq_iff : sorted tags = sorted others ↔ tags.Perm others :=
  ⟨perm_of_mergeSort_eq, mergeSort_eq_of_perm⟩

/-- The filters on each tag are the same, and in the same order. -/
def Aligned (tags others : List TagFilter) : Prop :=
  ∀ key : TagKey, tags.filter (·.key = key) = others.filter (·.key = key)

theorem tiedWith_compareKeys (filter : TagFilter) (tags : List TagFilter) :
    tiedWith compareKeys filter tags = tags.filter (·.key = filter.key) := by
  refine List.filter_congr fun other _ => ?_
  rw [Bool.eq_iff_iff, beq_iff_eq, compareKeys_eq, decide_eq_true_eq, eq_comm]

theorem sortedByKey_eq_iff : sortedByKey tags = sortedByKey others ↔ Aligned tags others := by
  rw [sortedByKey, sortedByKey, mergeSort_eq_iff_tiedWith]
  simp only [tiedWith_compareKeys]
  constructor
  next => exact fun same key => same ⟨key.1, key.2, .and⟩
  next => exact fun aligned filter => aligned filter.key

def Unmixed (tags : List TagFilter) : Prop :=
  ∀ a ∈ tags, ∀ b ∈ tags, a.key = b.key → a.operator = b.operator

theorem Unmixed.aligned (unmixed : Unmixed tags) (permuted : tags.Perm others) :
    Aligned tags others := by
  intro key
  have shared := permuted.filter (·.key = key)
  cases ofKey : tags.filter (·.key = key) with
  | nil =>
    rw [ofKey] at shared
    exact shared.nil_eq
  | cons first rest =>
    have known {tag : TagFilter} (listed : tag ∈ first :: rest) : tag ∈ tags ∧ tag.key = key := by
      rw [← ofKey] at listed
      simpa using listed
    obtain ⟨present, firstKey⟩ := known List.mem_cons_self
    -- Filters on one tag are copies of one another, and these have but one order.
    have copies : ∀ tag ∈ first :: rest, tag = first := by
      intro tag listed
      obtain ⟨there, tagKey⟩ := known listed
      have keys := tagKey.trans firstKey.symm
      have operators := unmixed tag there first present keys
      obtain ⟨types, values⟩ := Prod.mk.inj keys
      cases tag
      cases first
      rw [mk.injEq]
      exact ⟨types, values, operators⟩
    rw [ofKey, List.eq_replicate_of_mem copies] at shared
    rw [List.eq_replicate_of_mem copies]
    exact List.replicate_perm.1 shared

end TagFilter

namespace SlugLookup

open Json (delimited_list delimited_quoted)

variable {a b : SlugLookup}

theorem document_eq_iff :
    a.document = b.document ↔ Text.tidy a.system = Text.tidy b.system ∧
      Text.tidy a.slug = Text.tidy b.slug ∧ a.tags.Perm b.tags := by
  rw [← TagFilter.sorted_eq_iff]
  constructor
  next =>
    intro same
    replace same := String.ofList_injective same
    simp only [Json.record, Json.commaSeparated, List.map_cons, List.map_nil, List.cons_append,
      List.append_assoc, List.cons.injEq, true_and, List.append_cancel_left_eq] at same
    obtain ⟨system, behindSystem⟩ := delimited_quoted _ _ _ _ same
    simp only [List.cons.injEq, true_and, List.append_cancel_left_eq] at behindSystem
    obtain ⟨slug, behindSlug⟩ := delimited_quoted _ _ _ _ behindSystem
    simp only [List.cons.injEq, true_and, List.append_cancel_left_eq] at behindSlug
    obtain ⟨tags, -⟩ :=
      delimited_list TagFilter.delimited_json TagFilter.opens_json _ _ _ _ behindSlug
    exact ⟨system, slug, tags⟩
  next =>
    rintro ⟨system, slug, tags⟩
    rw [document, document, system, slug, tags]

/-- Unless the documents of two look-ups collide, their keys are equal just if they ask for the same
system and the same slug, blanks around them and case aside, and for the same tag filters in any
order. -/
theorem cacheKey_eq_iff
    (collisionFree : Sha256.hex a.document = Sha256.hex b.document → a.document = b.document) :
    a.cacheKey = b.cacheKey ↔ Text.tidy a.system = Text.tidy b.system ∧
      Text.tidy a.slug = Text.tidy b.slug ∧ a.tags.Perm b.tags := by
  rw [← document_eq_iff]
  exact ⟨collisionFree, congrArg Sha256.hex⟩

def quotedLookup : SlugLookup where
  system := " Nes"
  slug := "Super \"Mario\""
  tags := [⟨"lang", "en", .not⟩, ⟨"region", "usa", .and⟩, ⟨"region", "usa", .or⟩]

def respelledLookup : SlugLookup where
  system := "NES"
  slug := "SUPER \"MARIO\" "
  tags := [⟨"region", "usa", .or⟩, ⟨"lang", "en", .not⟩, ⟨"region", "usa", .and⟩]

theorem cacheKey_eq_iff_respelled :
    (Sha256.hex quotedLookup.document = Sha256.hex respelledLookup.document →
      quotedLookup.document = respelledLookup.document) ∧
      quotedLookup.cacheKey = respelledLookup.cacheKey ∧
      (Sha256.hex (document ⟨"nes", "mario", []⟩) = Sha256.hex (document ⟨"ne", "smario", []⟩) →
        document ⟨"nes", "mario", []⟩ = document ⟨"ne", "smario", []⟩) ∧
      cacheKey ⟨"nes", "mario", []⟩ ≠ cacheKey ⟨"ne", "smario", []⟩ := by
  have system : Text.tidy quotedLookup.system = Text.tidy respelledLookup.system := by
    decide +kernel
  have slug : Text.tidy quotedLookup.slug = Text.tidy respelledLookup.slug := by decide +kernel
  have tags : quotedLookup.tags.Perm respelledLookup.tags := by decide +kernel
  have equal : quotedLookup.document = respelledLookup.document :=
    document_eq_iff.2 ⟨system, slug, tags⟩
  have digests : Sha256.hex (document ⟨"nes", "mario", []⟩) ≠
      Sha256.hex (document ⟨"ne", "smario", []⟩) := by
    have sorted : TagFilter.sorted [] = [] := List.mergeSort_nil
    rw [document, document, sorted]
    decide +kernel
  have apart : Text.tidy "nes" ≠ Text.tidy "ne" := by decide +kernel
  exact ⟨fun _ => equal, (cacheKey_eq_iff fun _ => equal).2 ⟨system, slug, tags⟩,
    fun collide => absurd collide digests,
    fun same => apart ((cacheKey_eq_iff fun collide => absurd collide digests).1 same).1⟩

end SlugLookup

namespace MediaQuery

variable {q r : MediaQuery}

theorem normalized_eq_iff :
    q.normalized = r.normalized ↔ q.systems.Perm r.systems ∧
      Text.tidy q.pathGlob = Text.tidy r.pathGlob ∧
      Text.tidy q.pathStart = Text.tidy r.pathStart ∧ TagFilter.Aligned q.tags r.tags := by
  rw [normalized, normalized, mk.injEq, TagFilter.sortedByKey_eq_iff]
  exact and_congr_left fun _ => ⟨perm_of_mergeSort_eq, mergeSort_eq_of_perm⟩

theorem normalized_eq_of_document (same : q.document = r.document) : q.normalized = r.normalized :=
  json_injective (String.ofList_injective same)

theorem document_eq_iff : q.document = r.document ↔ q.normalized = r.normalized :=
  ⟨normalized_eq_of_document, fun same => by rw [document, document, same]⟩

structure Reordered (q r : MediaQuery) : Prop where
  systems : q.systems.Perm r.systems
  tags : q.tags.Perm r.tags
  pathGlob : q.pathGlob = r.pathGlob
  pathStart : q.pathStart = r.pathStart

theorem Reordered.normalized_eq_iff (reordered : Reordered q r) :
    q.normalized = r.normalized ↔ TagFilter.Aligned q.tags r.tags := by
  rw [MediaQuery.normalized_eq_iff, reordered.pathGlob, reordered.pathStart]
  exact ⟨fun same => same.2.2.2, fun aligned => ⟨reordered.systems, rfl, rfl, aligned⟩⟩

/-- Queries that differ only in order have one normal form just if their filters on each tag stand in
the same order, and so whenever no tag stands under two operators. With their normal forms they share
their fingerprint, and with these their normal forms unless two documents collide. -/
theorem fingerprint_of_reordered (reordered : Reordered q r) :
    (q.normalized = r.normalized ↔
        ∀ key : TagKey, q.tags.filter (·.key = key) = r.tags.filter (·.key = key)) ∧
      (TagFilter.Unmixed q.tags → q.normalized = r.normalized) ∧
      (q.normalized = r.normalized → q.fingerprint = r.fingerprint) ∧
      ((Sha256.hex q.document = Sha256.hex r.document → q.document = r.document) →
        q.fingerprint = r.fingerprint → q.normalized = r.normalized) := by
  refine ⟨reordered.normalized_eq_iff, fun unmixed => ?_, fun same => ?_, fun collisionFree same => ?_⟩
  next => exact reordered.normalized_eq_iff.2 (unmixed.aligned reordered.tags)
  next => exact congrArg Sha256.hex (document_eq_iff.2 same)
  next => exact normalized_eq_of_document (collisionFree same)

def usaFirst : MediaQuery where
  systems := ["NES", "SNES", "NES"]
  pathGlob := " *Mario*"
  tags := [⟨"region", "usa", .and⟩, ⟨"lang", "en", .not⟩, ⟨"region", "usa", .or⟩]

def langFirst : MediaQuery :=
  { usaFirst with
    systems := ["SNES", "NES", "NES"]
    tags := [⟨"lang", "en", .not⟩, ⟨"region", "usa", .and⟩, ⟨"region", "usa", .or⟩] }

theorem fingerprint_of_reordered_lang_first :
    Reordered usaFirst langFirst ∧ ¬ TagFilter.Unmixed usaFirst.tags ∧
      usaFirst.normalized = langFirst.normalized ∧ usaFirst.fingerprint = langFirst.fingerprint := by
  have reordered : Reordered usaFirst langFirst := ⟨by decide, by decide, rfl, rfl⟩
  have mixed : ¬ TagFilter.Unmixed usaFirst.tags := by
    unfold TagFilter.Unmixed
    decide
  have aligned : TagFilter.Aligned usaFirst.tags langFirst.tags := by
    intro key
    by_cases lang : key = ("lang", "en")
    next => subst lang; decide
    next =>
      have other : ¬ ("lang", "en") = key := fun same => lang same.symm
      simp [usaFirst, langFirst, TagFilter.key, List.filter_cons, other]
  obtain ⟨normalized, -, fingerprint, -⟩ := fingerprint_of_reordered reordered
  have same := normalized.2 aligned
  exact ⟨reordered, mixed, same, fingerprint same⟩

def eitherWay (first second : TagOperator) : MediaQuery where
  systems := ["NES"]
  tags := [⟨"region", "usa", first⟩, ⟨"region", "usa", second⟩]

theorem normalized_eitherWay (first second : TagOperator) :
    (eitherWay first second).normalized = eitherWay first second := by
  have tied : TagFilter.compareKeys ⟨"region", "usa", first⟩ ⟨"region", "usa", second⟩ = .eq :=
    TagFilter.compareKeys_eq.2 rfl
  have tags : TagFilter.sortedByKey (eitherWay first second).tags = (eitherWay first second).tags :=
    List.mergeSort_of_pairwise (List.pairwise_pair.2 (by rw [tied]; rfl))
  have blank : Text.tidy "" = "" := by decide +kernel
  rw [normalized, tags]
  simp only [eitherWay, List.mergeSort_singleton, blank]

theorem fingerprint_two_operators :
    Reordered (eitherWay .and .or) (eitherWay .or .and) ∧
      (eitherWay .and .or).normalized ≠ (eitherWay .or .and).normalized ∧
      (eitherWay .and .or).fingerprint ≠ (eitherWay .or .and).fingerprint := by
  refine ⟨⟨.refl _, by decide, rfl, rfl⟩, ?_, ?_⟩
  next =>
    rw [normalized_eitherWay, normalized_eitherWay]
    decide
  next =>
    rw [fingerprint, fingerprint, document, document, normalized_eitherWay, normalized_eitherWay]
    decide +kernel

end MediaQuery

end MediaCatalog
