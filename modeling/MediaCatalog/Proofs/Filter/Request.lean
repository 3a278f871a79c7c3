import MediaCatalog.Proofs.Catalog.Order
import MediaCatalog.Proofs.Filter.Normalized

set_option autoImplicit false

namespace MediaCatalog

open Text.Like (folded)

def Occurs (word text : String) : Prop :=
  folded word.toList <:+: folded text.toList

def Title.Has (title : Title) (word : String) : Prop :=
  Occurs word title.slug ∨ ∃ secondary, title.secondarySlug = some secondary ∧ Occurs word secondary

theorem slugify_plain (kind : MediaType) (text : String) :
    ∀ c ∈ (slugify kind text).toList, c ≠ '%' ∧ c ≠ '_' := by
  intro c member
  rw [slugify, String.toList_ofList] at member
  have letter := Slug.alphanumeric_chars kind text.toList c member
  have wild : Text.isAlphanumeric '%' = false ∧ Text.isAlphanumeric '_' = false := by
    decide
  refine ⟨?_, ?_⟩
  all_goals
    rintro rfl
    simp [wild] at letter

theorem slug_holds_slugify (kind : MediaType) (word : String) (title : Title) :
    TitleMatch.slug.holds title (slugify kind word) = true ↔ title.Has (slugify kind word) := by
  simp only [TitleMatch.holds, Bool.or_eq_true, isLike_wordPattern (slugify_plain kind word),
    Option.any_eq_true, Title.Has, Occurs]

theorem TagFilter.forall_mem_keysWith {operator : TagOperator} {tags : List TagFilter}
    {property : TagKey → Prop} : (∀ key ∈ keysWith operator tags, property key) ↔
      ∀ filter ∈ tags, filter.operator = operator → property filter.key := by
  simp only [mem_keysWith, forall_exists_index, and_imp]
  exact ⟨fun all filter listed same => all _ filter listed same rfl,
    fun all _ filter listed same key => key ▸ all filter listed same⟩

theorem TagFilter.exists_mem_keysWith {operator : TagOperator} {tags : List TagFilter}
    {property : TagKey → Prop} : (∃ key ∈ keysWith operator tags, property key) ↔
      ∃ filter ∈ tags, filter.operator = operator ∧ property filter.key := by
  simp only [mem_keysWith]
  constructor
  next => exact fun ⟨_, ⟨filter, listed, same, rfl⟩, fine⟩ => ⟨filter, listed, same, fine⟩
  next => exact fun ⟨filter, listed, same, fine⟩ => ⟨_, ⟨filter, listed, same, rfl⟩, fine⟩

namespace SearchRequest

variable {request other : SearchRequest} {catalog : Catalog} {hit : Hit} {word : String}

def Spells (request : SearchRequest) (title : Title) (word : String) : Prop :=
  (∃ code ∈ request.systems, slugify (.ofSystemCode code) word ≠ "") →
    ∃ code ∈ request.systems, slugify (.ofSystemCode code) word ≠ "" ∧
      title.Has (slugify (.ofSystemCode code) word)

theorem meets_iff_spells (systems : request.systems ≠ []) {title : Title} :
    SearchWords.Meets request.systems title word ↔ request.Spells title word := by
  simp only [SearchWords.Meets, Spells, SearchWords.mediaTypes_of_ne_nil systems, List.mem_map, exists_exists_and_eq_and,
    slug_holds_slugify]

structure Wants (request : SearchRequest) (catalog : Catalog) (hit : Hit) : Prop where
  system : hit.system.code ∈ request.systems
  words : ∀ word ∈ SearchWords.ofQuery request.query, request.Spells hit.title word
  required : ∀ filter ∈ request.tags, filter.operator = .and → catalog.Carries hit.medium.id filter
  forbidden : ∀ filter ∈ request.tags, filter.operator = .not →
    ¬ catalog.Carries hit.medium.id filter
  alternatives : (∃ filter ∈ request.tags, filter.operator = .or) →
    ∃ filter ∈ request.tags, filter.operator = .or ∧ catalog.Carries hit.medium.id filter
  letter : ∀ letter, request.letter.bind FirstLetter.parse? = some letter →
    letter.isFirst hit.title.name = true

structure Finds (request : SearchRequest) (catalog : Catalog) (hit : Hit) : Prop where
  joined : catalog.Joins hit
  above : ∀ cursor, request.cursor = some cursor → cursor < hit.medium.id
  wanted : request.Wants catalog hit

theorem all_tagClauses (keyed : catalog.AllKeyed) {tags : List TagFilter} :
    (TagFilter.clauses tags).all (Clause.holds catalog hit) = true ↔
      (∀ filter ∈ tags, filter.operator = .and → catalog.Carries hit.medium.id filter) ∧
        (∀ filter ∈ tags, filter.operator = .not → ¬ catalog.Carries hit.medium.id filter) ∧
        ((∃ filter ∈ tags, filter.operator = .or) →
          ∃ filter ∈ tags, filter.operator = .or ∧ catalog.Carries hit.medium.id filter) := by
  have absent (filter : TagFilter) : catalog.isTagged hit.medium.id filter.key = false ↔
      ¬ catalog.Carries hit.medium.id filter := by
    rw [← keyed.isTagged, Bool.not_eq_true]
  have some : (∃ key, key ∈ TagFilter.keysWith .or tags) ↔
      ∃ filter ∈ tags, filter.operator = .or := by
    simp only [TagFilter.mem_keysWith]
    exact ⟨fun ⟨_, filter, listed, same, _⟩ => ⟨filter, listed, same⟩,
      fun ⟨filter, listed, same⟩ => ⟨_, filter, listed, same, rfl⟩⟩
  simp only [TagFilter.all_clauses, TagFilter.forall_mem_keysWith, some,
    TagFilter.exists_mem_keysWith, absent, keyed.isTagged]

theorem all_ofRequest_cursor (mode : TitleMatch) :
    (Filter.ofRequest request mode).all (Clause.holds catalog hit) = true ↔
      (∀ cursor, request.cursor = some cursor → cursor < hit.medium.id) ∧
        (Filter.ofRequest { request with cursor := none } mode).all (Clause.holds catalog hit) =
          true := by
  cases cursor : request.cursor with
  | none => simp [Filter.ofRequest, cursor]
  | some id => simp [Filter.ofRequest, cursor, Clause.holds, and_left_comm]

theorem select_cursor (request : SearchRequest) (mode : TitleMatch) (catalog : Catalog) :
    catalog.select (.ofRequest request mode) =
      (catalog.select (.ofRequest { request with cursor := none } mode)).filter
        fun hit => request.cursor.all (· < hit.medium.id) := by
  rw [Catalog.select, Catalog.select, List.filter_filter]
  refine List.filter_congr fun hit _ => ?_
  rw [Bool.eq_iff_iff, all_ofRequest_cursor, Bool.and_eq_true, Option.all_eq_true]
  simp only [decide_eq_true_eq]

theorem select_after {mode : TitleMatch} (listed : hit ∈ catalog.select (.ofRequest request mode))
    (other : TitleMatch) :
    catalog.select (.ofRequest { request with cursor := some hit.medium.id } other) =
      (catalog.select (.ofRequest request other)).filter (hit.medium.id < ·.medium.id) := by
  rw [select_cursor request mode] at listed
  have above := (List.mem_filter.1 listed).2
  rw [select_cursor, select_cursor request other, List.filter_filter]
  refine List.filter_congr fun later _ => ?_
  cases cursor : request.cursor with
  | none => simp
  | some id =>
    simp only [cursor, Option.all_some, decide_eq_true_eq] at above
    rw [Bool.eq_iff_iff]
    simp only [Option.all_some, Bool.and_eq_true, decide_eq_true_eq]
    omega

theorem all_ofRequest (keyed : catalog.AllKeyed) (systems : request.systems ≠ []) :
    (Filter.ofRequest { request with cursor := none } .slug).all (Clause.holds catalog hit) =
      true ↔ request.Wants catalog hit := by
  have words : ((SearchWords.variantGroups request.systems
      (SearchWords.ofQuery request.query)).map (Clause.word .slug)).all
        (Clause.holds catalog hit) = true ↔
      ∀ word ∈ SearchWords.ofQuery request.query, request.Spells hit.title word := by
    rw [List.all_map]
    refine SearchWords.all_variantGroups.trans ?_
    simp only [meets_iff_spells systems]
  have letter : ((request.letter.bind FirstLetter.parse?).map Clause.firstLetter).toList.all
      (Clause.holds catalog hit) = true ↔
        ∀ letter, request.letter.bind FirstLetter.parse? = some letter →
          letter.isFirst hit.title.name = true := by
    cases request.letter.bind FirstLetter.parse? <;> simp [Clause.holds]
  have filter : Filter.ofRequest { request with cursor := none } .slug =
      [.systemIn request.systems] ++ (SearchWords.variantGroups request.systems
        (SearchWords.ofQuery request.query)).map (.word .slug) ++ TagFilter.clauses request.tags ++
          ((request.letter.bind FirstLetter.parse?).map Clause.firstLetter).toList := by
    cases request.letter <;>
      simp [Filter.ofRequest, Filter.forMedia, FirstLetter.clauses, systems]
  have system : [Clause.systemIn request.systems].all (Clause.holds catalog hit) = true ↔
      hit.system.code ∈ request.systems := by simp [Clause.holds]
  rw [filter]
  simp only [List.all_append, Bool.and_eq_true, system, words, letter, all_tagClauses keyed]
  constructor
  next =>
    rintro ⟨⟨⟨listed, spelled⟩, required, forbidden, alternatives⟩, first⟩
    exact ⟨listed, spelled, required, forbidden, alternatives, first⟩
  next =>
    rintro ⟨listed, spelled, required, forbidden, alternatives, first⟩
    exact ⟨⟨⟨listed, spelled⟩, required, forbidden, alternatives⟩, first⟩

theorem mem_select (keyed : catalog.AllKeyed) (systems : request.systems ≠ []) :
    hit ∈ catalog.select (.ofRequest request .slug) ↔ request.Finds catalog hit := by
  rw [Catalog.select, List.mem_filter, keyed.mem_hits, all_ofRequest_cursor,
    all_ofRequest keyed systems]
  constructor
  next =>
    rintro ⟨joined, above, wanted⟩
    exact ⟨joined, above, wanted⟩
  next =>
    rintro ⟨joined, above, wanted⟩
    exact ⟨joined, above, wanted⟩

structure Rephrases (request other : SearchRequest) : Prop where
  systems : ∀ code, code ∈ request.systems ↔ code ∈ other.systems
  words : ∀ word, word ∈ SearchWords.ofQuery request.query ↔
    word ∈ SearchWords.ofQuery other.query
  tags : ∀ filter, filter ∈ request.tags ↔ filter ∈ other.tags
  cursor : request.cursor = other.cursor
  letter : request.letter = other.letter

theorem Rephrases.symm (rephrases : request.Rephrases other) : other.Rephrases request :=
  ⟨fun code => (rephrases.systems code).symm, fun word => (rephrases.words word).symm,
    fun filter => (rephrases.tags filter).symm, rephrases.cursor.symm, rephrases.letter.symm⟩

theorem Rephrases.finds (rephrases : request.Rephrases other) (found : request.Finds catalog hit) :
    other.Finds catalog hit := by
  obtain ⟨systems, words, tags, cursor, letter⟩ := rephrases
  obtain ⟨joined, above, listed, spelled, required, forbidden, alternatives, first⟩ := found
  simp only [Spells, systems, words] at listed spelled
  simp only [tags] at required forbidden alternatives
  exact ⟨joined, cursor ▸ above, listed, spelled, required, forbidden, alternatives,
    letter ▸ first⟩

theorem Rephrases.finds_iff (rephrases : request.Rephrases other) :
    request.Finds catalog hit ↔ other.Finds catalog hit :=
  ⟨rephrases.finds, rephrases.symm.finds⟩

end SearchRequest

end MediaCatalog
