import MediaCatalog.Cache.Key
import MediaCatalog.Proofs.Filter.Variants
import MediaCatalog.Proofs.Slug
import MediaCatalog.Proofs.Sorting
import MediaCatalog.Proofs.Text.Like

set_option autoImplicit false

namespace MediaCatalog

open Text

namespace SearchWords

def lowered (word : String) : List Char :=
  lowerChars word.toList

theorem lowered_ofGlob (glob : String) :
    (ofGlob glob).map lowered =
      ((splitAt (· = '*') (tidy glob).toList).map trim).filter (!·.isEmpty) := by
  have apart (c : Char) (blank : isBlank c = true) : decide (c = '*') = false := by
    refine decide_eq_false fun star => ?_
    rw [star] at blank
    contradiction
  have empties (part : List Char) : (lowerChars part).isEmpty = part.isEmpty := by
    rw [Bool.eq_iff_iff, List.isEmpty_iff, List.isEmpty_iff, lowerChars_eq_nil]
  -- Trimmed first or last, cut first or lowered first: the words are the same.
  rw [tidy, String.toList_ofList, ← trim_lowerChars, splitAt_trim apart,
    splitAt_lowerChars fun _ => isMark_of_star]
  simp only [ofGlob, List.map_map, List.filter_map, Function.comp_def, lowered,
    String.toList_ofList, trim_lowerChars, empties]

theorem plain_ofGlob {glob : String} (plain : Slug.Plain glob.toList) :
    ∀ word ∈ ofGlob glob, Slug.Plain word.toList := by
  intro word listed sigma c member
  simp only [ofGlob, List.mem_map, List.mem_filter] at listed
  obtain ⟨_, ⟨⟨part, cut, rfl⟩, -⟩, rfl⟩ := listed
  rw [String.toList_ofList] at sigma member
  have within : trim part ⊆ glob.toList :=
    List.Subset.trans (trim_subset part) (mem_of_mem_splitAt cut)
  exact plain (within sigma) c (within member)

def Meets (systems : List String) (title : Title) (word : String) : Prop :=
  (∃ kind ∈ mediaTypes systems, slugify kind word ≠ "") →
    ∃ kind ∈ mediaTypes systems, slugify kind word ≠ "" ∧
      TitleMatch.slug.holds title (slugify kind word) = true

theorem any_variants {kinds : List MediaType} {word : String} (holds : String → Bool) :
    (variants kinds word).any holds = true ↔
      ∃ kind ∈ kinds, slugify kind word ≠ "" ∧ holds (slugify kind word) = true := by
  simp only [List.any_eq_true, mem_variants]
  constructor
  next =>
    rintro ⟨_, ⟨some, kind, listed, rfl⟩, holds⟩
    exact ⟨kind, listed, some, holds⟩
  next =>
    rintro ⟨kind, listed, some, holds⟩
    exact ⟨_, ⟨some, kind, listed, rfl⟩, holds⟩

theorem all_variantGroups {systems words : List String} {title : Title} :
    (variantGroups systems words).all (fun group => group.any (TitleMatch.slug.holds title)) =
      true ↔ ∀ word ∈ words, Meets systems title word := by
  simp only [variantGroups_eq, List.all_eq_true, List.mem_filter, List.mem_map]
  constructor
  next =>
    intro all word listed some
    exact (any_variants _).1 (all _ ⟨⟨word, listed, rfl⟩, variants_nonempty.2 some⟩)
  next =>
    rintro meets _ ⟨⟨word, listed, rfl⟩, some⟩
    exact (any_variants _).2 (meets word listed (variants_nonempty.1 some))

theorem mem_mediaTypes_perm {systems others : List String} (same : systems.Perm others)
    (kind : MediaType) : kind ∈ mediaTypes systems ↔ kind ∈ mediaTypes others := by
  simp only [mediaTypes, same.isEmpty_eq]
  split
  next => exact Iff.rfl
  next => exact (same.map _).mem_iff

theorem Meets.congr {systems others : List String} (same : systems.Perm others) {title : Title}
    {word other : String} (slugs : ∀ kind, slugify kind word = slugify kind other)
    (meets : Meets systems title word) : Meets others title other := by
  simpa only [Meets, mem_mediaTypes_perm same, slugs] using meets

theorem meets_ofGlob {systems others : List String} (same : systems.Perm others) {title : Title}
    {glob other : String} (tidied : tidy glob = tidy other) (plain : Slug.Plain glob.toList)
    (plain' : Slug.Plain other.toList) (meets : ∀ word ∈ ofGlob glob, Meets systems title word) :
    ∀ word ∈ ofGlob other, Meets others title word := by
  intro word listed
  have lowers : (ofGlob glob).map lowered = (ofGlob other).map lowered := by
    rw [lowered_ofGlob, lowered_ofGlob, tidied]
  have found : lowered word ∈ (ofGlob glob).map lowered := lowers ▸ List.mem_map_of_mem listed
  obtain ⟨origin, wasListed, equal⟩ := List.mem_map.1 found
  have slugs (kind : MediaType) : slugify kind origin = slugify kind word :=
    congrArg String.ofList (Slug.chars_eq_of_lowered (plain_ofGlob plain origin wasListed)
      (plain_ofGlob plain' word listed) equal kind)
  exact (meets origin wasListed).congr same slugs

end SearchWords

theorem TagFilter.mem_keysWith {operator : TagOperator} {tags : List TagFilter} {key : TagKey} :
    key ∈ keysWith operator tags ↔
      ∃ filter ∈ tags, filter.operator = operator ∧ filter.key = key := by
  simp [keysWith, and_assoc]

theorem TagFilter.all_clauses {catalog : Catalog} {hit : Hit} {tags : List TagFilter} :
    (clauses tags).all (Clause.holds catalog hit) = true ↔
      (∀ key ∈ keysWith .and tags, catalog.isTagged hit.medium.id key = true) ∧
        (∀ key ∈ keysWith .not tags, catalog.isTagged hit.medium.id key = false) ∧
        ((∃ key, key ∈ keysWith .or tags) →
          ∃ key ∈ keysWith .or tags, catalog.isTagged hit.medium.id key = true) := by
  simp only [clauses]
  cases required : keysWith .and tags <;> cases alternatives : keysWith .or tags <;>
    simp [Clause.holds, and_assoc]

theorem TagFilter.all_clauses_perm {tags others : List TagFilter} (same : tags.Perm others)
    {catalog : Catalog} {hit : Hit} (met : (clauses tags).all (Clause.holds catalog hit) = true) :
    (clauses others).all (Clause.holds catalog hit) = true := by
  have keys (operator : TagOperator) (key : TagKey) :
      key ∈ keysWith operator tags ↔ key ∈ keysWith operator others := by
    simp only [mem_keysWith, same.mem_iff]
  simpa only [all_clauses, keys] using met

def Hit.withPath (path : String) (hit : Hit) : Hit :=
  { hit with medium := { hit.medium with path } }

namespace Catalog

def withPath (path : String) (catalog : Catalog) : Catalog :=
  { catalog with media := catalog.media.map fun medium => { medium with path } }

theorem hit?_withPath (path : String) (catalog : Catalog) (medium : Medium) :
    (catalog.withPath path).hit? { medium with path } =
      (catalog.hit? medium).map (Hit.withPath path) := by
  have titles : (catalog.withPath path).title? medium.titleId = catalog.title? medium.titleId := rfl
  have systems (id : Int) : (catalog.withPath path).system? id = catalog.system? id := rfl
  simp only [hit?, titles, systems]
  cases catalog.title? medium.titleId with
  | none => rfl
  | some title => cases found : catalog.system? title.systemId <;> simp [found, Hit.withPath]

theorem hits_withPath (path : String) (catalog : Catalog) :
    (catalog.withPath path).hits = catalog.hits.map (Hit.withPath path) := by
  rw [hits, hits, List.map_filterMap, withPath, List.filterMap_map]
  exact List.filterMap_congr fun medium _ => hit?_withPath path catalog medium

end Catalog

namespace MediaQuery

variable {q r : MediaQuery} {catalog : Catalog} {hit : Hit} {path : String}

def Admits (query : MediaQuery) (catalog : Catalog) (hit : Hit) : Prop :=
  (query.systems = [] ∨ hit.system.code ∈ query.systems) ∧
    (∀ word ∈ SearchWords.ofGlob query.pathGlob,
      SearchWords.Meets query.systems hit.title word) ∧
    (TagFilter.clauses query.tags).all (Clause.holds catalog hit) = true

theorem all_ofQuery : (Filter.ofQuery q).all (Clause.holds catalog hit) = true ↔
    q.Admits catalog hit ∧
      Like.folded q.pathStart.toList <+: Like.folded hit.medium.path.toList := by
  have systems : (if q.systems.isEmpty then [] else [Clause.systemIn q.systems]).all
      (Clause.holds catalog hit) = true ↔ q.systems = [] ∨ hit.system.code ∈ q.systems := by
    cases q.systems <;> simp [Clause.holds]
  have words : ((SearchWords.variantGroups q.systems (SearchWords.ofGlob q.pathGlob)).map
      (Clause.word .slug)).all (Clause.holds catalog hit) = true ↔
        ∀ word ∈ SearchWords.ofGlob q.pathGlob, SearchWords.Meets q.systems hit.title word := by
    rw [List.all_map]
    exact SearchWords.all_variantGroups
  have start : (if q.pathStart = "" then [] else [Clause.pathStarts q.pathStart]).all
      (Clause.holds catalog hit) = true ↔
        Like.folded q.pathStart.toList <+: Like.folded hit.medium.path.toList := by
    by_cases none : q.pathStart = ""
    next => simp [none, Like.folded]
    next => simp [none, Clause.holds, isEscapedLike_startPattern]
  rw [Filter.ofQuery, Filter.forMedia, List.all_append, List.all_append, List.all_append,
    Bool.and_eq_true, Bool.and_eq_true, Bool.and_eq_true, systems, words, start]
  constructor
  next =>
    rintro ⟨⟨⟨listed, meets⟩, starts⟩, tagged⟩
    exact ⟨⟨listed, meets, tagged⟩, starts⟩
  next =>
    rintro ⟨⟨listed, meets, tagged⟩, starts⟩
    exact ⟨⟨⟨listed, meets⟩, starts⟩, tagged⟩

theorem mem_select : hit ∈ catalog.select (Filter.ofQuery q) ↔
    hit ∈ catalog.hits ∧ q.Admits catalog hit ∧
      Like.folded q.pathStart.toList <+: Like.folded hit.medium.path.toList := by
  rw [Catalog.select, List.mem_filter, all_ofQuery]

theorem admits_of_normalized (same : q.normalized = r.normalized)
    (plain : Slug.Plain q.pathGlob.toList) (plain' : Slug.Plain r.pathGlob.toList)
    (admits : q.Admits catalog hit) : r.Admits catalog hit := by
  have systems : q.systems.Perm r.systems := perm_of_mergeSort_eq (congrArg systems same)
  have tags : q.tags.Perm r.tags := perm_of_mergeSort_eq (congrArg MediaQuery.tags same)
  have globs : tidy q.pathGlob = tidy r.pathGlob := congrArg pathGlob same
  obtain ⟨listed, meets, tagged⟩ := admits
  refine ⟨?_, SearchWords.meets_ofGlob systems globs plain plain' meets,
    TagFilter.all_clauses_perm tags tagged⟩
  rwa [← List.isEmpty_iff, systems.isEmpty_eq, List.isEmpty_iff, systems.mem_iff] at listed

theorem admits_withPath :
    q.Admits (catalog.withPath path) (hit.withPath path) ↔ q.Admits catalog hit := by
  simp only [Admits, TagFilter.all_clauses]
  rfl

theorem start_of_select (same : ∀ catalog : Catalog,
      catalog.select (Filter.ofQuery q) = catalog.select (Filter.ofQuery r))
    (found : hit ∈ catalog.hits) (admits : q.Admits catalog hit) :
    Like.folded r.pathStart.toList <+: Like.folded q.pathStart.toList := by
  have moved : hit.withPath q.pathStart ∈
      (catalog.withPath q.pathStart).select (Filter.ofQuery q) := by
    refine mem_select.2 ⟨?_, admits_withPath.2 admits, List.prefix_rfl⟩
    rw [Catalog.hits_withPath]
    exact List.mem_map_of_mem found
  rw [same] at moved
  exact (mem_select.1 moved).2.2

theorem select_eq_iff (same : q.normalized = r.normalized)
    (plain : Slug.Plain q.pathGlob.toList) (plain' : Slug.Plain r.pathGlob.toList) :
    (∀ catalog : Catalog,
      catalog.select (Filter.ofQuery q) = catalog.select (Filter.ofQuery r)) ↔
      Like.folded q.pathStart.toList = Like.folded r.pathStart.toList ∨
        ∀ catalog : Catalog, catalog.select (Filter.ofQuery q) = [] ∧
          catalog.select (Filter.ofQuery r) = [] := by
  constructor
  next =>
    intro selected
    by_cases empty : ∀ catalog : Catalog, catalog.select (Filter.ofQuery q) = []
    next => exact .inr fun catalog => ⟨empty catalog, selected catalog ▸ empty catalog⟩
    next =>
      left
      obtain ⟨catalog, some⟩ := not_forall.1 empty
      obtain ⟨hit, listed⟩ := List.exists_mem_of_ne_nil _ some
      obtain ⟨found, admits, -⟩ := mem_select.1 listed
      have longer := start_of_select selected found admits
      have shorter := start_of_select (fun catalog => (selected catalog).symm) found
        (admits_of_normalized same plain plain' admits)
      exact shorter.eq_of_length_le longer.length_le
  next =>
    rintro (starts | empty) catalog
    next =>
      refine List.filter_congr fun hit _ => ?_
      rw [Bool.eq_iff_iff, all_ofQuery, all_ofQuery, starts]
      exact and_congr_left fun _ =>
        ⟨admits_of_normalized same plain plain', admits_of_normalized same.symm plain' plain⟩
    next => rw [(empty catalog).1, (empty catalog).2]

end MediaQuery

end MediaCatalog
