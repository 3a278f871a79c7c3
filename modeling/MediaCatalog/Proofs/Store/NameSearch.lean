import MediaCatalog.Proofs.Slug.Words
import MediaCatalog.Proofs.Store.Pages

set_option autoImplicit false

namespace MediaCatalog

namespace SearchRequest

variable {catalog : Catalog} {hit : Hit} {name : String} {limit : Nat}

def byName (system name : String) (limit : Nat) : SearchRequest :=
  { systems := [system], query := name, limit }

theorem mem_select_byName_name (keyed : catalog.AllKeyed) (joins : catalog.Joins hit)
    (titled : hit.title.name = name) :
    hit ∈ catalog.select (.ofRequest (byName hit.system.code name limit) .name) := by
  have filter : Filter.ofRequest (byName hit.system.code name limit) .name =
      .systemIn [hit.system.code] ::
        (SearchWords.rawGroups (SearchWords.ofQuery name)).map (.word .name) := by
    simp [byName, Filter.ofRequest, Filter.forMedia, TagFilter.clauses, TagFilter.keysWith]
  rw [Catalog.select, List.mem_filter, keyed.mem_hits, filter, List.all_cons, List.all_map,
    Bool.and_eq_true]
  refine ⟨joins, by simp [Clause.holds], List.all_eq_true.2 fun group listed => ?_⟩
  simp only [SearchWords.rawGroups, SearchWords.ofQuery, List.map_map, List.mem_map,
    List.mem_filter, Function.comp_def, String.toList_ofList] at listed
  obtain ⟨_, ⟨⟨field, cut, rfl⟩, -⟩, rfl⟩ := listed
  have within : Text.trim field <:+: name.toList :=
    (Text.trim_within field).trans (Text.infix_of_mem_splitAt (List.mem_of_mem_filter cut))
  simp only [Function.comp_def, Clause.holds, List.any_cons, List.any_nil, Bool.or_false,
    TitleMatch.holds, isEscapedLike_wordPattern, String.toList_ofList, titled]
  exact within.map _

theorem mem_select_byName_slug (keyed : catalog.AllKeyed) (joins : catalog.Joins hit)
    (free : ∀ c ∈ name.toList, Slug.isOpener c = false ∧ Slug.isCloser c = false)
    (slug : hit.title.slug = slugify (.ofSystemCode hit.system.code) name) :
    hit ∈ catalog.select (.ofRequest (byName hit.system.code name limit) .slug) ↔
      (Slug.ArticleApart name.toList → hit.title.Has "the") := by
  have within (part : List Char)
      (inside : part <:+: Slug.chars (.ofSystemCode hit.system.code) name.toList) :
      hit.title.Has (String.ofList part) := by
    refine .inl ?_
    rw [Occurs, slug, slugify, String.toList_ofList, String.toList_ofList]
    exact inside.map _
  have words : (∀ word ∈ SearchWords.ofQuery name,
      (byName hit.system.code name limit).Spells hit.title word) ↔
        (Slug.ArticleApart name.toList → hit.title.Has "the") := by
    refine Iff.trans ?_ (Slug.forall_fields_iff _ free within)
    simp +contextual [Spells, byName, SearchWords.ofQuery, slugify]
  rw [mem_select keyed (List.cons_ne_nil _ _)]
  constructor
  next => exact fun found => words.1 found.wanted.words
  next =>
    intro apart
    refine ⟨joins, ?_, List.mem_singleton_self _, words.2 apart, ?_, ?_, ?_, ?_⟩
    all_goals simp [byName]

end SearchRequest

namespace Store

variable {store : Store} {hit : Hit}

theorem described_mem_select (keyed : store.catalog.AllKeyed) (joins : store.catalog.Joins hit)
    {filter : Filter} : store.catalog.described hit ∈
      (store.catalog.select filter).map store.catalog.described ↔
        hit ∈ store.catalog.select filter := by
  constructor
  next =>
    intro member
    obtain ⟨other, listed, same⟩ := List.mem_map.1 member
    have joins' := keyed.mem_hits.1 (List.mem_filter.1 listed).1
    have ids : other.medium.id = hit.medium.id := congrArg MediumResult.id same
    exact keyed.joins_unique joins joins' ids ▸ listed
  next => exact fun member => List.mem_map_of_mem member

/-- A search for the name of a title finds its media, unless its words have too many parameters for a
statement or the name begins with an article that its title does not have anywhere. Such an article
does no harm in a name with letters of other scripts, if no medium of the system has all the words in
its slugs. This is up to the limits on statements that `Store.prepare` assumes to be kept. -/
theorem finds_by_name (present : store.missing = []) (keyed : store.catalog.AllKeyed)
    (joins : store.catalog.Joins hit) {name : String}
    (free : ∀ c ∈ name.toList, Slug.isOpener c = false ∧ Slug.isCloser c = false)
    (titled : hit.title = { Title.ofName hit.title.systemId (.ofSystemCode hit.system.code) name with
      id := hit.title.id })
    {limit : Nat} (room : store.catalog.media.length ≤ limit) (few : limit ≤ variableLimit) :
    let request : SearchRequest := { systems := [hit.system.code], query := name, limit }
    (∃ results, store.searchPage request = .ok results ∧ store.catalog.described hit ∈ results) ↔
      (request.binds .slug).length ≤ variableLimit ∧
        ((Slug.ArticleApart name.toList → hit.title.Has "the") ∨
          isLatin name = false ∧ store.catalog.select (.ofRequest request .slug) = [] ∧
            (request.binds .name).length ≤ variableLimit) := by
  intro request
  have slug : hit.title.slug = slugify (.ofSystemCode hit.system.code) name :=
    congrArg Title.slug titled
  have named : hit.title.name = name := congrArg Title.name titled
  have bySlug : hit ∈ store.catalog.select (.ofRequest request .slug) ↔ _ :=
    SearchRequest.mem_select_byName_slug keyed joins free slug
  have byName : hit ∈ store.catalog.select (.ofRequest request .name) :=
    SearchRequest.mem_select_byName_name keyed joins named
  have shown : (store.pageOf request).length ≤ variableLimit :=
    Nat.le_trans length_pageOf_le (SearchRequest.pageSize_le few)
  have roomy : _ ≤ request.pageSize := SearchRequest.le_pageSize room few
  have page := pageOf_of_room roomy
  have systems : request.systems ≠ [] := List.cons_ne_nil _ _
  simp only [searchPage_present present keyed.media.ids systems shown,
    SearchRequest.take_pageSize_eq_nil, SearchRequest.fallsBack_iff, and_assoc, exists_and_left,
    exists_eq_left]
  refine and_congr_right fun _ => ?_
  by_cases none : store.catalog.select (.ofRequest request .slug) = []
  next =>
    rw [page.trans (if_pos none), namesBehind_of_none none]
    constructor
    next =>
      rintro ⟨fits, member⟩
      split at member
      next falls =>
        have foreign := SearchRequest.fallsBack_iff.1 falls
        exact .inr ⟨foreign, none, fits none foreign⟩
      next => cases member
    next =>
      rintro (apart | ⟨foreign, -, fits⟩)
      next => exact absurd (none ▸ bySlug.2 apart) List.not_mem_nil
      next =>
        have falls : request.fallsBack = true := SearchRequest.fallsBack_iff.2 foreign
        rw [if_pos falls]
        exact ⟨fun _ _ => fits, List.mem_map_of_mem byName⟩
  next =>
    rw [page.trans (if_neg none), described_mem_select keyed joins]
    simpa [none] using bySlug

theorem finds_by_name_lord_of_the_rings :
    let name := "The Lord of the Rings"
    let hit := Catalog.named "SNES" name "/roms/SNES/LOTR.sfc"
    let store : Store := { catalog := .single hit }
    Slug.ArticleApart name.toList ∧ hit.title.slug = "lordoftherings" ∧
      ∃ results, store.searchPage { systems := ["SNES"], query := name, limit := 10 } = .ok results ∧
        store.catalog.described hit ∈ results := by
  intro name hit store
  have apart : Slug.ArticleApart name.toList := by
    refine ⟨[], "The".toList, ["Lord", "of", "the", "Rings"].map String.toList, ?_⟩
    decide +kernel
  have inside : Occurs "the" hit.title.slug := by
    unfold Occurs
    decide +kernel
  have joins : store.catalog.Joins hit := Catalog.single_joins_named _ _ _
  have bracketless : name.toList.all (fun c => !Slug.isOpener c && !Slug.isCloser c) = true := by
    decide +kernel
  have free : ∀ c ∈ name.toList, Slug.isOpener c = false ∧ Slug.isCloser c = false :=
    fun c member => by simpa using List.all_eq_true.1 bracketless c member
  have room : store.catalog.media.length ≤ 10 := by decide
  have found := finds_by_name rfl (Catalog.single_keyed hit) joins free rfl room (by decide)
  exact ⟨apart, by decide +kernel, found.2 ⟨by decide +kernel, .inl fun _ => .inl inside⟩⟩

theorem searchPage_legend_of_zelda :
    let name := "The Legend of Zelda"
    let hit := Catalog.named "NES" name "/roms/NES/The Legend of Zelda.zip"
    let store : Store := { catalog := .single hit }
    name.toList.all (fun c => !Slug.isOpener c && !Slug.isCloser c) = true ∧
      hit.title.slug = "legendofzelda" ∧ store.catalog.media = [hit.medium] ∧
        store.searchPage { systems := ["NES"], query := name, limit := 10 } = .ok [] := by
  decide +kernel

end Store

end MediaCatalog
