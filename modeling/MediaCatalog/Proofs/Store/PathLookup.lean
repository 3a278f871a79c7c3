import MediaCatalog.Proofs.Slug.Episode
import MediaCatalog.Proofs.Store.SearchPage

set_option autoImplicit false

namespace MediaCatalog

namespace Path

theorem lastComponent_append {name : List Char} (free : ∀ c ∈ name, isSeparator c = false)
    {c : Char} (separates : isSeparator c = true) (directory : List Char) :
    lastComponent (directory ++ c :: name) = name := by
  have reversed : (directory ++ c :: name).reverse = name.reverse ++ c :: directory.reverse := by simp
  have kept : ∀ d ∈ name.reverse, (!isSeparator d) = true := fun d member => by
    simp [free d (List.mem_reverse.1 member)]
  rw [lastComponent, reversed, List.takeWhile_append_of_pos kept]
  simp [separates]

theorem dropExtension_append {extension : List Char} (free : '.' ∉ extension) {name : List Char}
    (some : name ≠ []) : dropExtension (name ++ '.' :: extension) = name := by
  have reversed : (name ++ '.' :: extension).reverse = extension.reverse ++ '.' :: name.reverse := by
    simp
  rw [dropExtension, reversed, Text.cut_append (by simpa using free)]
  simp [some]

theorem stem_append {name extension : String}
    (plain : ∀ c ∈ name.toList, isSeparator c = false)
    (plain' : ∀ c ∈ extension.toList, isSeparator c = false) (dotless : '.' ∉ extension.toList)
    (some : name ≠ "") (directory : String) :
    stem (directory ++ "/" ++ name ++ "." ++ extension) = name := by
  have file : ∀ c ∈ name.toList ++ '.' :: extension.toList, isSeparator c = false := by
    simp only [List.forall_mem_append, List.forall_mem_cons]
    exact ⟨plain, by decide, plain'⟩
  have path : (directory ++ "/" ++ name ++ "." ++ extension).toList =
      directory.toList ++ '/' :: (name.toList ++ '.' :: extension.toList) := by simp
  rw [stem, path, lastComponent_append file (by decide),
    dropExtension_append dotless (by simpa using some), String.ofList_toList]

end Path

theorem slugify_game_eq_iff (kind : MediaType) (name : String) :
    slugify kind name = slugify .game name ↔
      (kind = .tvShow → ∀ word ∈ Slug.plainWords name.toList, Slug.spellEpisode word = word) := by
  rw [slugify, slugify, String.ofList_inj]
  by_cases television : kind = .tvShow
  next =>
    subst television
    simp [Slug.chars_tvShow_eq_iff]
  next => simp [Slug.chars_eq, Slug.joined, television]

namespace Store

variable {store : Store} {hit : Hit} {systems : List String} {path : String}

def pathFilter (systems : List String) (path : String) : Filter :=
  [.systemIn systems, .slugIs (Path.slug path), .pathIs path]

theorem mem_select_pathFilter (keyed : store.catalog.AllKeyed) :
    hit ∈ store.catalog.select (pathFilter systems path) ↔
      store.catalog.Joins hit ∧ hit.system.code ∈ systems ∧
        hit.title.slug = Path.slug path ∧ hit.medium.path = path := by
  simp [pathFilter, Catalog.select, keyed.mem_hits, Clause.holds]

theorem searchPath_ok (present : store.missing = []) (some : systems ≠ [])
    {results : List PathResult} : store.searchPath systems path = .ok results ↔
      systems.length + 2 ≤ variableLimit ∧
        (((store.catalog.select (pathFilter systems path)).mergeSort
          (meetsFirst systems)).head?.map Hit.pathResult).toList = results := by
  have binds : (pathFilter systems path).binds.length = systems.length + 2 := by
    simp [pathFilter, Filter.binds, Clause.binds]
  have selected (hits : List Hit) : asked (store.select (pathFilter systems path) 0) = .ok hits ↔
      systems.length + 2 ≤ variableLimit ∧
        store.catalog.select (pathFilter systems path) = hits := by
    rw [asked_eq_ok, select_ok present, binds, Nat.add_zero]
  rw [searchPath, if_neg (by simpa using some), ← pathFilter]
  cases found : asked (store.select (pathFilter systems path) 0) with
  | error error =>
    have few : ¬systems.length + 2 ≤ variableLimit := fun few => by
      simpa [found] using (selected _).2 ⟨few, rfl⟩
    simp [bind, Except.bind, few]
  | ok hits =>
    obtain ⟨few, rfl⟩ := (selected hits).1 found
    simp [bind, Except.bind, few, pure, Except.pure]

theorem searchPath_single_iff (present : store.missing = []) (keyed : store.catalog.AllKeyed)
    (some : systems ≠ []) :
    (∃ result, store.searchPath systems path = .ok [result] ∧ result.path = path) ↔
      systems.length + 2 ≤ variableLimit ∧
        ∃ hit, store.catalog.Joins hit ∧ hit.system.code ∈ systems ∧
          hit.title.slug = Path.slug path ∧ hit.medium.path = path := by
  simp only [searchPath_ok present some, ← mem_select_pathFilter keyed]
  constructor
  next =>
    rintro ⟨result, ⟨few, shown⟩, -⟩
    refine ⟨few, List.exists_mem_of_ne_nil _ fun none => ?_⟩
    simp [none] at shown
  next =>
    rintro ⟨few, hit, member⟩
    have some : (store.catalog.select (pathFilter systems path)).mergeSort (meetsFirst systems) ≠ [] :=
      List.ne_nil_of_mem (List.mem_mergeSort.2 member)
    obtain ⟨first, others, sorted⟩ := List.exists_cons_of_ne_nil some
    have listed : first ∈ store.catalog.select (pathFilter systems path) :=
      List.mem_mergeSort.1 (sorted ▸ List.mem_cons_self)
    exact ⟨first.pathResult, ⟨few, by rw [sorted]; rfl⟩,
      ((mem_select_pathFilter keyed).1 listed).2.2.2⟩

/-- The path of a file that is named after its title is found with a list of systems, unless they are too
many for a statement, or the title is one of television and a word of it is an episode marker in another
spelling. -/
theorem finds_by_path (present : store.missing = []) (keyed : store.catalog.AllKeyed)
    (joins : store.catalog.Joins hit) {name extension directory : String}
    (plain : ∀ c ∈ name.toList, Path.isSeparator c = false)
    (plain' : ∀ c ∈ extension.toList, Path.isSeparator c = false) (dotless : '.' ∉ extension.toList)
    (titled : hit.title = { Title.ofName hit.title.systemId (.ofSystemCode hit.system.code) name with
      id := hit.title.id }) (slugged : hit.title.slug ≠ "")
    (placed : hit.medium.path = directory ++ "/" ++ name ++ "." ++ extension)
    (listed : hit.system.code ∈ systems) :
    (∃ result, store.searchPath systems hit.medium.path = .ok [result] ∧
      result.path = hit.medium.path) ↔
      systems.length + 2 ≤ variableLimit ∧
        ((MediaType.ofSystemCode hit.system.code = .tvShow →
            ∀ word ∈ Slug.plainWords name.toList, Slug.spellEpisode word = word) ∨
          ∃ other, store.catalog.Joins other ∧ other.system.code ∈ systems ∧
            other.title.slug = slugify .game name ∧ other.medium.path = hit.medium.path) := by
  have own : hit.title.slug = slugify (.ofSystemCode hit.system.code) name :=
    congrArg Title.slug titled
  have some : name ≠ "" := by
    rintro rfl
    rw [own, slugify] at slugged
    simp [Slug.chars_nil] at slugged
  have slug : Path.slug hit.medium.path = slugify .game name := by
    rw [Path.slug, placed, Path.stem_append plain plain' dotless some]
  rw [searchPath_single_iff present keyed (List.ne_nil_of_mem listed), slug, ← slugify_game_eq_iff]
  refine and_congr_right fun _ => ⟨.inr, ?_⟩
  rintro (same | found)
  next => exact ⟨hit, joins, listed, own.trans same, rfl⟩
  next => exact found

theorem finds_by_path_lost :
    let hit := Catalog.named "TVEpisode" "Lost s01e05" "/media/tv/Lost s01e05.mkv"
    let store : Store := { catalog := .single hit }
    ∃ result, store.searchPath ["NES", "TVEpisode"] "/media/tv/Lost s01e05.mkv" = .ok [result] ∧
      result.path = "/media/tv/Lost s01e05.mkv" := by
  intro hit store
  have joins : store.catalog.Joins hit := Catalog.single_joins_named _ _ _
  have separatorless : (["Lost s01e05", "mkv"].all fun part =>
      part.toList.all (!Path.isSeparator ·)) = true := by
    decide +kernel
  have plain (part : String) (listed : part ∈ ["Lost s01e05", "mkv"]) :
      ∀ c ∈ part.toList, Path.isSeparator c = false := fun c member => by
    simpa using List.all_eq_true.1 (List.all_eq_true.1 separatorless part listed) c member
  have placed : hit.medium.path = "/media/tv" ++ "/" ++ "Lost s01e05" ++ "." ++ "mkv" := by
    decide +kernel
  have listed : hit.system.code ∈ ["NES", "TVEpisode"] := by decide
  have spelled : ∀ word ∈ Slug.plainWords "Lost s01e05".toList, Slug.spellEpisode word = word := by
    decide +kernel
  exact (finds_by_path rfl (Catalog.single_keyed hit) joins (plain _ (by decide)) (plain _ (by decide))
    (by decide +kernel) rfl (by decide +kernel) placed listed).2 ⟨by decide, .inl fun _ => spelled⟩

theorem searchPath_lost :
    let name := "Lost 1x05"
    let hit := Catalog.named "TVEpisode" name ("/roms/TVEpisode" ++ "/" ++ name ++ "." ++ "zip")
    let store : Store := { catalog := .single hit }
    name.toList.all (!Path.isSeparator ·) = true ∧ hit.title.slug = "losts01e05" ∧
      store.catalog.media = [hit.medium] ∧
        store.searchPath ["TVEpisode"] hit.medium.path = .ok [] := by
  decide +kernel

end Store

end MediaCatalog
