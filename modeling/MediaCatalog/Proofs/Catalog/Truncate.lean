import MediaCatalog.Catalog.Delete
import MediaCatalog.Proofs.Catalog.Integrity

set_option autoImplicit false

namespace MediaCatalog.Catalog

theorem mem_idsWhere {α : Type} [Row α] {property : α → Bool} {rows : List α} {id : Int} :
    id ∈ idsWhere property rows ↔ ∃ row ∈ rows, property row = true ∧ Row.id row = id := by
  simp [idsWhere, Table.ids, and_assoc]

theorem contains_idsWhere_of_free {α : Type} [Row α] {property : α → Bool} {rows : List α}
    {id : Int} (free : ∀ row ∈ rows, property row = true → Row.id row ≠ id) :
    (idsWhere property rows).contains id = false := by
  simp only [List.contains_eq_mem, decide_eq_false_iff_not, mem_idsWhere]
  rintro ⟨row, member, gone, same⟩
  exact free row member gone same

theorem filter_not_of_none {α : Type} {property : α → Bool} {rows : List α}
    (none : ∀ row ∈ rows, property row = false) : rows.filter (!property ·) = rows := by
  rw [List.filter_eq_self]
  intro row member
  rw [none row member]
  rfl

section Deletions

variable {foreignKeys : ForeignKeys} {catalog : Catalog}

theorem deleteMediumTags_none {property : MediumTag → Bool}
    (none : ∀ link ∈ catalog.mediumTags, property link = false) :
    catalog.deleteMediumTags property = catalog := by
  rw [deleteMediumTags, filter_not_of_none none]

theorem deleteMedia_eq {property : Medium → Bool}
    (free : ∀ link ∈ catalog.mediumTags, ∀ medium ∈ catalog.media, property medium = true →
      medium.id ≠ link.mediumId) :
    catalog.deleteMedia foreignKeys property =
      { catalog with media := catalog.media.filter (!property ·) } := by
  rw [deleteMedia]
  cases foreignKeys with
  | false => rfl
  | true =>
    rw [if_pos rfl]
    exact deleteMediumTags_none fun link member => contains_idsWhere_of_free (free link member)

theorem deleteMedia_none {property : Medium → Bool}
    (none : ∀ medium ∈ catalog.media, property medium = false) :
    catalog.deleteMedia foreignKeys property = catalog := by
  rw [deleteMedia_eq, filter_not_of_none none]
  intro link _ medium present gone
  simp [none medium present] at gone

theorem deleteTitles_eq {property : Title → Bool}
    (free : ∀ medium ∈ catalog.media, ∀ title ∈ catalog.titles, property title = true →
      title.id ≠ medium.titleId) :
    catalog.deleteTitles foreignKeys property =
      { catalog with titles := catalog.titles.filter (!property ·) } := by
  rw [deleteTitles]
  cases foreignKeys with
  | false => rfl
  | true =>
    rw [if_pos rfl]
    exact deleteMedia_none fun medium member => contains_idsWhere_of_free (free medium member)

theorem deleteTitles_none {property : Title → Bool}
    (none : ∀ title ∈ catalog.titles, property title = false) :
    catalog.deleteTitles foreignKeys property = catalog := by
  rw [deleteTitles_eq, filter_not_of_none none]
  intro medium _ title present gone
  simp [none title present] at gone

theorem deleteSystems_eq {property : System → Bool}
    (untitled : ∀ title ∈ catalog.titles, ∀ system ∈ catalog.systems, property system = true →
      system.id ≠ title.systemId)
    (empty : ∀ medium ∈ catalog.media, ∀ system ∈ catalog.systems, property system = true →
      system.id ≠ medium.systemId) :
    catalog.deleteSystems foreignKeys property =
      { catalog with systems := catalog.systems.filter (!property ·) } := by
  rw [deleteSystems]
  cases foreignKeys with
  | false => rfl
  | true =>
    rw [if_pos rfl, deleteTitles_none, deleteMedia_none]
    next => exact fun medium member => contains_idsWhere_of_free (empty medium member)
    next => exact fun title member => contains_idsWhere_of_free (untitled title member)

theorem deleteTags_eq {property : Tag → Bool}
    (free : ∀ link ∈ catalog.mediumTags, ∀ tag ∈ catalog.tags, property tag = true →
      tag.id ≠ link.tagId) :
    catalog.deleteTags foreignKeys property =
      { catalog with tags := catalog.tags.filter (!property ·) } := by
  rw [deleteTags]
  cases foreignKeys with
  | false => rfl
  | true =>
    rw [if_pos rfl]
    exact deleteMediumTags_none fun link member => contains_idsWhere_of_free (free link member)

theorem deleteTags_none {property : Tag → Bool}
    (none : ∀ tag ∈ catalog.tags, property tag = false) :
    catalog.deleteTags foreignKeys property = catalog := by
  rw [deleteTags_eq, filter_not_of_none none]
  intro link _ tag present gone
  simp [none tag present] at gone

theorem deleteTagTypes_eq {property : TagType → Bool}
    (free : ∀ tag ∈ catalog.tags, ∀ type ∈ catalog.tagTypes, property type = true →
      type.id ≠ tag.typeId) :
    catalog.deleteTagTypes foreignKeys property =
      { catalog with tagTypes := catalog.tagTypes.filter (!property ·) } := by
  rw [deleteTagTypes]
  cases foreignKeys with
  | false => rfl
  | true =>
    rw [if_pos rfl]
    exact deleteTags_none fun tag member => contains_idsWhere_of_free (free tag member)

end Deletions

section Systems

variable (foreignKeys : ForeignKeys) (catalog : Catalog)

@[simp] theorem systems_deleteMedia (property : Medium → Bool) :
    (catalog.deleteMedia foreignKeys property).systems = catalog.systems := by
  cases foreignKeys <;> rfl

@[simp] theorem systems_deleteTitles (property : Title → Bool) :
    (catalog.deleteTitles foreignKeys property).systems = catalog.systems := by
  cases foreignKeys <;> rfl

@[simp] theorem systems_deleteSystems (property : System → Bool) :
    (catalog.deleteSystems foreignKeys property).systems =
      catalog.systems.filter (!property ·) := by
  cases foreignKeys <;> rfl

@[simp] theorem systems_deleteTags (property : Tag → Bool) :
    (catalog.deleteTags foreignKeys property).systems = catalog.systems := by
  cases foreignKeys <;> rfl

@[simp] theorem systems_deleteTagTypes (property : TagType → Bool) :
    (catalog.deleteTagTypes foreignKeys property).systems = catalog.systems := by
  cases foreignKeys <;> rfl

theorem systems_truncateSystems (codes : List String) :
    (truncateSystems foreignKeys codes catalog).systems =
      catalog.systems.filter fun system => !codes.contains system.code := by
  simp [truncateSystems, deleteMediumTags]

end Systems

def mediaOn (catalog : Catalog) (codes : List String) : List Int :=
  idsWhere (fun medium => (catalog.systemIds codes).contains medium.systemId) catalog.media

def remainingLinks (catalog : Catalog) (codes : List String) : List MediumTag :=
  catalog.mediumTags.filter fun link => !(catalog.mediaOn codes).contains link.mediumId

def remainingTags (catalog : Catalog) (codes : List String) : List Tag :=
  catalog.tags.filter fun tag => ((catalog.remainingLinks codes).map (·.tagId)).contains tag.id

def remaining (catalog : Catalog) (codes : List String) : Catalog where
  systems := catalog.systems.filter fun system => !codes.contains system.code
  titles := catalog.titles.filter fun title => !(catalog.systemIds codes).contains title.systemId
  media := catalog.media.filter fun medium => !(catalog.systemIds codes).contains medium.systemId
  tagTypes := catalog.tagTypes.filter fun type =>
    ((catalog.remainingTags codes).map (·.typeId)).contains type.id
  tags := catalog.remainingTags codes
  mediumTags := catalog.remainingLinks codes

theorem mem_systemIds {catalog : Catalog} {codes : List String} {id : Int} :
    id ∈ catalog.systemIds codes ↔
      ∃ system ∈ catalog.systems, system.code ∈ codes ∧ system.id = id := by
  rw [systemIds, mem_idsWhere]
  simp only [List.contains_eq_mem, decide_eq_true_eq]
  rfl

theorem mem_mediaOn {catalog : Catalog} {codes : List String} {id : Int} :
    id ∈ catalog.mediaOn codes ↔
      ∃ medium ∈ catalog.media, medium.systemId ∈ catalog.systemIds codes ∧ medium.id = id := by
  rw [mediaOn, mem_idsWhere]
  simp only [List.contains_eq_mem, decide_eq_true_eq]
  rfl

theorem mem_remainingLinks {catalog : Catalog} {codes : List String} {link : MediumTag} :
    link ∈ catalog.remainingLinks codes ↔
      link ∈ catalog.mediumTags ∧ link.mediumId ∉ catalog.mediaOn codes := by
  simp [remainingLinks]

theorem mem_remainingTags {catalog : Catalog} {codes : List String} {tag : Tag} :
    tag ∈ catalog.remainingTags codes ↔
      tag ∈ catalog.tags ∧ ∃ link ∈ catalog.remainingLinks codes, link.tagId = tag.id := by
  simp [remainingTags]

theorem mem_media_remaining {catalog : Catalog} {codes : List String} {medium : Medium} :
    medium ∈ (catalog.remaining codes).media ↔
      medium ∈ catalog.media ∧ medium.systemId ∉ catalog.systemIds codes := by
  simp [remaining]

theorem mem_titles_remaining {catalog : Catalog} {codes : List String} {title : Title} :
    title ∈ (catalog.remaining codes).titles ↔
      title ∈ catalog.titles ∧ title.systemId ∉ catalog.systemIds codes := by
  simp [remaining]

theorem mem_systems_remaining {catalog : Catalog} {codes : List String} {system : System} :
    system ∈ (catalog.remaining codes).systems ↔
      system ∈ catalog.systems ∧ system.code ∉ codes := by
  simp [remaining]

theorem mem_tagTypes_remaining {catalog : Catalog} {codes : List String} {type : TagType} :
    type ∈ (catalog.remaining codes).tagTypes ↔
      type ∈ catalog.tagTypes ∧ ∃ tag ∈ catalog.remainingTags codes, tag.typeId = type.id := by
  simp [remaining]

theorem truncateSystems_eq {catalog : Catalog} (linked : Linked catalog)
    (foreignKeys : ForeignKeys) (codes : List String) :
    truncateSystems foreignKeys codes catalog = catalog.remaining codes := by
  let left := catalog.remaining codes
  -- Each deletion finds that those before it have taken all that refers to its rows.
  have media : deleteMedia foreignKeys
      (fun medium => (catalog.systemIds codes).contains medium.systemId)
      (catalog.deleteMediumTags fun link => (catalog.mediaOn codes).contains link.mediumId) =
        { catalog with media := left.media, mediumTags := left.mediumTags } := by
    apply deleteMedia_eq
    intro link kept medium present gone same
    apply (mem_remainingLinks.1 kept).2
    exact mem_mediaOn.2 ⟨medium, present, by simpa using gone, same⟩
  have titles : deleteTitles foreignKeys
      (fun title => (catalog.systemIds codes).contains title.systemId)
      { catalog with media := left.media, mediumTags := left.mediumTags } =
        { catalog with
          titles := left.titles, media := left.media, mediumTags := left.mediumTags } := by
    apply deleteTitles_eq
    intro medium kept title present gone same
    obtain ⟨member, elsewhere⟩ := mem_media_remaining.1 kept
    apply elsewhere
    rw [← linked.same_system member present same]
    simpa using gone
  have systems : deleteSystems foreignKeys (fun system => codes.contains system.code)
      { catalog with titles := left.titles, media := left.media, mediumTags := left.mediumTags } =
        { left with tagTypes := catalog.tagTypes, tags := catalog.tags } := by
    apply deleteSystems_eq
    next =>
      intro title kept system present gone same
      apply (mem_titles_remaining.1 kept).2
      exact mem_systemIds.2 ⟨system, present, by simpa using gone, same⟩
    next =>
      intro medium kept system present gone same
      apply (mem_media_remaining.1 kept).2
      exact mem_systemIds.2 ⟨system, present, by simpa using gone, same⟩
  -- From here on a row goes because nothing that is left refers to it.
  have tags : deleteTags foreignKeys (fun tag => !(left.mediumTags.map (·.tagId)).contains tag.id)
      { left with tagTypes := catalog.tagTypes, tags := catalog.tags } =
        { left with tagTypes := catalog.tagTypes } := by
    rw [deleteTags_eq]
    next => simp only [Bool.not_not]; rfl
    next =>
      intro link kept tag _ unused same
      simp only [Bool.not_eq_true', List.contains_eq_mem, decide_eq_false_iff_not] at unused
      exact unused (List.mem_map.2 ⟨link, kept, same.symm⟩)
  have tagTypes : deleteTagTypes foreignKeys
      (fun type => !(left.tags.map (·.typeId)).contains type.id)
      { left with tagTypes := catalog.tagTypes } = left := by
    rw [deleteTagTypes_eq]
    next => simp only [Bool.not_not]; rfl
    next =>
      intro tag kept type _ unused same
      simp only [Bool.not_eq_true', List.contains_eq_mem, decide_eq_false_iff_not] at unused
      exact unused (List.mem_map.2 ⟨tag, kept, same.symm⟩)
  rw [mediaOn] at media
  rw [truncateSystems, media, titles, systems, tags, tagTypes]

theorem contains_of_remaining {catalog : Catalog} {codes : List String} {row : CatalogRow}
    (left : (catalog.remaining codes).Contains row) : catalog.Contains row := by
  cases row with
  | system => exact (mem_systems_remaining.1 left).1
  | title => exact (mem_titles_remaining.1 left).1
  | medium => exact (mem_media_remaining.1 left).1
  | tagType => exact (mem_tagTypes_remaining.1 left).1
  | tag => exact (mem_remainingTags.1 left).1
  | mediumTag => exact (mem_remainingLinks.1 left).1

theorem mem_systems_remaining_of_id {catalog : Catalog} {codes : List String} {system : System}
    (member : system ∈ catalog.systems) (elsewhere : system.id ∉ catalog.systemIds codes) :
    system ∈ (catalog.remaining codes).systems :=
  mem_systems_remaining.2
    ⟨member, fun gone => elsewhere (mem_systemIds.2 ⟨system, member, gone, rfl⟩)⟩

theorem Linked.remaining {catalog : Catalog} (linked : Linked catalog) (codes : List String) :
    Linked (catalog.remaining codes) where
  agrees row left := by
    cases row with
    | medium medium =>
      simp only [rowAgrees, mediumAgrees, List.all_eq_true, decide_eq_true_eq]
      intro title known
      exact linked.same_system (mem_media_remaining.1 left).1 (mem_titles_remaining.1 known).1
    | _ => rfl
  parents row left := by
    cases row with
    | system | tagType => rfl
    | title title =>
      obtain ⟨member, elsewhere⟩ := mem_titles_remaining.1 left
      obtain ⟨system, known, same⟩ := linked.system_of_title member
      exact Table.isSome_byId?.2
        ⟨system, mem_systems_remaining_of_id known (same ▸ elsewhere), same⟩
    | medium medium =>
      obtain ⟨member, elsewhere⟩ := mem_media_remaining.1 left
      obtain ⟨title, titled, sameTitle⟩ := linked.title_of_medium member
      obtain ⟨system, known, same⟩ := linked.system_of_medium member
      -- A medium that stays lies on the system of its title, and so the title stays too.
      have titleLeft : title ∈ (catalog.remaining codes).titles := by
        apply mem_titles_remaining.2
        rw [linked.same_system member titled sameTitle]
        exact ⟨titled, elsewhere⟩
      exact Bool.and_eq_true_iff.2
        ⟨Table.isSome_byId?.2 ⟨title, titleLeft, sameTitle⟩,
          Table.isSome_byId?.2
            ⟨system, mem_systems_remaining_of_id known (same ▸ elsewhere), same⟩⟩
    | tag tag =>
      obtain ⟨type, known, same⟩ := linked.type_of_tag (mem_remainingTags.1 left).1
      exact Table.isSome_byId?.2
        ⟨type, mem_tagTypes_remaining.2 ⟨known, tag, left, same.symm⟩, same⟩
    | mediumTag link =>
      obtain ⟨member, elsewhere⟩ := mem_remainingLinks.1 left
      obtain ⟨medium, shelved, sameMedium⟩ := linked.medium_of_link member
      obtain ⟨tag, known, sameTag⟩ := linked.tag_of_link member
      have mediumLeft : medium ∈ (catalog.remaining codes).media :=
        mem_media_remaining.2 ⟨shelved, fun gone =>
          elsewhere (mem_mediaOn.2 ⟨medium, shelved, gone, sameMedium⟩)⟩
      exact Bool.and_eq_true_iff.2
        ⟨Table.isSome_byId?.2 ⟨medium, mediumLeft, sameMedium⟩,
          Table.isSome_byId?.2
            ⟨tag, mem_remainingTags.2 ⟨known, link, left, sameTag.symm⟩, sameTag⟩⟩

theorem Integrity.remaining {catalog : Catalog} (integrity : Integrity catalog)
    (codes : List String) : Integrity (catalog.remaining codes) where
  positive row left := integrity.positive row (contains_of_remaining left)
  unique a b first second :=
    integrity.unique a b (contains_of_remaining first) (contains_of_remaining second)
  parents := (integrity.linked.remaining codes).parents
  agrees := (integrity.linked.remaining codes).agrees

theorem Integrity.truncateSystems {catalog : Catalog} (integrity : Integrity catalog)
    (foreignKeys : ForeignKeys) (codes : List String) :
    Integrity (truncateSystems foreignKeys codes catalog) := by
  rw [truncateSystems_eq integrity.linked]
  exact integrity.remaining codes

end MediaCatalog.Catalog
