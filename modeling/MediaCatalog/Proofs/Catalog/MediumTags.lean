import MediaCatalog.Proofs.Catalog.Order
import MediaCatalog.Proofs.Catalog.TagListing

set_option autoImplicit false

namespace MediaCatalog

namespace TagsByMedium

variable (tags : TagsByMedium) (id other : Int)

@[simp] theorem of_without :
    (tags.without id).of other = if other = id then [] else tags.of other := by
  simp only [of, without, List.find?_filter]
  split
  next same =>
    have none : tags.entries.find? (fun entry => decide ((decide (entry.1 ≠ id)) = true ∧
        decide (entry.1 = other) = true)) = none := by
      simp [List.find?_eq_none, same]
    rw [none]
    rfl
  next different =>
    congr 3
    funext entry
    by_cases same : entry.1 = other <;> simp [same, different]

@[simp] theorem of_push (row : Int × TagInfo) :
    (tags.push row).of id = if id = row.1 then tags.of id ++ [row.2] else tags.of id := by
  split
  next same => simp [push, of, same]
  next different =>
    have kept := of_without tags row.1 id
    rw [if_neg different] at kept
    rw [← kept]
    simp [push, of, Ne.symm different]

theorem of_foldl_push (rows : List (Int × TagInfo)) :
    (rows.foldl push tags).of id = tags.of id ++ (rows.filter (·.1 = id)).map (·.2) := by
  induction rows generalizing tags with
  | nil => simp
  | cons row rest ih =>
    rw [List.foldl_cons, ih, of_push, List.filter_cons]
    by_cases own : row.1 = id
    next => simp [own]
    next => simp [own, Ne.symm own]

theorem of_gather (rows : List (Int × TagInfo)) :
    (gather rows).of id = (rows.filter (·.1 = id)).map (·.2) :=
  of_foldl_push {} id rows

end TagsByMedium

namespace TagInfo

def ofKey (key : TagKey) : TagInfo :=
  ⟨key.1, key.2⟩

theorem ofKey_injective : Function.Injective ofKey := by
  rintro ⟨type, value⟩ ⟨type', value'⟩ same
  obtain ⟨types, values⟩ := mk.inj same
  exact Prod.ext types values

end TagInfo

namespace Catalog

variable {catalog : Catalog}

instance : Std.TransCmp compareShown :=
  inferInstanceAs (Std.TransCmp (compareLex (compareOn Prod.fst) (compareOn Prod.snd)))

instance : Std.TransCmp compareRows :=
  inferInstanceAs (Std.TransCmp (compareLex (compareOn Prod.fst)
    (compareLex (compareOn (Prod.fst ∘ Prod.snd)) (compareOn (Prod.snd ∘ Prod.snd)))))

def shownTags (catalog : Catalog) (mediumId : Int) : List (Option String × String) :=
  (catalog.mediumTags.filter (·.mediumId = mediumId)).filterMap fun link =>
    (catalog.tag? link.tagId).map catalog.shownTag

def tagInfos (catalog : Catalog) (mediumId : Int) : List TagInfo :=
  ((catalog.shownTags mediumId).mergeSort fun a b => (compareShown a b).isLE).map fun tag =>
    ⟨tag.1.getD "", tag.2⟩

theorem tagRows_of {ids : List Int} {id : Int} (asked : id ∈ ids) :
    ((catalog.tagRows ids).filter (·.1 = id)).map (·.2) = catalog.tagInfos id := by
  have own : ((catalog.mediumTags.filter fun link => ids.contains link.mediumId).filterMap fun link =>
      (catalog.tag? link.tagId).map fun tag => (link.mediumId, catalog.shownTag tag)).filter
        (fun row => decide (row.1 = id)) = (catalog.shownTags id).map (id, ·) := by
    rw [shownTags, List.map_filterMap, List.filter_filterMap, List.filterMap_filter,
      List.filterMap_filter]
    congr 1
    funext link
    by_cases same : link.mediumId = id
    next =>
      subst same
      cases catalog.tag? link.tagId <;> simp [asked]
    next => simp [same]
  have apart : ((catalog.shownTags id).mergeSort fun a b => (compareShown a b).isLE).map (id, ·) =
      ((catalog.shownTags id).map (id, ·)).mergeSort fun a b => (compareRows a b).isLE := by
    refine List.map_mergeSort fun a _ b _ => ?_
    simp [compareRows]
  simp only [tagRows, List.filter_map, Function.comp_def, filter_mergeSort, own, ← apart]
  simp [tagInfos]

def HasTag (catalog : Catalog) (mediumId : Int) (tag : TagInfo) : Prop :=
  catalog.Carries mediumId ⟨tag.type, tag.tag, .and⟩

namespace AllKeyed

variable (keyed : AllKeyed catalog)
include keyed

theorem tagKey?_eq_some {tag : Tag} {key : TagKey} :
    catalog.tagKey? tag = some key ↔
      ∃ type ∈ catalog.tagTypes, type.id = tag.typeId ∧ (type.name, tag.value) = key := by
  simp only [tagKey?, Option.map_eq_some_iff, keyed.uniqueIds.tagType?_eq_some, and_assoc]

theorem tag_eq_of_key {tag other : Tag} {key : TagKey} (known : tag ∈ catalog.tags)
    (known' : other ∈ catalog.tags) (found : catalog.tagKey? tag = some key)
    (found' : catalog.tagKey? other = some key) : tag = other := by
  obtain ⟨type, present, typed, rfl⟩ := keyed.tagKey?_eq_some.1 found
  obtain ⟨type', present', typed', same⟩ := keyed.tagKey?_eq_some.1 found'
  obtain ⟨name, value⟩ := Prod.mk.inj same
  have sameType : type' = type :=
    List.inj_on_of_nodup_map keyed.tagTypes.keys present' present name
  refine List.inj_on_of_nodup_map keyed.tags.keys known known' (Prod.ext ?_ value.symm)
  exact (typed.symm.trans (congrArg Row.id sameType.symm)).trans typed'

theorem nodup_tagKeys (id : Int) : (catalog.tagKeys id).Nodup := by
  have links := (List.pairwise_map.1 keyed.mediumTags.keys).filter fun link =>
    decide (link.mediumId = id)
  rw [tagKeys, List.Nodup, List.pairwise_filterMap]
  refine links.imp_of_mem fun {link other} listed listed' different key found key' found' same => ?_
  subst same
  simp only [Option.bind_eq_some_iff, keyed.uniqueIds.tag?_eq_some] at found found'
  obtain ⟨tag, ⟨known, linked⟩, named⟩ := found
  obtain ⟨tag', ⟨known', linked'⟩, named'⟩ := found'
  obtain rfl := keyed.tag_eq_of_key known known' named named'
  have media : link.mediumId = other.mediumId :=
    (of_decide_eq_true (List.mem_filter.1 listed).2).trans
      (of_decide_eq_true (List.mem_filter.1 listed').2).symm
  exact different (Prod.ext media (linked.symm.trans linked'))

end AllKeyed

namespace Coherent

variable (coherent : Coherent catalog) (id : Int)
include coherent

theorem tagInfos_eq :
    catalog.tagInfos id = TagInfo.sorted ((catalog.tagKeys id).map TagInfo.ofKey) := by
  have typed : catalog.shownTags id = ((catalog.tagKeys id).map TagInfo.ofKey).map fun tag =>
      (some tag.type, tag.tag) := by
    rw [shownTags, tagKeys, List.map_filterMap, List.map_filterMap]
    congr 1
    funext link
    cases found : catalog.tag? link.tagId with
    | none => rfl
    | some tag =>
      obtain ⟨type, known, same⟩ := coherent.tags tag (List.mem_of_find?_eq_some found)
      have typed : catalog.tagType? tag.typeId = some type :=
        coherent.keyed.tagTypes.byId?_eq_some.2 ⟨known, same⟩
      simp [tagKey?, shownTag, typed, TagInfo.ofKey]
  rw [tagInfos, typed, ← List.map_mergeSort (r := fun a b => (TagInfo.compare a b).isLE)
    fun _ _ _ _ => rfl, List.map_map]
  exact List.map_id _

theorem mem_tagInfos {tag : TagInfo} : tag ∈ catalog.tagInfos id ↔ catalog.HasTag id tag := by
  rw [coherent.tagInfos_eq, TagInfo.mem_sorted, HasTag, ← coherent.keyed.isTagged, isTagged,
    List.contains_iff_mem, ← List.mem_map_of_injective TagInfo.ofKey_injective]
  rfl

theorem nodup_tagInfos : (catalog.tagInfos id).Nodup := by
  rw [coherent.tagInfos_eq, TagInfo.sorted, (List.mergeSort_perm _ _).nodup_iff]
  exact (coherent.keyed.nodup_tagKeys id).map TagInfo.ofKey_injective

theorem sorted_tagInfos :
    (catalog.tagInfos id).Pairwise fun a b => (TagInfo.compare a b).isLE = true := by
  rw [coherent.tagInfos_eq]
  exact pairwise_mergeSort _

end Coherent

end Catalog

end MediaCatalog
