import MediaCatalog.Proofs.Catalog.MediumTags
import MediaCatalog.Proofs.Store.Undisturbed
import MediaCatalog.Proofs.Running

set_option autoImplicit false

namespace MediaCatalog

def Text.IsYear (text : String) : Prop :=
  text.toList.length = 4 ∧ text.toList.all isDigit = true

def Least (kind : String → Prop) : Option String → Prop
  | none => ∀ text, ¬ kind text
  | some text => kind text ∧ ∀ other, kind other → (compare text other).isLE = true

namespace TagInfo

theorem isYear_iff {tag : TagInfo} :
    tag.isYear = true ↔ tag.type = "year" ∧ Text.IsYear tag.tag := by
  simp [isYear, Text.IsYear, and_assoc]

theorem year?_least {tags : List TagInfo}
    (sorted : tags.Pairwise fun a b => (compare a b).isLE = true) :
    Least (fun text => ⟨"year", text⟩ ∈ tags ∧ Text.IsYear text) (year? tags) := by
  cases found : tags.find? isYear with
  | none =>
    rw [year?, found]
    rintro text ⟨listed, dated⟩
    exact List.find?_eq_none.1 found _ listed (isYear_iff.2 ⟨rfl, dated⟩)
  | some tag =>
    obtain ⟨dated, front, rest, rfl, before⟩ := List.find?_eq_some_iff_append.1 found
    obtain ⟨typed, dated⟩ := isYear_iff.1 dated
    rw [year?, found]
    obtain ⟨type, value⟩ := tag
    subst typed
    refine ⟨⟨List.mem_append_right _ List.mem_cons_self, dated⟩, ?_⟩
    rintro other ⟨listed, dated'⟩
    have isYear : TagInfo.isYear ⟨"year", other⟩ = true := isYear_iff.2 ⟨rfl, dated'⟩
    rcases List.mem_append.1 listed with earlier | later
    next => simpa [isYear] using before _ earlier
    next =>
      have below := isLE_head (List.pairwise_append.1 sorted).2.1 later
      simpa [compare] using below

end TagInfo

namespace Catalog

variable {catalog : Catalog}

def shown (catalog : Catalog) (withYear : Bool) (hit : Hit) : MediumResult :=
  let tags := catalog.tagInfos hit.medium.id
  hit.mediumResult tags (if withYear then TagInfo.year? tags else none)

theorem hits_distinct (distinct : (Table.ids catalog.media).Nodup) :
    (catalog.hits.map (·.medium.id)).Nodup := by
  refine List.pairwise_map.2 (List.Pairwise.filterMap _ ?_ (List.pairwise_map.1 distinct))
  intro medium other different hit found hit' found'
  rwa [hit?_medium found, hit?_medium found']

theorem select_distinct (distinct : (Table.ids catalog.media).Nodup) (filter : Filter) :
    ((catalog.select filter).map (·.medium.id)).Nodup :=
  (hits_distinct distinct).sublist (List.filter_sublist.map _)

theorem Ordered.ids (ordered : Ordered catalog) : (Table.ids catalog.media).Nodup :=
  List.pairwise_map.2 (ordered.imp fun below => Int.ne_of_lt below)

theorem distinct_firstByName {hits : List Hit} (distinct : (hits.map (·.medium.id)).Nodup) :
    ((((hits.mergeSort Store.slugOrder).take Store.slugLimit).mergeSort Store.nameOrder).map
      (·.medium.id)).Nodup := by
  have arranged (hits : List Hit) (order : Hit → Hit → Bool) :
      ((hits.mergeSort order).map (·.medium.id)).Nodup ↔ (hits.map (·.medium.id)).Nodup :=
    ((List.mergeSort_perm hits order).map _).nodup_iff
  rw [arranged]
  exact ((arranged _ _).2 distinct).sublist ((List.take_sublist _ _).map _)

end Catalog

namespace Store

variable {store : Store} {withYear : Bool} {hits : List Hit} {results : List MediumResult}

theorem attachTags_eq {catalog : Catalog} {gathered : TagsByMedium}
    (distinct : (hits.map (·.medium.id)).Nodup)
    (loaded : ∀ hit ∈ hits, gathered.of hit.medium.id = catalog.tagInfos hit.medium.id) :
    attachTags withYear hits gathered = hits.map (catalog.shown withYear) := by
  induction hits generalizing gathered with
  | nil => rfl
  | cons hit rest ih =>
    obtain ⟨fresh, distinct⟩ := List.nodup_cons.1 distinct
    obtain ⟨own, loaded⟩ := List.forall_mem_cons.1 loaded
    rw [attachTags, own, List.map_cons, ih distinct fun other member => ?_]
    next => rfl
    next =>
      have different : other.medium.id ≠ hit.medium.id :=
        fun same => fresh (List.mem_map.2 ⟨other, member, same⟩)
      -- The tags of the hits that are left have not been taken away.
      rw [TagsByMedium.of_without, if_neg different, loaded other member]

theorem describe_ok_iff (distinct : (hits.map (·.medium.id)).Nodup) :
    store.describe withYear hits = .ok results ↔
      (hits ≠ [] → store.prepare hits.length [.mediumTags] = .ok ()) ∧
        results = hits.map (store.catalog.shown withYear) := by
  have attached : attachTags withYear hits
      (TagsByMedium.gather (store.catalog.tagRows (hits.map (·.medium.id)))) =
        hits.map (store.catalog.shown withYear) := by
    refine attachTags_eq distinct fun hit member => ?_
    rw [TagsByMedium.of_gather]
    exact Catalog.tagRows_of (List.mem_map.2 ⟨hit, member, rfl⟩)
  rw [describe]
  split
  next empty => simp [List.isEmpty_iff.1 empty, eq_comm]
  next some =>
    rw [asked_eq_ok, reading_ok, attached]
    simp [List.isEmpty_iff.not.1 some, eq_comm]

theorem describe_present (present : store.missing = [])
    (distinct : (hits.map (·.medium.id)).Nodup) (few : hits.length ≤ variableLimit) :
    store.describe withYear hits = .ok (hits.map (store.catalog.shown withYear)) :=
  (describe_ok_iff distinct).2 ⟨fun _ => prepare_ok.2 ⟨few, by simp [present]⟩, rfl⟩

end Store

end MediaCatalog
