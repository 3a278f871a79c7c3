import MediaCatalog.Proofs.Engine.TagListing
import Mathlib.Data.List.Nodup

set_option autoImplicit false

namespace MediaCatalog

def Store.cachedTriples (store : Store) (systemId : Int) : List (Int × String × String) :=
  (store.systemTags.filter (·.systemId = systemId)).map fun tag => (tag.tagId, tag.type, tag.value)

def Catalog.GivesTag (catalog : Catalog) (systemId : Int) (triple : Int × String × String) : Prop :=
  ∃ link ∈ catalog.mediumTags, ∃ medium title system value type,
    catalog.Leads link medium title system value type ∧ system.id = systemId ∧
      triple = (value.id, type.name, value.value)

namespace Store

variable {store after : Store} {systemId : Int}

theorem mem_cachedTriples {triple : Int × String × String} :
    triple ∈ store.cachedTriples systemId ↔
      ⟨systemId, triple.1, triple.2.1, triple.2.2⟩ ∈ store.systemTags := by
  simp only [cachedTriples, List.mem_map, List.mem_filter, decide_eq_true_eq]
  constructor
  next =>
    rintro ⟨tag, ⟨member, rfl⟩, rfl⟩
    exact member
  next => exact fun member => ⟨_, ⟨member, rfl⟩, rfl⟩

theorem nodup_cachedTriples (distinct : store.systemTags.Nodup) (systemId : Int) :
    (store.cachedTriples systemId).Nodup := by
  refine List.Nodup.map_on ?_ (distinct.filter _)
  intro a first b second same
  have system : a.systemId = b.systemId := by
    simp only [List.mem_filter, decide_eq_true_eq] at first second
    rw [first.2, second.2]
  cases a
  cases b
  simp only [Prod.mk.injEq] at same
  simp only [SystemTag.mk.injEq]
  exact ⟨system, same⟩

theorem nodup_populated (distinct : store.systemTags.Nodup) (ids : List Int) :
    (store.populated ids).systemTags.Nodup := by
  refine (distinct.filter _).append ((nodup_eraseDups _).filter _) ?_
  intro tag old fresh
  exact (SystemTag.mem_without.1 old).2 (Catalog.mem_systemTagsOf.1 fresh).2

theorem CachesExactly.mem_cachedTriples_iff (faithful : store.CachesExactly)
    (integrity : store.catalog.Integrity) (cached : store.Caches systemId)
    (triple : Int × String × String) :
    triple ∈ store.cachedTriples systemId ↔ store.catalog.GivesTag systemId triple := by
  obtain ⟨tagId, type, value⟩ := triple
  rw [mem_cachedTriples, faithful _ cached, Catalog.mem_systemTags]
  simp only [integrity.uniqueIds.systemTag?_eq_some, SystemTag.mk.injEq, Catalog.GivesTag,
    Prod.mk.injEq, eq_comm (a := systemId)]

theorem CachesExactly.system_of_cached (faithful : store.CachesExactly)
    (integrity : store.catalog.Integrity) (cached : store.Caches systemId) :
    ∃ system ∈ store.catalog.systems, system.id = systemId := by
  obtain ⟨tag, member, rfl⟩ := cached
  obtain ⟨link, -, described⟩ :=
    Catalog.mem_systemTags.1 ((faithful tag ⟨tag, member, rfl⟩).1 member)
  obtain ⟨medium, title, system, value, type, leads, rfl⟩ :=
    integrity.uniqueIds.systemTag?_eq_some.1 described
  exact ⟨system, leads.system.1, rfl⟩

end Store

namespace Engine

theorem kept_distinctTags (foreignKeys : Bool) (good : CatalogRow → Prop) :
    Kept foreignKeys good fun store => store.systemTags.Nodup := by
  intro store after distinct effect
  cases effect with
  | truncate | clearSystemTags => exact List.nodup_nil
  | clearSystemTagsOf ids => exact distinct.filter _
  | populate => exact nodup_eraseDups _
  | populateOf ids => exact Store.nodup_populated distinct ids
  | _ => exact distinct

variable {engine : Engine} {configs : Config → Prop} {calls : Call → Prop}

theorem Reachable.distinctTags (reached : Reachable configs calls engine) :
    Holds (fun store => store.systemTags.Nodup) (fun _ => True) engine := by
  apply reached.holds (kept_distinctTags true _)
  next => exact fun config _ => kept_distinctTags config.foreignKeys _
  next => exact List.nodup_nil
  next => exact fun _ => id
  next => exact fun _ _ _ _ => trivial

/-- Outside a transaction there is one version of the store, and whatever is cached for a system that
has anything cached is what the catalog gives it. -/
theorem cachedTriples_current (reached : Reachable configs calls engine)
    (linked : ∀ config, configs config → config.foreignKeys = true)
    (nonnegative : ∀ call, calls call → Nonnegative call) (idle : engine.active = false) :
    let store := engine.committed
    engine.working = none ∧ ∀ systemId, store.cachedTriples systemId = [] ∨
      (∃ system ∈ store.catalog.systems, system.id = systemId) ∧
        (store.cachedTriples systemId).Nodup ∧
        ∀ triple, triple ∈ store.cachedTriples systemId ↔
          store.catalog.GivesTag systemId triple := by
  intro store
  have closed : engine.working = none := by
    have working := reached.sound.working
    simpa [idle] using working
  have integrity := (reached.integrity linked nonnegative).committed
  have faithful := reached.cachesExactly linked nonnegative
  refine ⟨closed, fun systemId => ?_⟩
  by_cases cached : store.Caches systemId
  next =>
    exact .inr ⟨faithful.system_of_cached integrity cached,
      Store.nodup_cachedTriples reached.distinctTags.committed systemId,
      faithful.mem_cachedTriples_iff integrity cached⟩
  next =>
    refine .inl (List.eq_nil_iff_forall_not_mem.2 fun triple member => cached ?_)
    exact ⟨_, Store.mem_cachedTriples.1 member, rfl⟩

def halfTruncated : List Call :=
  [.populateTags, .truncateSystems ["SNES"], .begin false,
    .insert (.system { code := "GB", name := "Game Boy" }), .rollback]

theorem cachedTriples_current_half_truncated :
    let engine := run {} (twoGames.map .insert ++ halfTruncated)
    Reachable (fun config => config.foreignKeys = true) Nonnegative engine ∧
      engine.active = false ∧
      engine.committed.cachedTriples 2 = [] ∧
      engine.committed.cachedTriples 1 = [(1, "region", "usa")] ∧
      engine.committed.catalog.GivesTag 1 (1, "region", "usa") := by
  intro engine
  have reached : Reachable (fun config => config.foreignKeys = true) Nonnegative engine := by
    apply Reachable.memory.run
    intro call member
    rcases List.mem_append.1 member with inserted | later
    next => exact nonnegative_twoGames call inserted
    next =>
      simp only [halfTruncated, List.mem_cons, List.not_mem_nil, or_false] at later
      rcases later with rfl | rfl | rfl | rfl | rfl
      next => exact nofun
      next => exact nofun
      next => exact nofun
      next =>
        rintro row allowed
        obtain rfl := Change.insert.inj allowed
        decide
      next => exact nofun
  have idle : engine.active = false := by decide +kernel
  have cached : engine.committed.cachedTriples 1 = [(1, "region", "usa")] := by decide +kernel
  refine ⟨reached, idle, by decide +kernel, cached, ?_⟩
  obtain ⟨-, current⟩ := cachedTriples_current reached (fun _ => id) (fun _ => id) idle
  rcases current 1 with none | ⟨-, -, same⟩
  next => simp [cached] at none
  next => exact (same _).1 (by simp [cached])

end Engine

end MediaCatalog
