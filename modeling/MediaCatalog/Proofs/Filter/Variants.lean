import Mathlib.Data.List.Forall2
import Mathlib.Data.List.Perm.Subperm
import MediaCatalog.Filter.Build
import MediaCatalog.Proofs.Sorting

set_option autoImplicit false

namespace MediaCatalog

theorem KnownSystem.ofCode?_eq_none {code : String}
    (unknown : ∀ system : KnownSystem, system.code ≠ code) : ofCode? code = none :=
  List.find?_eq_none.2 fun system _ => by simpa using unknown system

theorem KnownSystem.code_of_ofCode? {code : String} {system : KnownSystem}
    (found : ofCode? code = some system) : system.code = code := by
  simpa using List.find?_some found

theorem slugify_of_ne_tvShow {kind : MediaType} (other : kind ≠ .tvShow) (text : String) :
    slugify kind text = slugify .game text := by
  simp [slugify, Slug.chars, Slug.words, other]

namespace SearchWords

/-- A kind of media that is searched: the one of a system among those named, which is game for systems
outside the registry, and game if no system is named. -/
inductive Searched (systems : List String) : MediaType → Prop
  | unnamed (none : systems = []) : Searched systems .game
  | known (system : KnownSystem) (listed : system.code ∈ systems) : Searched systems system.mediaType
  | unknown (code : String) (listed : code ∈ systems)
      (unknown : ∀ system : KnownSystem, system.code ≠ code) : Searched systems .game

theorem searched_ofSystemCode {systems : List String} {code : String} (listed : code ∈ systems) :
    Searched systems (MediaType.ofSystemCode code) := by
  rw [MediaType.ofSystemCode]
  split
  next system found => exact .known system (KnownSystem.code_of_ofCode? found ▸ listed)
  next missing =>
    refine .unknown code listed fun system same => ?_
    rw [← same, KnownSystem.ofCode?_code] at missing
    cases missing

theorem mediaTypes_nil : mediaTypes [] = [.game] := rfl

theorem mediaTypes_of_ne_nil {systems : List String} (some : systems ≠ []) :
    mediaTypes systems = systems.map MediaType.ofSystemCode :=
  if_neg (by simpa using some)

theorem mem_mediaTypes {systems : List String} {kind : MediaType} :
    kind ∈ mediaTypes systems ↔ Searched systems kind := by
  constructor
  next =>
    intro listed
    by_cases none : systems = []
    next =>
      subst none
      rw [mediaTypes_nil, List.mem_singleton] at listed
      exact listed ▸ .unnamed rfl
    next =>
      rw [mediaTypes_of_ne_nil none] at listed
      obtain ⟨code, named, rfl⟩ := List.mem_map.1 listed
      exact searched_ofSystemCode named
  next =>
    rintro (none | ⟨system, listed⟩ | ⟨code, listed, unknown⟩)
    next => simp [none, mediaTypes_nil]
    next =>
      rw [mediaTypes_of_ne_nil (List.ne_nil_of_mem listed)]
      refine List.mem_map.2 ⟨_, listed, ?_⟩
      rw [MediaType.ofSystemCode, KnownSystem.ofCode?_code]
    next =>
      rw [mediaTypes_of_ne_nil (List.ne_nil_of_mem listed)]
      refine List.mem_map.2 ⟨_, listed, ?_⟩
      rw [MediaType.ofSystemCode, KnownSystem.ofCode?_eq_none unknown]

instance (systems : List String) (kind : MediaType) : Decidable (Searched systems kind) :=
  decidable_of_iff _ mem_mediaTypes

def variants (kinds : List MediaType) (word : String) : List String :=
  ((kinds.map (slugify · word)).filter (· ≠ "")).eraseDups

theorem mem_variants {kinds : List MediaType} {word variant : String} :
    variant ∈ variants kinds word ↔ variant ≠ "" ∧ ∃ kind ∈ kinds, slugify kind word = variant := by
  simp [variants, List.mem_eraseDups, and_comm]

theorem variants_nonempty {kinds : List MediaType} {word : String} :
    (!(variants kinds word).isEmpty) = true ↔ ∃ kind ∈ kinds, slugify kind word ≠ "" := by
  rw [Bool.not_eq_true', List.isEmpty_eq_false_iff_exists_mem]
  constructor
  next =>
    rintro ⟨_, listed⟩
    obtain ⟨some, kind, wanted, rfl⟩ := mem_variants.1 listed
    exact ⟨kind, wanted, some⟩
  next =>
    rintro ⟨kind, wanted, some⟩
    exact ⟨_, mem_variants.2 ⟨some, kind, wanted, rfl⟩⟩

theorem nodup_variants (kinds : List MediaType) (word : String) : (variants kinds word).Nodup :=
  nodup_eraseDups _

theorem variants_append {kinds more : List MediaType} (present : ∀ kind ∈ more, kind ∈ kinds)
    (word : String) : variants (kinds ++ more) word = variants kinds word := by
  have none : ((more.map (slugify · word)).filter (· ≠ "")).removeAll
      ((kinds.map (slugify · word)).filter (· ≠ "")) = [] := by
    rw [List.removeAll, List.filter_eq_nil_iff]
    intro variant listed
    obtain ⟨slugs, some⟩ := List.mem_filter.1 listed
    obtain ⟨kind, wanted, rfl⟩ := List.mem_map.1 slugs
    have found : slugify kind word ∈ (kinds.map (slugify · word)).filter (· ≠ "") :=
      List.mem_filter.2 ⟨List.mem_map_of_mem (present kind wanted), some⟩
    simpa using found
  rw [variants, List.map_append, List.filter_append, List.eraseDups_append, none]
  simp [variants]

theorem length_variants_le (kinds : List MediaType) (word : String) :
    (variants kinds word).length ≤ 2 := by
  have within : variants kinds word ⊆ [slugify .game word, slugify .tvShow word] := by
    intro variant listed
    obtain ⟨-, kind, -, rfl⟩ := mem_variants.1 listed
    by_cases television : kind = .tvShow
    next => simp [television]
    next => simp [slugify_of_ne_tvShow television]
  exact ((nodup_variants kinds word).subperm within).length_le

theorem freshVariants_fst (place : Nat) (word : String) (kinds : List MediaType)
    (seen : List (Nat × String)) : (freshVariants place word kinds seen).1 =
      ((kinds.map (slugify · word)).filter fun variant =>
        variant ≠ "" && (place, variant) ∉ seen).eraseDups := by
  induction kinds generalizing seen with
  | nil => rfl
  | cons kind kinds ih =>
    rw [freshVariants, List.map_cons]
    split
    next skipped =>
      rw [ih, List.filter_cons_of_neg]
      simpa [or_iff_not_imp_left] using skipped
    next fresh =>
      rw [List.filter_cons_of_pos (by simpa using fresh), List.eraseDups_cons, List.filter_filter]
      refine congrArg (slugify kind word :: ·) ((ih _).trans (congrArg List.eraseDups ?_))
      refine List.filter_congr fun variant _ => ?_
      rw [Bool.eq_iff_iff]
      simp [and_left_comm]

theorem mem_freshVariants_snd {place : Nat} {word : String} {kinds : List MediaType}
    {seen : List (Nat × String)} {key : Nat × String}
    (listed : key ∈ (freshVariants place word kinds seen).2) : key ∈ seen ∨ key.1 = place := by
  induction kinds generalizing seen with
  | nil => exact .inl listed
  | cons kind kinds ih =>
    rw [freshVariants] at listed
    split at listed
    next => exact ih listed
    next =>
      rcases ih listed with new | here
      next =>
        rcases List.mem_cons.1 new with rfl | before
        next => exact .inr rfl
        next => exact .inl before
      next => exact .inr here

theorem groupsFrom_eq (kinds : List MediaType) {place : Nat} {seen : List (Nat × String)}
    (earlier : ∀ key ∈ seen, key.1 < place) (words : List String) :
    groupsFrom kinds place seen words =
      (words.map (variants kinds)).filter (!·.isEmpty) := by
  induction words generalizing place seen with
  | nil => rfl
  | cons word words ih =>
    have unseen (variant : String) : (place, variant) ∉ seen := fun listed =>
      Nat.lt_irrefl _ (earlier _ listed)
    have group : (freshVariants place word kinds seen).1 = variants kinds word := by
      simp [freshVariants_fst, unseen, variants]
    have later : ∀ key ∈ (freshVariants place word kinds seen).2, key.1 < place + 1 := by
      intro key listed
      rcases mem_freshVariants_snd listed with before | here
      next => exact Nat.lt_succ_of_lt (earlier key before)
      next => exact here ▸ Nat.lt_succ_self _
    simp only [groupsFrom, group, ih later, List.map_cons, List.filter_cons]
    cases (variants kinds word).isEmpty <;> rfl

theorem variantGroups_eq (systems words : List String) : variantGroups systems words =
    (words.map (variants (mediaTypes systems))).filter (!·.isEmpty) :=
  groupsFrom_eq _ (fun _ listed => absurd listed List.not_mem_nil) words

def HasVariant (systems : List String) (word : String) : Prop :=
  ∃ kind, Searched systems kind ∧ slugify kind word ≠ ""

theorem hasVariant_iff {systems : List String} {word : String} :
    HasVariant systems word ↔ (!(variants (mediaTypes systems) word).isEmpty) = true := by
  simp only [variants_nonempty, mem_mediaTypes, HasVariant]

instance (systems : List String) (word : String) : Decidable (HasVariant systems word) :=
  decidable_of_iff _ hasVariant_iff.symm

structure IsGroup (systems : List String) (word : String) (group : List String) : Prop where
  nodup : group.Nodup
  mem_iff (variant : String) : variant ∈ group ↔
    variant ≠ "" ∧ ∃ kind, Searched systems kind ∧ slugify kind word = variant

theorem isGroup_variants (systems : List String) (word : String) :
    IsGroup systems word (variants (mediaTypes systems) word) where
  nodup := nodup_variants _ word
  mem_iff variant := by simp only [mem_variants, mem_mediaTypes]

theorem variantGroups_words (systems words : List String) : variantGroups systems words =
    (words.filter (HasVariant systems ·)).map (variants (mediaTypes systems)) := by
  rw [variantGroups_eq, List.filter_map]
  congr 1
  refine List.filter_congr fun word _ => ?_
  rw [Bool.eq_iff_iff, decide_eq_true_iff, hasVariant_iff]
  rfl

theorem mediaTypes_append {systems more : List String}
    (present : ∀ code ∈ more, MediaType.ofSystemCode code ∈ mediaTypes systems) :
    ∃ others, mediaTypes (systems ++ more) = mediaTypes systems ++ others ∧
      ∀ kind ∈ others, kind ∈ mediaTypes systems := by
  by_cases none : systems = []
  next =>
    subst none
    cases more with
    | nil => exact ⟨[], rfl, nofun⟩
    | cons code rest =>
      -- The first system named takes the place of the game systems that stand for no name.
      obtain ⟨first, others⟩ := List.forall_mem_cons.1 present
      rw [mediaTypes_nil, List.mem_singleton] at first
      refine ⟨rest.map MediaType.ofSystemCode, ?_, List.forall_mem_map.2 others⟩
      rw [List.nil_append, mediaTypes_of_ne_nil (List.cons_ne_nil _ _), List.map_cons, first]
      rfl
  next =>
    refine ⟨more.map MediaType.ofSystemCode, ?_, List.forall_mem_map.2 present⟩
    rw [mediaTypes_of_ne_nil none, mediaTypes_of_ne_nil (by simp [none]), List.map_append]

/-- A search has one group for each word that has a slug under a kind of media that is searched, in the
order of the words, and the group is made of these slugs. So it has one or two of them, and systems whose
kinds of media are searched already add nothing. -/
theorem variantGroups_exact (systems words : List String) :
    List.Forall₂ (IsGroup systems) (words.filter (HasVariant systems ·))
        (variantGroups systems words) ∧
      (∀ group ∈ variantGroups systems words, group.length = 1 ∨ group.length = 2) ∧
      ∀ more : List String,
        (∀ code ∈ more, Searched systems (MediaType.ofSystemCode code)) →
          variantGroups (systems ++ more) words = variantGroups systems words := by
  refine ⟨?_, ?_, ?_⟩
  next =>
    rw [variantGroups_words, List.forall₂_map_right_iff, List.forall₂_same]
    exact fun word _ => isGroup_variants systems word
  next =>
    intro group listed
    rw [variantGroups_eq] at listed
    obtain ⟨made, some⟩ := List.mem_filter.1 listed
    obtain ⟨word, -, rfl⟩ := List.mem_map.1 made
    have most := length_variants_le (mediaTypes systems) word
    have least : 0 < (variants (mediaTypes systems) word).length := by
      simpa [List.length_pos_iff] using some
    omega
  next =>
    intro more present
    obtain ⟨others, kinds, within⟩ :=
      mediaTypes_append fun code listed => mem_mediaTypes.2 (present code listed)
    rw [variantGroups_eq, variantGroups_eq, kinds]
    exact congrArg (List.filter _) (List.map_congr_left fun word _ => variants_append within word)

theorem variantGroups_lost :
    (∀ code ∈ ["SNES", "Vectrex", "TVEpisode"],
      Searched ["NES", "TVEpisode"] (MediaType.ofSystemCode code)) ∧
    variantGroups (["NES", "TVEpisode"] ++ ["SNES", "Vectrex", "TVEpisode"])
        ["Lost 1x05", "(!)", "lost", "Lost 1x05"] =
      [["lost1x05", "losts01e05"], ["lost"], ["lost1x05", "losts01e05"]] := by
  have present : ∀ code ∈ ["SNES", "Vectrex", "TVEpisode"],
      Searched ["NES", "TVEpisode"] (MediaType.ofSystemCode code) := by decide +kernel
  exact ⟨present, ((variantGroups_exact _ _).2.2 _ present).trans (by decide +kernel)⟩

end SearchWords

end MediaCatalog
