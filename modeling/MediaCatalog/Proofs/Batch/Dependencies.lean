import MediaCatalog.Proofs.Running
import MediaCatalog.Relational.Connection
import Mathlib.Data.Finset.Card
import Mathlib.Logic.Relation

set_option autoImplicit false

namespace MediaCatalog

namespace BatchSet

open Relation (ReflTransGen TransGen)

variable {τ : Type} [Target τ] {set : BatchSet τ} {child target : InserterId}

def Parent (set : BatchSet τ) (child parent : InserterId) : Prop :=
  parent ∈ set.parents child

def Acyclic (set : BatchSet τ) : Prop :=
  ∀ id, ¬ TransGen set.Parent id id

theorem member?_eq_ok {id : InserterId} {member : BatchMember τ} :
    set.member? id = .ok member ↔ set.members[id]? = some member := by
  rw [member?]
  split
  next known => simp [known]
  next unknown => simp [unknown]

theorem member?_known {id : InserterId} (known : id < set.size) :
    ∃ member, set.member? id = .ok member :=
  ⟨set.members[id], member?_eq_ok.2 (List.getElem?_eq_getElem known)⟩

theorem member?_unknown {id : InserterId} (unknown : set.size ≤ id) :
    set.member? id = .error (.unknownInserter id) := by
  rw [member?, List.getElem?_eq_none unknown]

theorem parents_eq {id : InserterId} {member : BatchMember τ}
    (found : set.members[id]? = some member) : set.parents id = member.parents := by
  rw [parents, found]
  rfl

@[simp] theorem size_setParents (set : BatchSet τ) (child : InserterId)
    (parents : List InserterId) : (set.setParents child parents).size = set.size := by
  simp [size, setParents]

@[simp] theorem size_setInserter (set : BatchSet τ) (id : InserterId)
    (inserter : Inserter τ) : (set.setInserter id inserter).size = set.size := by
  simp [size, setInserter]

@[simp] theorem parents_setInserter (set : BatchSet τ) (id : InserterId)
    (inserter : Inserter τ) : (set.setInserter id inserter).parents = set.parents := by
  funext other
  simp only [parents, setInserter, List.getElem?_modify, Option.map_eq_map, Option.map_map]
  congr 2
  funext member
  simp only [Function.comp_apply]
  split <;> rfl

theorem parents_setParents (known : child < set.size) (parents : List InserterId)
    (id : InserterId) :
    (set.setParents child parents).parents id =
      if id = child then parents else set.parents id := by
  simp only [BatchSet.parents, setParents, List.getElem?_modify]
  by_cases same : child = id
  next =>
    subst same
    simp [List.getElem?_eq_getElem known]
  next =>
    rw [if_neg (Ne.symm same)]
    simp [same]

@[simp] theorem parents_register (set : BatchSet τ) (inserter : Inserter τ) :
    (set.register inserter).2.parents = set.parents := by
  funext id
  rcases Nat.lt_trichotomy id set.size with known | rfl | beyond
  next => simp [parents, register, List.getElem?_append_left known]
  next =>
    rw [parents_unknown (Nat.le_refl _)]
    simp [parents, register, size]
  next =>
    have outside : (set.register inserter).2.size ≤ id := by
      simp only [register, size, List.length_append, List.length_singleton] at beyond ⊢
      omega
    rw [parents_unknown (Nat.le_of_lt beyond), parents_unknown outside]

theorem size_register (set : BatchSet τ) (inserter : Inserter τ) :
    (set.register inserter).2.size = set.size + 1 := by
  simp [size, register]

theorem reaches_of_found (set : BatchSet τ) (target : InserterId) :
    (∀ id visited, (set.search target id visited).found = true →
      ReflTransGen set.Parent id target) ∧
    ∀ ids visited, (set.searchAll target ids visited).found = true →
      ∃ id ∈ ids, ReflTransGen set.Parent id target := by
  apply search.mutual_induct set target
    (fun id visited => (set.search target id visited).found = true →
      ReflTransGen set.Parent id target)
    (fun ids visited => (set.searchAll target ids visited).found = true →
      ∃ id ∈ ids, ReflTransGen set.Parent id target)
  -- The cases of `search` are the target, an inserter that is new and one that has been visited;
  -- those of `searchAll` are the end, a target found from the first inserter, and going on to the
  -- others.
  case case1 => exact fun _ _ => .refl
  case case2 =>
    intro id visited different fresh found all grown searched ih hit
    rw [search, if_neg different, dif_pos fresh, searched] at hit
    rw [searched] at ih
    obtain ⟨parent, up, reached⟩ := ih hit
    exact .head up reached
  case case3 =>
    intro id visited different stale hit
    rw [search, if_neg different, dif_neg stale] at hit
    contradiction
  case case4 =>
    intro visited hit
    rw [searchAll] at hit
    contradiction
  case case5 =>
    intro visited id rest all grown searched ih _
    rw [searched] at ih
    exact ⟨id, List.mem_cons_self, ih rfl⟩
  case case6 =>
    intro visited id rest more grown searched found all later others _ ih hit
    rw [searchAll, searched] at hit
    simp only [others] at hit
    rw [others] at ih
    obtain ⟨other, listed, reached⟩ := ih hit
    exact ⟨other, List.mem_cons_of_mem _ listed, reached⟩

/-- What a search has newly visited is not the target, and all its parents have been visited too. -/
def Explored (set : BatchSet τ) (target : InserterId) (visited all : List InserterId) : Prop :=
  ∀ id ∈ all, id ∉ visited → id ≠ target ∧ set.parents id ⊆ all

theorem explored_refl (visited : List InserterId) : set.Explored target visited visited :=
  fun _ old fresh => absurd old fresh

theorem Explored.trans {visited more all : List InserterId}
    (early : set.Explored target visited more) (late : set.Explored target more all)
    (grown : more ⊆ all) : set.Explored target visited all := by
  intro id member fresh
  by_cases old : id ∈ more
  next =>
    obtain ⟨different, up⟩ := early id old fresh
    exact ⟨different, List.Subset.trans up grown⟩
  next => exact late id member old

theorem explored_of_unfound (set : BatchSet τ) (target : InserterId) :
    (∀ id visited, (set.search target id visited).found = false →
      id ∈ (set.search target id visited).all ∧
        set.Explored target visited (set.search target id visited).all) ∧
    ∀ ids visited, (set.searchAll target ids visited).found = false →
      ids ⊆ (set.searchAll target ids visited).all ∧
        set.Explored target visited (set.searchAll target ids visited).all := by
  apply search.mutual_induct set target
    (fun id visited => (set.search target id visited).found = false →
      id ∈ (set.search target id visited).all ∧
        set.Explored target visited (set.search target id visited).all)
    (fun ids visited => (set.searchAll target ids visited).found = false →
      ids ⊆ (set.searchAll target ids visited).all ∧
        set.Explored target visited (set.searchAll target ids visited).all)
  case case1 =>
    intro visited missed
    rw [search, if_pos rfl] at missed
    contradiction
  case case2 =>
    intro id visited different fresh found all grown searched ih missed
    rw [search, if_neg different, dif_pos fresh, searched] at missed ⊢
    rw [searched] at ih
    obtain ⟨up, explored⟩ := ih missed
    refine ⟨grown List.mem_cons_self, fun other member unvisited => ?_⟩
    -- What is new is `id`, with all its parents visited by now, or has been visited on the way up.
    by_cases same : other = id
    next =>
      subst same
      exact ⟨different, up⟩
    next => exact explored other member (by simp [same, unvisited])
  case case3 =>
    intro id visited different stale _
    rw [search, if_neg different, dif_neg stale]
    exact ⟨Classical.not_not.1 stale, explored_refl visited⟩
  case case4 =>
    intro visited _
    rw [searchAll]
    exact ⟨List.nil_subset _, explored_refl visited⟩
  case case5 =>
    intro visited id rest all grown searched _ missed
    rw [searchAll, searched] at missed
    contradiction
  case case6 =>
    intro visited id rest more grown searched found all later others first ih missed
    rw [searchAll, searched] at missed ⊢
    simp only [others] at missed ⊢
    rw [searched] at first
    rw [others] at ih
    obtain ⟨present, early⟩ := first rfl
    obtain ⟨listed, late⟩ := ih missed
    exact ⟨List.cons_subset.2 ⟨later present, listed⟩, early.trans late later⟩

theorem found_iff (set : BatchSet τ) (target : InserterId) (ids : List InserterId) :
    (set.searchAll target ids []).found = true ↔ ∃ id ∈ ids, ReflTransGen set.Parent id target := by
  constructor
  next => exact (reaches_of_found set target).2 ids []
  next =>
    rintro ⟨id, listed, reached⟩
    by_contra missed
    rw [Bool.not_eq_true] at missed
    obtain ⟨present, explored⟩ := (explored_of_unfound set target).2 ids [] missed
    have visited (other : InserterId) (way : ReflTransGen set.Parent id other) :
        other ∈ (set.searchAll target ids []).all := by
      induction way with
      | refl => exact present listed
      | tail _ up ih => exact (explored _ ih List.not_mem_nil).2 up
    exact (explored target (visited target reached) List.not_mem_nil).1 rfl

def Closed (set : BatchSet τ) : Prop :=
  ∀ child parent, set.Parent child parent → parent < set.size

theorem transGen_setParents (known : child < set.size) {parents : List InserterId}
    {id other : InserterId} (way : TransGen (set.setParents child parents).Parent id other) :
    TransGen set.Parent id other ∨
      ∃ parent ∈ parents,
        ReflTransGen (set.setParents child parents).Parent id child ∧
          ReflTransGen (set.setParents child parents).Parent parent other := by
  induction way with
  | @single other up =>
    have listed := up
    rw [Parent, parents_setParents known] at listed
    split at listed
    next same => exact .inr ⟨other, listed, same ▸ .refl, .refl⟩
    next => exact .inl (.single listed)
  | @tail middle other before up ih =>
    rcases ih with old | ⟨parent, declared, first, later⟩
    next =>
      have listed := up
      rw [Parent, parents_setParents known] at listed
      split at listed
      next same => exact .inr ⟨other, listed, same ▸ before.to_reflTransGen, .refl⟩
      next => exact .inl (old.tail listed)
    next => exact .inr ⟨parent, declared, first, later.tail up⟩

theorem acyclic_setParents_iff (acyclic : set.Acyclic) (known : child < set.size)
    (parents : List InserterId) :
    (set.setParents child parents).Acyclic ↔
      ∀ parent ∈ parents, ¬ ReflTransGen (set.setParents child parents).Parent parent child := by
  constructor
  next =>
    intro still parent declared back
    apply still child
    refine TransGen.head' ?_ back
    rwa [Parent, parents_setParents known, if_pos rfl]
  next =>
    intro free id round
    rcases transGen_setParents known round with old | ⟨parent, declared, first, later⟩
    next => exact acyclic id old
    next => exact free parent declared (later.trans first)

theorem closed_setParents (closed : set.Closed) (known : child < set.size)
    {parents : List InserterId} (members : ∀ parent ∈ parents, parent < set.size) :
    (set.setParents child parents).Closed := by
  intro id parent up
  rw [size_setParents]
  rw [Parent, parents_setParents known] at up
  split at up
  next => exact members parent up
  next => exact closed id parent up

theorem setParents_setParents (set : BatchSet τ) (child : InserterId)
    (first last : List InserterId) :
    (set.setParents child first).setParents child last = set.setParents child last := by
  simp only [setParents, List.modify_modify_eq]
  rfl

theorem setParents_self {member : BatchMember τ} (found : set.members[child]? = some member) :
    set.setParents child member.parents = set := by
  obtain ⟨members⟩ := set
  simp only [setParents, mk.injEq]
  apply List.ext_getElem?
  intro place
  by_cases same : child = place
  next =>
    subst same
    simp [found]
  next => simp [same]

theorem forM_member?_cases (set : BatchSet τ) (ids : List InserterId) :
    let looked : Editing τ PUnit := ids.forM fun id => do discard ((← get).member? id)
    ((∀ id ∈ ids, id < set.size) ∧ looked set = (.ok (), set)) ∨
      ∃ id ∈ ids, set.size ≤ id ∧ looked set = (.error (.unknownInserter id), set) := by
  induction ids with
  | nil => exact .inl ⟨nofun, rfl⟩
  | cons id rest ih =>
    rcases Nat.lt_or_ge id set.size with known | unknown
    next =>
      obtain ⟨member, found⟩ := member?_known known
      have step : ((id :: rest).forM fun id => do discard ((← get).member? id) : Editing τ PUnit)
          set = (rest.forM fun id => do discard ((← get).member? id) : Editing τ PUnit) set := by
        simp [List.forM, found]
      simp only [step]
      rcases ih with ⟨members, done⟩ | ⟨other, listed, unknown, failed⟩
      next => exact .inl ⟨List.forall_mem_cons.2 ⟨known, members⟩, done⟩
      next => exact .inr ⟨other, List.mem_cons_of_mem _ listed, unknown, failed⟩
    next =>
      refine .inr ⟨id, List.mem_cons_self, unknown, ?_⟩
      simp [List.forM, member?_unknown unknown]

theorem setDependencies_cases (acyclic : set.Acyclic) (child : InserterId)
    (parents : List InserterId) :
    let declared := setDependencies child parents set
    let next := set.setParents child parents
    (∃ id, (id = child ∨ id ∈ parents) ∧ set.size ≤ id ∧
        declared = (.error (.unknownInserter id), set)) ∨
      (child < set.size ∧ (∀ parent ∈ parents, parent < set.size) ∧
        ((next.Acyclic ∧ declared = (.ok (), next)) ∨
          (¬ next.Acyclic ∧ ∃ table, declared = (.error (.dependencyCycle table), set)))) := by
  intro declared next
  rcases Nat.lt_or_ge child set.size with known | unknown
  case inr =>
    refine .inl ⟨child, .inl rfl, unknown, ?_⟩
    simp [declared, setDependencies, member?_unknown unknown]
  obtain ⟨member, found⟩ := member?_known known
  rcases forM_member?_cases set parents with ⟨members, looked⟩ | ⟨id, listed, unknown, failed⟩
  case inr =>
    refine .inl ⟨id, .inr listed, unknown, ?_⟩
    simp only [declared, setDependencies, run_bind, run_get, run_lift, found, failed]
  -- With the old parents the whole set comes back.
  have restored : next.setParents child member.parents = set := by
    rw [setParents_setParents, setParents_self (member?_eq_ok.1 found)]
  have tested : declared =
      if (next.searchAll child parents []).found then
        (.error (.dependencyCycle (Target.table member.inserter.target)), set)
      else (.ok (), next) := by
    simp only [declared, setDependencies, run_bind, run_get, run_lift, found, looked, run_modify,
      run_ite, run_throw, run_pure]
    split
    next => exact congrArg (Prod.mk _) restored
    next => rfl
  have free : (next.searchAll child parents []).found = true ↔ ¬ next.Acyclic := by
    rw [found_iff, acyclic_setParents_iff acyclic known]
    simp [next]
  refine .inr ⟨known, members, ?_⟩
  rw [tested]
  by_cases round : next.Acyclic
  next => exact .inl ⟨round, if_neg (fun circle => free.1 circle round)⟩
  next => exact .inr ⟨round, _, if_pos (free.2 round)⟩

inductive Edit (τ : Type) [Target τ] where
  | register (inserter : Inserter τ)
  | declare (child : InserterId) (parents : List InserterId)
  | add (id : InserterId) (row : List Bind)

def edit (set : BatchSet τ) : Edit τ → Except BatchError Unit × BatchSet τ
  | .register inserter => (.ok (), (set.register inserter).2)
  | .declare child parents => setDependencies child parents set
  | .add id row => BatchSet.add id row set

def build (edits : List (Edit τ)) : BatchSet τ :=
  edits.foldl (fun set call => (set.edit call).2) {}

structure Sound (set : BatchSet τ) : Prop where
  closed : set.Closed
  acyclic : set.Acyclic

theorem sound_empty : Sound ({} : BatchSet τ) where
  closed := nofun
  acyclic id round := by
    obtain ⟨parent, up, -⟩ := TransGen.head'_iff.1 round
    exact absurd up List.not_mem_nil

theorem Sound.congr (sound : set.Sound) {after : BatchSet τ}
    (parents : after.parents = set.parents) (grown : set.size ≤ after.size) : after.Sound where
  closed child parent up := by
    rw [Parent, parents] at up
    exact Nat.lt_of_lt_of_le (sound.closed child parent up) grown
  acyclic := by
    have same : after.Parent = set.Parent := by
      funext child parent
      rw [Parent, Parent, parents]
    rw [Acyclic, same]
    exact sound.acyclic

theorem add_cases (set : BatchSet τ) (id : InserterId) (row : List Bind) :
    (∃ error, BatchSet.add id row set = (.error error, set)) ∨
      ∃ member inserter, set.members[id]? = some member ∧ member.inserter.add row = .ok inserter ∧
        BatchSet.add id row set = (.ok (), set.setInserter id inserter) := by
  cases found : set.members[id]? with
  | none => exact .inl ⟨.unknownInserter id, by simp [BatchSet.add, member?, found]⟩
  | some member =>
    have known := member?_eq_ok.2 found
    cases added : member.inserter.add row with
    | error error => exact .inl ⟨error, by simp [BatchSet.add, known, added]⟩
    | ok inserter => exact .inr ⟨member, inserter, rfl, added, by simp [BatchSet.add, known, added]⟩

theorem Sound.edit (sound : set.Sound) (call : Edit τ) : (set.edit call).2.Sound := by
  cases call with
  | register inserter =>
    apply sound.congr (parents_register set inserter)
    have grown := size_register set inserter
    exact grown ▸ Nat.le_succ _
  | declare child parents =>
    rw [BatchSet.edit]
    rcases setDependencies_cases sound.acyclic child parents with
      ⟨id, -, -, failed⟩ | ⟨known, members, ⟨still, done⟩ | ⟨-, table, failed⟩⟩
    next => rwa [failed]
    next =>
      rw [done]
      exact ⟨closed_setParents sound.closed known members, still⟩
    next => rwa [failed]
  | add id row =>
    rw [BatchSet.edit]
    rcases add_cases set id row with ⟨error, failed⟩ | ⟨member, inserter, -, -, done⟩
    next => rwa [failed]
    next =>
      rw [done]
      apply sound.congr (parents_setInserter set id inserter)
      exact Nat.le_of_eq (size_setInserter set id inserter).symm

theorem sound_build (edits : List (Edit τ)) : (build edits).Sound := by
  have run (set : BatchSet τ) (sound : set.Sound) :
      (edits.foldl (fun set call => (set.edit call).2) set).Sound := by
    induction edits generalizing set with
    | nil => exact sound
    | cons call rest ih => exact ih _ (sound.edit call)
  exact run {} sound_empty

def catalogEdits (target : Entity → τ) (wide : ∀ entity, 0 < Target.width (target entity))
    (token : TokenId) : List (Edit τ) :=
  Entity.all.map (fun entity => .register (.empty (target entity) token (wide entity))) ++
  [Entity.title, .tag, .medium, .mediumTag].map fun entity =>
    .declare entity.inserter (entity.parents.map Entity.inserter)

theorem build_catalogEdits (target : Entity → τ)
    (wide : ∀ entity, 0 < Target.width (target entity)) (token : TokenId) :
    build (catalogEdits target wide token) = forCatalog target wide token := by
  simp [build, catalogEdits, Entity.all, edit, register, setDependencies, Entity.parents,
    Entity.inserter, forCatalog, searchAll, search, parents, setParents, member?, size]

variable {id parent : InserterId}

open Classical in
noncomputable def ancestors (set : BatchSet τ) (id : InserterId) : Finset InserterId :=
  (Finset.range set.size).filter (TransGen set.Parent id)

theorem mem_ancestors {other : InserterId} :
    other ∈ set.ancestors id ↔ other < set.size ∧ TransGen set.Parent id other := by
  simp [ancestors]

theorem Sound.ancestors_parent (sound : set.Sound) (up : set.Parent id parent) :
    (set.ancestors parent).card < (set.ancestors id).card := by
  apply Finset.card_lt_card
  refine ⟨fun other member => ?_, fun contains => ?_⟩
  next =>
    obtain ⟨known, above⟩ := mem_ancestors.1 member
    exact mem_ancestors.2 ⟨known, .head up above⟩
  next =>
    have itself := contains (mem_ancestors.2 ⟨sound.closed id parent up, .single up⟩)
    exact sound.acyclic parent (mem_ancestors.1 itself).2

theorem Sound.ancestors_lt (sound : set.Sound) (known : id < set.size) :
    (set.ancestors id).card < set.size := by
  have fewer : set.ancestors id ⊂ Finset.range set.size := by
    refine ⟨fun other member => Finset.mem_range.2 (mem_ancestors.1 member).1, fun contains => ?_⟩
    exact sound.acyclic id (mem_ancestors.1 (contains (Finset.mem_range.2 known))).2
  simpa using Finset.card_lt_card fewer

theorem edit_error {call : Edit τ} {error : BatchError} (acyclic : set.Acyclic)
    (failed : (set.edit call).1 = .error error) : (set.edit call).2 = set := by
  cases call with
  | register => contradiction
  | declare child parents =>
    rw [edit] at failed ⊢
    rcases setDependencies_cases acyclic child parents with
      ⟨id, -, -, same⟩ | ⟨-, -, ⟨-, done⟩ | ⟨-, table, same⟩⟩
    next => rw [same]
    next => simp [done] at failed
    next => rw [same]
  | add id row =>
    rw [edit] at failed ⊢
    rcases add_cases set id row with ⟨error, same⟩ | ⟨member, inserter, -, -, done⟩
    next => rw [same]
    next => simp [done] at failed

/-- However a set is built, its inserters never wait for one another in a circle. Among known
inserters a declaration is refused exactly if the new parents would close a circle, and takes effect
if not. What is refused, for a circle or for an unknown inserter, leaves the set as it was. -/
theorem declarations_stay_acyclic (edits : List (Edit τ)) :
    let set := build edits
    set.Acyclic ∧
      (∀ child parents, child < set.size → (∀ parent ∈ parents, parent < set.size) →
        let declared := set.edit (.declare child parents)
        let next := set.setParents child parents
        ((∃ table, declared.1 = .error (.dependencyCycle table)) ↔ ¬ next.Acyclic) ∧
          (next.Acyclic → declared = (.ok (), next))) ∧
      ∀ call error, (set.edit call).1 = .error error → (set.edit call).2 = set := by
  intro set
  have sound : set.Sound := sound_build edits
  refine ⟨sound.acyclic, ?_, fun call error failed => edit_error sound.acyclic failed⟩
  intro child parents known members declared next
  rcases setDependencies_cases sound.acyclic child parents with
    ⟨id, named, unknown, -⟩ | ⟨-, -, ⟨still, done⟩ | ⟨round, table, failed⟩⟩
  next =>
    have below : id < set.size := named.elim (fun same => same ▸ known) (members id)
    exact absurd below (Nat.not_lt.2 unknown)
  next =>
    have accepted : declared = (.ok (), next) := done
    rw [accepted]
    exact ⟨⟨nofun, fun round => absurd still round⟩, fun _ => rfl⟩
  next =>
    have refused : declared = (.error (.dependencyCycle table), set) := failed
    rw [refused]
    exact ⟨⟨fun _ => round, fun _ => ⟨table, rfl⟩⟩, fun still => absurd still round⟩

open Relational Relational.Connection in
def shelves : List (Edit InsertTarget) :=
  [.register (.empty (catalogTarget .system) 0 (catalogTarget_wide _)),
    .register (.empty (catalogTarget .title) 0 (catalogTarget_wide _)),
    .register (.empty (catalogTarget .medium) 0 (catalogTarget_wide _)),
    .declare 1 [0], .declare 2 [1, 0], .declare 1 [7]]

open Relational Relational.Connection in
def shelfSet : BatchSet InsertTarget where
  members :=
    [{ inserter := .empty (catalogTarget .system) 0 (catalogTarget_wide _) },
     { inserter := .empty (catalogTarget .title) 0 (catalogTarget_wide _), parents := [0] },
     { inserter := .empty (catalogTarget .medium) 0 (catalogTarget_wide _), parents := [1, 0] }]

theorem build_shelves : build shelves = shelfSet := by
  simp [build, shelves, shelfSet, edit, register, setDependencies, searchAll, search, parents,
    setParents, member?, size]

open Relational Relational.Connection in
theorem declarations_stay_acyclic_shelves :
    let set := build shelves
    let declared := set.edit (.declare 0 [2])
    set.Acyclic ∧ declared.1 = .error (.dependencyCycle "Systems") ∧
      ¬ (set.setParents 0 [2]).Acyclic ∧ declared.2 = set ∧ set.parents 2 = [1, 0] := by
  obtain ⟨acyclic, declares, kept⟩ := declarations_stay_acyclic shelves
  simp only [build_shelves] at acyclic declares kept ⊢
  have refused : (shelfSet.edit (.declare 0 [2])).1 = .error (.dependencyCycle "Systems") := by
    simp [shelfSet, edit, setDependencies, searchAll, search, parents, setParents, member?,
      Inserter.empty, catalogTarget, Target.table, Entity.table]
  have round := (declares 0 [2] (by decide) (by decide)).1.1 ⟨_, refused⟩
  exact ⟨acyclic, refused, round, kept _ _ refused, rfl⟩

end BatchSet

end MediaCatalog
