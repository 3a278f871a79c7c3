import MediaCatalog.Proofs.Catalog.Reuse
import MediaCatalog.Proofs.Engine.Reachable
import MediaCatalog.Proofs.Engine.Statistics

set_option autoImplicit false

namespace MediaCatalog

open Relation (ReflTransGen)

namespace Call

def Unnumbered (call : Call) : Prop :=
  ∀ row, call.Allows (.insert row) → row.id = 0

theorem unnumbered_insert {row : CatalogRow} (zero : row.id = 0) : (insert row).Unnumbered := by
  intro other allowed
  obtain rfl := Change.insert.inj allowed
  exact zero

def Truncates (call : Call) : Prop :=
  call = .truncate ∨ ∃ codes, call = .truncateSystems codes

end Call

namespace Engine

variable {engine : Engine} {row : CatalogRow} {configs : Config → Prop}

def Grows (before after : Engine) : Prop :=
  ReflTransGen Catalog.Gains before.writerView.catalog after.writerView.catalog

def Shrinks (before after : Engine) : Prop :=
  Catalog.PartOf after.writerView.catalog before.writerView.catalog

theorem SameCatalog.grows {before after : Engine} (same : SameCatalog before after) :
    Grows before after := by
  rw [Grows, same]

theorem SameCatalog.shrinks {before after : Engine} (same : SameCatalog before after) :
    Shrinks before after := by
  rw [Shrinks, same]
  exact .refl _

theorem grows_of_same {α : Type} {action : EngineM α} (goes : Goes SameCatalog action) :
    Goes Grows action :=
  fun engine => ReflTransGen.mono (fun _ _ => SameCatalog.grows) _ _ (goes engine)

theorem shrinks_of_same {α : Type} {action : EngineM α} (goes : Goes SameCatalog action) :
    Goes Shrinks action :=
  fun engine => ReflTransGen.mono (fun _ _ => SameCatalog.shrinks) _ _ (goes engine)

theorem inserts_grows (unnumbered : row.id = 0) : Inserts Grows row where
  write engine := by
    have leads : Store.Leads
        (fun before after => ReflTransGen Catalog.Gains before.catalog after.catalog)
        (Store.insertRow engine.foreignKeys row) := by
      intro store value after done
      obtain ⟨-, -, placed, catalog, inserted, rfl⟩ := Store.insertRow_ok done
      exact .single (.single (.inr ⟨_, _, row, placed, unnumbered, inserted⟩))
    exact goesFrom_onWriter leads fun _ _ grows => by simpa [Grows] using grows
  buffer _ := .refl
  clear := grows_of_same (tends_sameCatalog.invalidateIfIdle .all)

theorem grows_answer {call : Call} (inside : call.isBoundary = false)
    (unnumbered : call.Unnumbered) (keeps : ¬ call.Truncates) (engine : Engine) :
    Grows engine (engine.step call).2 := by
  have of_goes (goes : Goes Grows (answer call)) : Grows engine (engine.step call).2 :=
    (goes engine).keeps .refl fun _ _ later earlier => earlier.trans later
  have of_same (goes : Goes SameCatalog (answer call)) := of_goes (grows_of_same goes)
  cases call with
  | begin | commit | rollback => contradiction
  | insert row =>
    exact of_goes (goes_bind (inserts_grows (unnumbered row rfl)).insert fun _ => goes_pure _)
  | findOrInsert row =>
    exact of_goes (goes_bind (inserts_grows (unnumbered row rfl)).findOrInsert fun _ => goes_pure _)
  | truncate => exact absurd (.inl rfl) keeps
  | truncateSystems codes => exact absurd (.inr ⟨codes, rfl⟩) keeps
  | randomCached query =>
    rcases randomCached_cases query engine with same | ⟨-, _, -, wrote⟩
    next => rw [same]; exact .refl
    next => simp only [wrote, Grows, writerView_setWriterView]; exact .refl
  | putQueryStats | putResolution =>
    exact of_same (goes_bind
      (goes_caching (sameCatalog_onWriter (Store.leads_update _ _ fun _ => rfl)))
      fun _ => goes_pure _)
  | _ => exact of_same (tends_sameCatalog.answer rfl nofun nofun)

theorem shrinks_answer {call : Call} (truncates : call.Truncates) (engine : Engine) :
    Shrinks engine (engine.step call).2 := by
  have of_goes (goes : Goes Shrinks (answer call)) : Shrinks engine (engine.step call).2 :=
    (goes engine).keeps (.refl _) fun _ _ later earlier => later.trans earlier
  have shrinks {α : Type} {statement : Statement α} (leads : Store.Leads
      (fun before after => Catalog.PartOf after.catalog before.catalog) statement) :
      Goes Shrinks (onWriter statement) :=
    fun _ => goesFrom_onWriter leads fun _ _ part => by simpa [Shrinks] using part
  rcases truncates with rfl | ⟨codes, rfl⟩
  next =>
    refine of_goes (goes_bind (goes_writing (shrinks ?_)) fun _ => goes_pure _)
    exact Store.leads_prepared _ _ _ fun _ => Catalog.partOf_empty _
  next =>
    have cleared := shrinks_of_same (tends_sameCatalog.invalidateIfIdle (.systems codes))
    refine of_goes (goes_bind (goes_truncateSystems cleared fun engine => ?_) fun _ => goes_pure _)
    exact shrinks (Store.leads_truncateSystems fun _ => Catalog.partOf_truncateSystems _ _ _) engine

theorem sameCatalog_begin (batch : Bool) : SameCatalog engine (begin batch engine).2 := by
  rw [run_begin]
  cases working : engine.working with
  | some store =>
    simp only [Option.isSome_some, if_true]
    repeat' split
    all_goals rfl
  | none =>
    repeat' split
    all_goals simp [SameCatalog, writerView, working, opened, closeTransaction]

theorem grows_flush (waiting : ∀ batch, engine.batch = some batch → ∀ values, batch.Waits values →
    ∃ row : CatalogRow, row.id = 0 ∧ values = row.binds) : Grows engine (flush engine).2 := by
  rw [run_flush]
  split
  next => exact .refl
  next batch buffered =>
    have goesBy : (sink engine.foreignKeys engine.tokens).GoesBy
        (fun before after => ReflTransGen Catalog.Gains before.catalog after.catalog)
        fun values => ∃ row : CatalogRow, row.id = 0 ∧ values = row.binds := by
      -- What waits has no ids either, so that the flush is like inserts.
      refine ⟨fun _ _ => .refl, fun entity values store fine => ?_⟩
      rcases insertRows_cases engine.foreignKeys engine.tokens store fine with
        same | ⟨rows, unnumbered, inserted⟩
      next => rw [same]
      next =>
        obtain ⟨catalog, done, reached⟩ := Store.insertAll_ok inserted
        rw [reached]
        exact .single (Catalog.gains_insertAll unnumbered done)
    have advanced := Sink.flushAll_advances goesBy (batch, engine.writerView) (waiting batch buffered)
    let store := ((sink engine.foreignKeys engine.tokens).flushAll (batch, engine.writerView)).2.2
    have gains : ReflTransGen Catalog.Gains engine.writerView.catalog store.catalog :=
      advanced.state.lift' Store.catalog fun _ _ gains => gains
    have grows : Grows engine (engine.setWriterView store) := by simpa [Grows] using gains
    exact grows

theorem grows_commit (waiting : ∀ batch, engine.batch = some batch → ∀ values, batch.Waits values →
    ∃ row : CatalogRow, row.id = 0 ∧ values = row.binds) : Grows engine (commit engine).2 := by
  have flushed := grows_flush waiting
  rcases commit_cases engine with ⟨-, same⟩ | ⟨-, error, same | ⟨same, -⟩⟩ | ⟨-, -, -, done⟩
  next => rw [same]; exact .refl
  next => rw [same]; exact .refl
  next => rw [same]; exact flushed
  next =>
    rw [done]
    exact flushed.trans (sameCatalog_clearing (flush engine).2.settled).grows

theorem kept_allKeyed (foreignKeys : Bool) :
    Kept foreignKeys (·.id = 0) fun store => store.catalog.AllKeyed := by
  intro store after keyed effect
  cases effect with
  | insert _ inserted => exact keyed.insertRow inserted
  | truncate => exact Catalog.allKeyed_empty
  | truncateSystems => exact keyed.partOf (Catalog.partOf_truncateSystems _ _ _)
  | _ => exact keyed

theorem Reachable.allKeyed (reached : Reachable configs Call.Unnumbered engine) :
    Holds (fun store => store.catalog.AllKeyed) (·.id = 0) engine := by
  apply reached.holds (kept_allKeyed true)
  next => exact fun config _ => kept_allKeyed config.foreignKeys
  next => exact Catalog.allKeyed_empty
  next => exact fun _ => id
  next => exact fun _ unnumbered => unnumbered

theorem grows_step (reached : Reachable configs Call.Unnumbered engine) {call : Call}
    (unnumbered : call.Unnumbered) (keeps : ¬ call.Truncates) (onwards : call ≠ .rollback) :
    Grows engine (engine.step call).2 := by
  cases boundary : call.isBoundary with
  | false => exact grows_answer boundary unnumbered keeps engine
  | true =>
    cases call with
    | begin batch =>
      rw [step_of_unit (begin batch) rfl]
      exact (sameCatalog_begin batch).grows
    | commit =>
      rw [step_of_unit commit rfl]
      exact grows_commit reached.allKeyed.waiting
    | rollback => contradiction
    | _ => contradiction

theorem run_snoc (engine : Engine) (history : List Call) (call : Call) :
    engine.run (history ++ [call]) = ((engine.run history).step call).2 := by
  simp only [run, List.foldl_append, List.foldl_cons, List.foldl_nil]

def Undone (engine : Engine) (calls : List Call) : Prop :=
  engine.active = true ∧ ∃ inside rest, calls = inside ++ .rollback :: rest ∧ Unended engine inside

theorem undone_snoc {calls : List Call} {call : Call} :
    Undone engine (calls ++ [call]) ↔
      Undone engine calls ∨ engine.active = true ∧ call = .rollback ∧ Unended engine calls := by
  constructor
  next =>
    rintro ⟨active, inside, rest, same, unended⟩
    rcases List.eq_nil_or_concat rest with rfl | ⟨rest, last, rfl⟩
    next =>
      obtain ⟨rfl, last⟩ := List.append_inj' same rfl
      exact .inr ⟨active, List.singleton_inj.1 last, unended⟩
    next =>
      have same : calls ++ [call] = (inside ++ .rollback :: rest) ++ [last] := by
        simpa using same
      obtain ⟨rfl, -⟩ := List.append_inj' same rfl
      exact .inl ⟨active, inside, rest, rfl, unended⟩
  next =>
    rintro (⟨active, inside, rest, rfl, unended⟩ | ⟨active, rfl, unended⟩)
    next => exact ⟨active, inside, rest ++ [call], by simp, unended⟩
    next => exact ⟨active, calls, [], rfl, unended⟩

theorem unended_of_snoc {calls : List Call} {call : Call}
    (unended : Unended engine (calls ++ [call])) : Unended engine calls := by
  induction calls generalizing engine with
  | nil => trivial
  | cons first rest ih => exact ⟨unended.1, ih unended.2⟩

/-- A truncation in the history has left no row of the table with this id or a greater one, and no
rollback in the history, or in what comes later, has undone that. -/
def Removed (engine : Engine) (row : CatalogRow) (history later : List Call) : Prop :=
  ∃ before call rest, history = before ++ call :: rest ∧ call.Truncates ∧
    (engine.run (before ++ [call])).writerView.catalog.EndsBelow row ∧
    ¬ Undone (engine.run (before ++ [call])) (rest ++ later)

def Filled (engine : Engine) (entity : Entity) (history : List Call) : Prop :=
  ∃ before rest, history = before ++ rest ∧
    (engine.run before).writerView.catalog.Exhausted entity

variable {history later : List Call} {call : Call}

theorem Filled.snoc {entity : Entity} (filled : Filled engine entity history) (call : Call) :
    Filled engine entity (history ++ [call]) := by
  obtain ⟨before, rest, rfl, full⟩ := filled
  exact ⟨before, rest ++ [call], by simp, full⟩

theorem removed_of_endsBelow (truncates : call.Truncates)
    (below : (engine.run (history ++ [call])).writerView.catalog.EndsBelow row) :
    Removed engine row (history ++ [call]) [] := by
  refine ⟨history, call, [], rfl, truncates, below, ?_⟩
  rintro ⟨-, inside, rest, none, -⟩
  simp at none

theorem Removed.snoc (removed : Removed engine row history []) (onwards : call ≠ .rollback) :
    Removed engine row (history ++ [call]) [] := by
  obtain ⟨before, truncation, rest, rfl, truncates, below, lasts⟩ := removed
  refine ⟨before, truncation, rest ++ [call], by simp, truncates, below, fun undone => ?_⟩
  rw [List.append_nil] at undone lasts
  rcases undone_snoc.1 undone with undone | ⟨-, rollback, -⟩
  next => exact lasts undone
  next => exact onwards rollback

theorem Removed.rolledBack (removed : Removed engine row history [.rollback]) :
    Removed engine row (history ++ [.rollback]) [] := by
  obtain ⟨before, truncation, rest, rfl, truncates, below, lasts⟩ := removed
  exact ⟨before, truncation, rest ++ [.rollback], by simp, truncates, below, by simpa using lasts⟩

theorem Removed.snoc_rollback (removed : Removed engine row history [.rollback]) (call : Call) :
    Removed engine row (history ++ [call]) [.rollback] := by
  obtain ⟨before, truncation, rest, rfl, truncates, below, lasts⟩ := removed
  refine ⟨before, truncation, rest ++ [call], by simp, truncates, below, fun undone => lasts ?_⟩
  rcases undone_snoc.1 undone with undone | ⟨active, -, unended⟩
  next =>
    rcases undone_snoc.1 undone with undone | ⟨active, -, unended⟩
    next => exact undone_snoc.2 (.inl undone)
    next => exact undone_snoc.2 (.inr ⟨active, rfl, unended⟩)
  next => exact undone_snoc.2 (.inr ⟨active, rfl, unended_of_snoc unended⟩)

theorem Removed.idle (removed : Removed engine row history []) (sound : Sound engine)
    (idle : (engine.run history).active = false) : Removed engine row history [.rollback] := by
  obtain ⟨before, truncation, rest, rfl, truncates, below, lasts⟩ := removed
  refine ⟨before, truncation, rest, rfl, truncates, below, fun undone => ?_⟩
  rcases undone_snoc.1 undone with undone | ⟨active, -, unended⟩
  next => exact lasts (by rwa [List.append_nil])
  next =>
    have still := active_of_unended (sound.run _) active unended
    have same : (engine.run (before ++ [truncation])).run rest =
        engine.run (before ++ truncation :: rest) := by
      simp [run]
    rw [same, idle] at still
    contradiction

theorem guards_snoc (reached : Reachable configs Call.Unnumbered (engine.run history))
    (unnumbered : call.Unnumbered) (onwards : call ≠ .rollback)
    (guards : (engine.run history).writerView.catalog.Guards row) :
    let after := (engine.run (history ++ [call])).writerView.catalog
    Filled engine row.entity (history ++ [call]) ∨ Removed engine row (history ++ [call]) [] ∨
      after.Guards row ∧ ∀ other, ¬ (engine.run history).writerView.catalog.Contains other →
        after.Contains other → other.entity = row.entity → row.id < other.id := by
  intro after
  have ran := run_snoc engine history call
  by_cases truncates : call.Truncates
  next =>
    have part : Catalog.PartOf after (engine.run history).writerView.catalog := by
      simpa only [Shrinks, ← ran] using shrinks_answer truncates (engine.run history)
    rcases guards.partOf part with guarded | below
    next =>
      exact .inr (.inr ⟨guarded, fun other new present => absurd (part.contains present) new⟩)
    next => exact .inr (.inl (removed_of_endsBelow truncates below))
  next =>
    have gains : ReflTransGen Catalog.Gains (engine.run history).writerView.catalog after := by
      simpa only [Grows, ← ran] using grows_step reached unnumbered truncates onwards
    rcases Catalog.guards_of_gains gains guards with filled | guarded
    next => exact .inl ⟨_, [], (List.append_nil _).symm, filled⟩
    next => exact .inr (.inr guarded)

/-- The id of the row is guarded in the catalog, unless its table has been filled up or a truncation
that lasts has removed the row. -/
def Secured (engine : Engine) (row : CatalogRow) (history later : List Call) (catalog : Catalog) :
    Prop :=
  Filled engine row.entity history ∨ Removed engine row history later ∨ catalog.Guards row

theorem Secured.snoc (reached : Reachable configs Call.Unnumbered (engine.run history))
    (unnumbered : call.Unnumbered) (onwards : call ≠ .rollback)
    (secured : Secured engine row history [] (engine.run history).writerView.catalog) :
    Secured engine row (history ++ [call]) []
      (engine.run (history ++ [call])).writerView.catalog := by
  rcases secured with filled | removed | guards
  next => exact .inl (filled.snoc call)
  next => exact .inr (.inl (removed.snoc onwards))
  next =>
    rcases guards_snoc reached unnumbered onwards guards with filled | removed | ⟨guarded, -⟩
    next => exact .inl filled
    next => exact .inr (.inl removed)
    next => exact .inr (.inr guarded)

theorem Secured.rolledBack (sound : Sound (engine.run history))
    (secured : Secured engine row history [.rollback] (engine.run history).committed.catalog) :
    Secured engine row (history ++ [.rollback]) []
      (engine.run (history ++ [.rollback])).writerView.catalog := by
  have back : (engine.run (history ++ [.rollback])).writerView = (engine.run history).committed := by
    rw [run_snoc, step_of_unit rollback rfl, run_rollback]
    split
    next => rfl
    next idle => exact (committed_eq_writerView (sound.closed (by simpa using idle))).symm
  rw [back]
  rcases secured with filled | removed | guards
  next => exact .inl (filled.snoc _)
  next => exact .inr (.inl removed.rolledBack)
  next => exact .inr (.inr guards)

theorem Secured.committed_snoc (sound : Sound engine)
    (secured : Secured engine row history [.rollback] (engine.run history).committed.catalog)
    (written : Secured engine row (history ++ [call]) []
      (engine.run (history ++ [call])).writerView.catalog) :
    Secured engine row (history ++ [call]) [.rollback]
      (engine.run (history ++ [call])).committed.catalog := by
  have next := sound.run (history ++ [call])
  cases active : (engine.run (history ++ [call])).active with
  | true =>
    have ran := run_snoc engine history call
    have same : (engine.run (history ++ [call])).committed = (engine.run history).committed := by
      rw [ran] at active ⊢
      exact committed_of_active (sound.run history) active
    rw [same]
    rcases secured with filled | removed | guards
    next => exact .inl (filled.snoc call)
    next => exact .inr (.inl (removed.snoc_rollback call))
    next => exact .inr (.inr guards)
  | false =>
    rw [committed_eq_writerView (next.closed active)]
    rcases written with filled | removed | guards
    next => exact .inl filled
    next => exact .inr (.inl (removed.idle sound active))
    next => exact .inr (.inr guards)

-- The induction has to follow what is committed as well, which a rollback may lead back to.
theorem secured_run (reached : Reachable configs Call.Unnumbered engine)
    (idle : engine.active = false) (member : engine.committed.catalog.Contains row)
    (unnumbered : ∀ call ∈ history, call.Unnumbered) :
    Secured engine row history [] (engine.run history).writerView.catalog ∧
      Secured engine row history [.rollback] (engine.run history).committed.catalog := by
  induction history using List.reverseRecOn with
  | nil =>
    have guards := reached.allKeyed.committed.guards member
    have same := committed_eq_writerView (reached.sound.closed idle)
    exact ⟨.inr (.inr (same ▸ guards)), .inr (.inr guards)⟩
  | append_singleton history call ih =>
    obtain ⟨earlier, last⟩ := List.forall_mem_append.1 unnumbered
    obtain ⟨written, committed⟩ := ih earlier
    have run := reached.run earlier
    have view : Secured engine row (history ++ [call]) []
        (engine.run (history ++ [call])).writerView.catalog := by
      by_cases rollback : call = .rollback
      next =>
        rw [rollback]
        exact committed.rolledBack run.sound
      next => exact written.snoc run (last call List.mem_cons_self) rollback
    exact ⟨view, committed.committed_snoc reached.sound view⟩

def Adds (engine : Engine) (history : List Call) (row : CatalogRow) : Prop :=
  ∃ before call, history = before ++ [call] ∧ call ≠ .rollback ∧
    ¬ (engine.run before).writerView.catalog.Contains row ∧
    (engine.run history).writerView.catalog.Contains row

/-- If no call brings ids of its own, the id of a committed row is not given to another row later, and
all rows that a call puts into its table have greater ids. It can only be given again when a truncation
has removed the row together with all rows of its table that have greater ids and no rollback has undone
that, or when the table has had a row with the greatest id that there is. -/
theorem ids_increase (reached : Reachable configs Call.Unnumbered engine)
    (idle : engine.active = false) (member : engine.committed.catalog.Contains row)
    (unnumbered : ∀ call ∈ history, call.Unnumbered) :
    Filled engine row.entity history ∨ Removed engine row history [] ∨
      ∀ other, other.entity = row.entity →
        ((engine.run history).writerView.catalog.Contains other → other.id = row.id →
          other = row) ∧
        (Adds engine history other → row.id < other.id) := by
  have secured := (secured_run reached idle member unnumbered).1
  by_cases adding : ∃ before call, history = before ++ [call] ∧ call ≠ .rollback
  next =>
    -- Rows come in by the last call only, and before it the id has been guarded already.
    obtain ⟨before, call, rfl, onwards⟩ := adding
    obtain ⟨earlier, last⟩ := List.forall_mem_append.1 unnumbered
    rcases (secured_run reached idle member earlier).1 with filled | removed | guards
    next => exact .inl (filled.snoc call)
    next => exact .inr (.inl (removed.snoc onwards))
    next =>
      rcases guards_snoc (reached.run earlier) (last call List.mem_cons_self) onwards guards
        with filled | removed | ⟨guarded, greater⟩
      next => exact .inl filled
      next => exact .inr (.inl removed)
      next =>
        refine .inr (.inr fun other kind => ⟨fun present => guarded.alone other present kind, ?_⟩)
        rintro ⟨start, final, same, -, new, present⟩
        obtain ⟨rfl, -⟩ := List.append_inj' same rfl
        exact greater other new present kind
  next =>
    rcases secured with filled | removed | guards
    next => exact .inl filled
    next => exact .inr (.inl removed)
    next =>
      refine .inr (.inr fun other kind => ⟨fun present => guards.alone other present kind, ?_⟩)
      rintro ⟨before, call, same, onwards, -⟩
      exact absurd ⟨before, call, same, onwards⟩ adding

def nes : CatalogRow :=
  .system { id := 1, code := "NES", name := "NES" }

def snes (id : Int) : CatalogRow :=
  .system { id, code := "SNES", name := "SNES" }

theorem reachable_oneSystem : Reachable configs Call.Unnumbered oneSystem :=
  Reachable.memory.step (Call.unnumbered_insert rfl)

def sweptInVain : List Call :=
  [.begin false, .truncate, .rollback, .insert (snes 0)]

theorem unnumbered_sweptInVain : ∀ call ∈ sweptInVain, call.Unnumbered := by
  simp only [sweptInVain, List.forall_mem_cons]
  exact ⟨fun _ => False.elim, fun _ => False.elim, fun _ => False.elim,
    Call.unnumbered_insert rfl, by simp⟩

theorem not_removed_sweptInVain : ¬ Removed oneSystem row sweptInVain [] := by
  rintro ⟨before, call, rest, same, truncates, -, lasts⟩
  have undone : Undone (oneSystem.run [.begin false, .truncate]) [.rollback, .insert (snes 0)] :=
    ⟨rfl, [], _, rfl, trivial⟩
  obtain rfl | ⟨codes, rfl⟩ := truncates
  next =>
    rcases before with _ | ⟨_, _ | ⟨_, _ | ⟨_, _ | ⟨_, _⟩⟩⟩⟩
    all_goals simp [sweptInVain] at same
    obtain ⟨rfl, rfl⟩ := same
    exact lasts undone
  next =>
    have member : Call.truncateSystems codes ∈ sweptInVain := by simp [same]
    simp [sweptInVain] at member

theorem not_filled_sweptInVain : ¬ Filled oneSystem .system sweptInVain := by
  have room : ∀ before ∈ sweptInVain.inits,
      ∀ system ∈ (oneSystem.run before).writerView.catalog.systems, system.id < greatestId := by
    decide +kernel
  rintro ⟨before, rest, same, last, member, kind, full⟩
  cases last with
  | system system =>
    have start := (List.mem_inits before sweptInVain).2 ⟨rest, same.symm⟩
    exact Int.not_le.2 (room before start system member) full
  | _ => contradiction

theorem ids_increase_swept_in_vain :
    Reachable (fun _ => False) Call.Unnumbered oneSystem ∧ oneSystem.active = false ∧
      oneSystem.committed.catalog.Contains nes ∧ (∀ call ∈ sweptInVain, call.Unnumbered) ∧
      Adds oneSystem sweptInVain (snes 2) ∧ nes.id < (snes 2).id := by
  have reached : Reachable (fun _ => False) Call.Unnumbered oneSystem := reachable_oneSystem
  have member : oneSystem.committed.catalog.Contains nes := List.mem_singleton.2 rfl
  have adds : Adds oneSystem sweptInVain (snes 2) := by
    refine ⟨[.begin false, .truncate, .rollback], _, rfl, nofun, ?_, ?_⟩
    all_goals
      simp only [snes, Catalog.Contains]
      decide +kernel
  rcases ids_increase reached rfl member unnumbered_sweptInVain with filled | removed | greater
  next => exact absurd filled not_filled_sweptInVain
  next => exact absurd removed not_removed_sweptInVain
  next =>
    exact ⟨reached, rfl, member, unnumbered_sweptInVain, adds, (greater (snes 2) rfl).2 adds⟩

theorem id_given_again :
    let history := [.truncate, .insert (snes 0)]
    Reachable (fun _ => False) Call.Unnumbered oneSystem ∧
      (∀ call ∈ history, call.Unnumbered) ∧
      oneSystem.active = false ∧ oneSystem.committed.catalog.Contains nes ∧
      (oneSystem.run history).active = false ∧
      (oneSystem.run history).committed.catalog.Contains (snes 1) ∧
      (snes 1).entity = nes.entity ∧ (snes 1).id = nes.id ∧ snes 1 ≠ nes := by
  intro history
  have unnumbered : ∀ call ∈ history, call.Unnumbered := by
    simp only [history, List.forall_mem_cons]
    exact ⟨fun _ => False.elim, Call.unnumbered_insert rfl, by simp⟩
  exact ⟨reachable_oneSystem, unnumbered, rfl, List.mem_singleton.2 rfl, rfl,
    List.mem_singleton.2 rfl, rfl, rfl, by decide⟩

end Engine

end MediaCatalog
