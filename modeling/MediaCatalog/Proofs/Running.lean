set_option autoImplicit false

namespace MediaCatalog

variable {ε δ σ α β : Type}

@[simp] theorem mapError_ok (wrap : ε → δ) (value : α) :
    (Except.ok value : Except ε α).mapError wrap = .ok value := rfl

@[simp] theorem mapError_error (wrap : ε → δ) (error : ε) :
    (Except.error error : Except ε α).mapError wrap = .error (wrap error) := rfl

theorem map_eq_ok {outcome : Except ε α} {wrap : α → β} {value : β} :
    outcome.map wrap = .ok value ↔ ∃ found, outcome = .ok found ∧ wrap found = value := by
  cases outcome with
  | error error => exact ⟨nofun, nofun⟩
  | ok found => simp [Except.map]

@[simp] theorem run_pure (value : α) (state : σ) :
    (pure value : ExceptT ε (StateM σ) α) state = (.ok value, state) := rfl

@[simp] theorem run_throw (error : ε) (state : σ) :
    (throw error : ExceptT ε (StateM σ) α) state = (.error error, state) := rfl

@[simp] theorem run_get (state : σ) :
    (get : ExceptT ε (StateM σ) σ) state = (.ok state, state) := rfl

@[simp] theorem run_set (after state : σ) :
    (set after : ExceptT ε (StateM σ) PUnit) state = (.ok (), after) := rfl

@[simp] theorem run_modify (change : σ → σ) (state : σ) :
    (modify change : ExceptT ε (StateM σ) PUnit) state = (.ok (), change state) := rfl

@[simp] theorem run_lift (outcome : Except ε α) (state : σ) :
    (liftM outcome : ExceptT ε (StateM σ) α) state = (outcome, state) := rfl

@[simp] theorem run_bind (action : ExceptT ε (StateM σ) α) (next : α → ExceptT ε (StateM σ) β)
    (state : σ) :
    (action >>= next) state =
      match action state with
      | (.ok value, after) => next value after
      | (.error error, after) => (.error error, after) := by
  simp only [bind, ExceptT.bind, ExceptT.mk, StateT.bind]
  rcases action state with ⟨_ | _, _⟩ <;> rfl

@[simp] theorem run_discard (action : ExceptT ε (StateM σ) α) (state : σ) :
    (discard action : ExceptT ε (StateM σ) PUnit) state =
      match action state with
      | (.ok _, after) => (.ok (), after)
      | (.error error, after) => (.error error, after) := by
  simp only [discard, Functor.mapConst, ExceptT.map, ExceptT.mk, Function.comp_apply, bind,
    StateT.bind]
  rcases action state with ⟨_ | _, _⟩ <;> rfl

theorem run_bind_ok {action : ExceptT ε (StateM σ) α} {next : α → ExceptT ε (StateM σ) β}
    {state after : σ} {value : β} :
    (action >>= next) state = (.ok value, after) ↔
      ∃ found between, action state = (.ok found, between) ∧
        next found between = (.ok value, after) := by
  rw [run_bind]
  rcases action state with ⟨error | found, between⟩
  next =>
    refine ⟨nofun, ?_⟩
    rintro ⟨found, between, same, -⟩
    cases same
  next =>
    refine ⟨fun done => ⟨found, between, rfl, done⟩, ?_⟩
    rintro ⟨_, _, same, done⟩
    cases same
    exact done

theorem run_map (action : ExceptT ε (StateM σ) α) (wrap : α → β) (state : σ) :
    (do return wrap (← action) : ExceptT ε (StateM σ) β) state =
      ((action state).1.map wrap, (action state).2) := by
  rw [run_bind]
  rcases action state with ⟨_ | _, _⟩ <;> rfl

@[simp] theorem run_tryCatch (action : ExceptT ε (StateM σ) α)
    (handle : ε → ExceptT ε (StateM σ) α) (state : σ) :
    (tryCatch action handle) state =
      match action state with
      | (.ok value, after) => (.ok value, after)
      | (.error error, after) => handle error after := by
  simp only [tryCatch, tryCatchThe, MonadExceptOf.tryCatch, ExceptT.tryCatch, ExceptT.mk, bind,
    StateT.bind]
  rcases action state with ⟨_ | _, _⟩ <;> rfl

@[simp] theorem run_ite (condition : Prop) [Decidable condition]
    (first second : ExceptT ε (StateM σ) α) (state : σ) :
    (if condition then first else second) state =
      if condition then first state else second state := by
  split <;> rfl

end MediaCatalog
