import LevelGraph.Store.Handle

/-!
# Runs of actions

An action works on a state and may fail, and what a failure has changed stays changed. A run of it has
both a result and a state, so a proof that follows a run takes the run of each part in turn: the rest of
the action goes on from the state that the part leaves, or the failure of the part is the failure of all.

What an action keeps in every run is a relation between the states before and after. If the relation goes
on from state to state, then an action keeps it when all of its parts do.
-/

namespace LevelGraph.Action

variable {ε σ α β : Type} {action : ExceptT ε (StateM σ) α} {next : α → ExceptT ε (StateM σ) β}
variable {state after : σ}

/-- A value that is returned comes with the state as it is. -/
@[simp] theorem run_pure (value : α) :
    (pure value : ExceptT ε (StateM σ) α).run.run state = (.ok value, state) := rfl

/-- A fault leaves the state as it is. -/
@[simp] theorem run_throw (fault : ε) :
    (throw fault : ExceptT ε (StateM σ) α).run.run state = (.error fault, state) := rfl

/-- To read the state is to return it. -/
@[simp] theorem run_get :
    (get : ExceptT ε (StateM σ) σ).run.run state = (.ok state, state) := rfl

/-- A state that is written takes the place of the one before. -/
@[simp] theorem run_set (new : σ) :
    (set new : ExceptT ε (StateM σ) PUnit).run.run state = (.ok ⟨⟩, new) := rfl

/-- A change is applied to the state. -/
@[simp] theorem run_modify (change : σ → σ) :
    (modify change : ExceptT ε (StateM σ) PUnit).run.run state = (.ok ⟨⟩, change state) := rfl

/-- A result that needs no state is taken over, be it a value or a fault. -/
@[simp] theorem run_lift (result : Except ε α) :
    (liftM result : ExceptT ε (StateM σ) α).run.run state = (result, state) := by
  cases result <;> rfl

/-- The second action runs where the first one succeeds, on the state that it leaves. After a fault only
that state is left. -/
theorem run_bind :
    (action >>= next).run.run state =
      match action.run.run state with
      | (.ok value, after) => (next value).run.run after
      | (.error fault, after) => (.error fault, after) := by
  simp only [bind, ExceptT.bind, ExceptT.mk, ExceptT.run, StateT.run, StateT.bind, ExceptT.bindCont]
  rcases action state with ⟨_ | _, _⟩ <;> rfl

/-- After a success the second action goes on with its value and its state. -/
theorem run_bind_of_ok {value : α} (run : action.run.run state = (.ok value, after)) :
    (action >>= next).run.run state = (next value).run.run after := by
  rw [run_bind, run]

/-- After a fault the second action does not run. -/
theorem run_bind_of_error {fault : ε} (run : action.run.run state = (.error fault, after)) :
    (action >>= next).run.run state = (.error fault, after) := by
  rw [run_bind, run]

/-- Nothing runs behind a fault. -/
@[simp] theorem run_throw_bind (fault : ε) :
    ((throw fault : ExceptT ε (StateM σ) α) >>= next).run.run state = (.error fault, state) :=
  run_bind_of_error (run_throw fault)

/-- What goes on from the state goes on from the one that is there. -/
@[simp] theorem run_get_bind {next : σ → ExceptT ε (StateM σ) β} :
    (get >>= next).run.run state = (next state).run.run state := run_bind_of_ok run_get

/-- What goes on after a state was written goes on from that state. -/
@[simp] theorem run_set_bind {next : PUnit → ExceptT ε (StateM σ) β} (new : σ) :
    (set new >>= next).run.run state = (next ⟨⟩).run.run new := run_bind_of_ok (run_set new)

/-- What goes on after a change goes on from the changed state. -/
@[simp] theorem run_modify_bind {next : PUnit → ExceptT ε (StateM σ) β} (change : σ → σ) :
    (modify change >>= next).run.run state = (next ⟨⟩).run.run (change state) :=
  run_bind_of_ok (run_modify change)

/-- A run of an action leaves a state that is in a relation to the one before. -/
def Keeps (relation : σ → σ → Prop) (action : ExceptT ε (StateM σ) α) : Prop :=
  ∀ state, relation state (action.run.run state).2

variable {relation : σ → σ → Prop}

/-- An action that begins with a look at the state. -/
theorem keeps_get_bind {next : σ → ExceptT ε (StateM σ) β}
    (rest : ∀ state, relation state ((next state).run.run state).2) :
    Keeps relation (get >>= next) := by
  intro state
  rw [run_get_bind]
  exact rest state

/-- Where a relation between states can be chained, two actions that keep to it keep to it together. -/
theorem keeps_bind (trans : ∀ {first second third}, relation first second → relation second third →
      relation first third) (first : Keeps relation action)
    (rest : ∀ value, Keeps relation (next value)) : Keeps relation (action >>= next) := by
  intro state
  have kept := first state
  rw [run_bind]
  rcases run : action.run.run state with ⟨fault | value, between⟩
  · rw [run] at kept
    exact kept
  · rw [run] at kept
    exact trans kept (rest value between)

end LevelGraph.Action
