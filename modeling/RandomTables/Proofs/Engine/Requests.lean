import RandomTables.Proofs.Store.Load
import RandomTables.Engine

/-!
What a request does to an engine. An expansion, a roll and a choice may move the random source and
change nothing else, and a request that fails before it draws changes nothing. A load changes the
tables, and only if it succeeds.
-/

namespace RandomTables.Engine.Request

variable {α β : Type}

def OnlyDraws (request : Request α) : Prop :=
  ∀ engine value after, request engine = .ok (value, after) →
    ∃ source, after = { engine with source }

theorem onlyDraws_pure (value : α) : OnlyDraws (pure value : Request α) := by
  intro engine result after h
  cases h
  exact ⟨engine.source, rfl⟩

theorem onlyDraws_get : OnlyDraws (get : Request Engine) := by
  intro engine result after h
  cases h
  exact ⟨engine.source, rfl⟩

theorem OnlyDraws.bind {request : Request α} {next : α → Request β} (h : OnlyDraws request)
    (hnext : ∀ value, OnlyDraws (next value)) : OnlyDraws (request >>= next) := by
  intro engine result after hrun
  change (Except.bind (request engine) fun step => next step.1 step.2) = .ok (result, after) at hrun
  cases hrequest : request engine with
  | error fault =>
      rw [hrequest] at hrun
      cases hrun
  | ok step =>
      obtain ⟨value, middle⟩ := step
      rw [hrequest] at hrun
      obtain ⟨source, rfl⟩ := h engine value middle hrequest
      obtain ⟨last, rfl⟩ := hnext value _ result after hrun
      exact ⟨last, rfl⟩

theorem OnlyDraws.map {request : Request α} (h : OnlyDraws request) (f : α → β) :
    OnlyDraws (f <$> request) := by
  rw [map_eq_pure_bind]
  exact h.bind fun value => onlyDraws_pure (f value)

theorem onlyDraws_draw (drawn : Draw Seeded α) : OnlyDraws (draw drawn) := by
  intro engine value after h
  rw [draw] at h
  cases hdrawn : drawn engine.source with
  | error fault =>
      rw [hdrawn] at h
      cases h
  | ok step =>
      rw [hdrawn] at h
      cases h
      exact ⟨step.2, rfl⟩

theorem onlyDraws_expand (name : String) (scope : Option String) : OnlyDraws (expand name scope) :=
  onlyDraws_get.bind fun _ => (onlyDraws_draw _).map _

theorem onlyDraws_expandText (text : String) : OnlyDraws (expandText text) :=
  onlyDraws_get.bind fun _ => (onlyDraws_draw _).map _

theorem onlyDraws_rollDice (text : String) : OnlyDraws (rollDice text) := by
  refine onlyDraws_get.bind fun engine => ?_
  split
  · exact (onlyDraws_draw _).map _
  · exact onlyDraws_pure _

theorem onlyDraws_rollRange (text : String) : OnlyDraws (rollRange text) := by
  unfold rollRange
  split
  · exact (onlyDraws_draw _).map _
  · exact onlyDraws_pure _

theorem onlyDraws_chooseFromList (list : String) : OnlyDraws (chooseFromList list) :=
  onlyDraws_draw _

/-! ### Requests that fail -/

variable {engine : Engine} {text : String}

theorem get_bind (next : Engine → Request α) : (get >>= next) engine = next engine engine := rfl

theorem bind_of_ok {request : Request α} {value : α} {after : Engine}
    (h : request engine = .ok (value, after)) (next : α → Request β) :
    (request >>= next) engine = next value after := by
  change (Except.bind (request engine) fun step => next step.1 step.2) = _
  rw [h]
  rfl

theorem rollDice_of_error {error : SpecError}
    (h : Dice.Spec.parse engine.settings.standardFaces text = .error error) :
    rollDice text engine = .ok (.error (.spec error), engine) := by
  rw [rollDice, get_bind, h]
  rfl

theorem rollRange_of_error {error : SpecError} (h : Range.Spec.parse text = .error error) :
    rollRange text engine = .ok (.error (.spec error), engine) := by
  rw [rollRange, h]
  rfl

theorem chooseFromList_of_nil (h : Choice.ofList text = []) :
    chooseFromList text engine = .ok (none, engine) := by
  rw [chooseFromList, Choice.chooseFromList, h]
  rfl

theorem bind_pure (request : Request α) (f : α → β) (engine : Engine) :
    (request >>= fun value => pure (f value)) engine =
      (request engine).map fun (value, after) => (f value, after) := by
  change (Except.bind (request engine) fun step => (pure (f step.1) : Request β) step.2) = _
  cases request engine <;> rfl

/-! ### Loads -/

variable {disk : Disk} {path : String}

theorem loadFile_of_ok {tables : Store} {count : Nat}
    (h : engine.tables.loadFile disk path = .ok (tables, count)) :
    loadFile disk path engine = .ok (.ok count, { engine with tables }) := by
  rw [loadFile, get_bind, Load.complete_eq_ok_iff.1 h]
  rfl

theorem loadFile_of_error {error : LoadError}
    (h : engine.tables.loadFile disk path = .error error) :
    loadFile disk path engine = .ok (.error (.table error), engine) := by
  obtain ⟨_, hreads, _⟩ := Load.exists_reads_file disk path
  rw [loadFile, get_bind, hreads.on_of_error (Load.complete_eq_error_iff.1 h)]
  rfl

end RandomTables.Engine.Request
