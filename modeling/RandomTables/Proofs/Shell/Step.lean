import RandomTables.Proofs.Engine.Requests
import RandomTables.Proofs.Shell.Line

/-!
What one line of the shell does to the engine. It draws, or it takes a new seed, or it loads a file;
the dice and the settings stay as they are. A harmless line does nothing to the engine at all.
-/

namespace RandomTables

namespace Engine

def withSeed (engine : Engine) (seed : UInt64) : Engine :=
  { engine with source := Seeded.ofSeed seed, seed := some seed }

/-- Two engines that differ in the random source and the seed only. -/
structure SameStock (engine other : Engine) : Prop where
  tables : engine.tables = other.tables
  dice : engine.dice = other.dice
  settings : engine.settings = other.settings

theorem SameStock.withSeed_eq {engine other : Engine} (h : engine.SameStock other) (seed : UInt64) :
    engine.withSeed seed = other.withSeed seed := by
  rw [withSeed, withSeed, h.tables, h.dice, h.settings]

end Engine

namespace Shell

variable {disk : Disk} {engine after : Engine} {command : Command} {lines : List String}

theorem perform_reseed (disk : Disk) (engine : Engine) (seed : UInt64) :
    perform disk (.reseed seed) engine =
      .ok ([s!"Seed set to {seed.toNat}"], engine.withSeed seed) := rfl

theorem perform_of_idle (h : command.Idle disk engine) :
    ∃ lines, perform disk command engine = .ok (lines, engine) := by
  open Engine.Request in
  cases h with
  | help => exact ⟨_, rfl⟩
  | list => exact ⟨_, rfl⟩
  | dice => exact ⟨_, rfl⟩
  | expandNothing => exact ⟨_, rfl⟩
  | loadNothing => exact ⟨_, rfl⟩
  | showSeed => exact ⟨_, rfl⟩
  | badSeed text => exact ⟨_, rfl⟩
  | load hload => exact ⟨_, bind_of_ok (loadFile_of_error hload) _⟩
  | roll hroll => exact ⟨_, bind_of_ok (rollDice_of_error hroll) _⟩
  | range hrange => exact ⟨_, bind_of_ok (rollRange_of_error hrange) _⟩
  | choose hnone => exact ⟨_, bind_of_ok (chooseFromList_of_nil hnone) _⟩

theorem onlyDraws_perform (hload : ∀ path, command ≠ .load path)
    (hseed : ∀ seed, command ≠ .reseed seed) : Engine.Request.OnlyDraws (perform disk command) := by
  open Engine.Request in
  cases command with
  | quit => exact onlyDraws_pure _
  | help => exact onlyDraws_pure _
  | loadNothing => exact onlyDraws_pure _
  | badSeed text => exact onlyDraws_pure _
  | expandNothing => exact onlyDraws_get.bind fun _ => onlyDraws_pure _
  | list => exact onlyDraws_get.bind fun _ => onlyDraws_pure _
  | dice => exact onlyDraws_get.bind fun _ => onlyDraws_pure _
  | showSeed => exact onlyDraws_get.bind fun _ => onlyDraws_pure _
  | expand name => exact (onlyDraws_expand name none).bind fun _ => onlyDraws_pure _
  | text template => exact (onlyDraws_expandText template).bind fun _ => onlyDraws_pure _
  | roll spec => exact (onlyDraws_rollDice spec).bind fun _ => onlyDraws_pure _
  | range spec => exact (onlyDraws_rollRange spec).bind fun _ => onlyDraws_pure _
  | choose choices => exact (onlyDraws_chooseFromList choices).bind fun _ => onlyDraws_pure _
  | load path => exact absurd rfl (hload path)
  | reseed seed => exact absurd rfl (hseed seed)

theorem perform_cases (h : perform disk command engine = .ok (lines, after)) :
    (∃ source, after = { engine with source }) ∨
    (∃ seed, command = .reseed seed ∧ after = engine.withSeed seed) ∨
    ∃ path tables count, command = .load path ∧
      engine.tables.loadFile disk path = .ok (tables, count) ∧ after = { engine with tables } := by
  cases command with
  | reseed seed =>
      rw [perform_reseed] at h
      cases h
      exact .inr (.inl ⟨seed, rfl, rfl⟩)
  | load path =>
      cases hload : engine.tables.loadFile disk path with
      | error error =>
          rw [perform, Engine.Request.bind_of_ok (Engine.Request.loadFile_of_error hload)] at h
          cases h
          exact .inl ⟨engine.source, rfl⟩
      | ok result =>
          obtain ⟨tables, count⟩ := result
          rw [perform, Engine.Request.bind_of_ok (Engine.Request.loadFile_of_ok hload)] at h
          cases h
          exact .inr (.inr ⟨path, tables, count, rfl, hload, rfl⟩)
  | _ => exact .inl (onlyDraws_perform (by simp) (by simp) engine _ after h)

/-! ### One line -/

variable {line : String} {reply : Reply}

theorem run_eq (disk : Disk) (line : String) (engine : Engine) :
    run disk line engine = (perform disk (Command.parse line) engine).map fun (lines, after) =>
      (⟨printed lines, Command.parse line ≠ .quit⟩, after) :=
  Engine.Request.bind_pure _ _ engine

theorem perform_of_run (h : run disk line engine = .ok (reply, after)) :
    ∃ lines, perform disk (Command.parse line) engine = .ok (lines, after) := by
  rw [run_eq] at h
  cases hperform : perform disk (Command.parse line) engine with
  | error fault =>
      rw [hperform] at h
      cases h
  | ok step =>
      rw [hperform] at h
      cases h
      exact ⟨step.1, rfl⟩

theorem run_of_harmless
    (h : Command.Harmless disk engine (Command.word line) (Command.argument line)) :
    ∃ reply, run disk line engine = .ok (reply, engine) := by
  obtain ⟨lines, hperform⟩ := perform_of_idle (Command.idle_parse h)
  rw [run_eq, hperform]
  exact ⟨_, rfl⟩

theorem settings_of_run (h : run disk line engine = .ok (reply, after)) :
    after.settings = engine.settings := by
  obtain ⟨lines, hperform⟩ := perform_of_run h
  rcases perform_cases hperform with ⟨source, rfl⟩ | ⟨seed, -, rfl⟩ | ⟨_, _, _, -, -, rfl⟩ <;> rfl

/-- A file is loaded with the line. -/
def Loads (disk : Disk) (engine : Engine) (line : String) : Prop :=
  Command.word line = "load" ∧
    ∃ loaded, engine.tables.loadFile disk (Command.argument line) = .ok loaded

theorem sameStock_of_run (h : run disk line engine = .ok (reply, after))
    (hloads : ¬ Loads disk engine line) : after.SameStock engine := by
  obtain ⟨lines, hperform⟩ := perform_of_run h
  rcases perform_cases hperform with
    ⟨source, rfl⟩ | ⟨seed, -, rfl⟩ | ⟨path, tables, count, hload, hok, rfl⟩
  · exact ⟨rfl, rfl, rfl⟩
  · exact ⟨rfl, rfl, rfl⟩
  · have hpath := Command.path?_parse line
    rw [hload] at hpath
    split at hpath
    · next hline =>
        cases hpath
        exact absurd ⟨hline.1, _, hok⟩ hloads
    · cases hpath

end Shell

end RandomTables
