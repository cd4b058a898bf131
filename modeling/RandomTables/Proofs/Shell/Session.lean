import RandomTables.Proofs.Shell.Step

/-!
Sessions of the shell. Two things hold of whatever is typed: a harmless line may be left out, and
the other lines get what they got with it; and a new seed makes a session forget all that came
before it, as long as no file was loaded.
-/

namespace RandomTables.Shell

/-- What the lines of a session get, one after another, and the fault that ended it, if one did. -/
structure Transcript where
  replies : List Reply
  fault : Option DrawFault
deriving DecidableEq

namespace Transcript

def cons (reply : Reply) (transcript : Transcript) : Transcript :=
  { transcript with replies := reply :: transcript.replies }

/-- Goes on with the engine that a line leaves, if it leaves one. -/
def goOn (outcome : Except DrawFault (Reply × Engine)) (later : Engine → Transcript) : Transcript :=
  match outcome with
  | .ok (reply, after) => (later after).cons reply
  | .error fault => ⟨[], some fault⟩

/-- The transcript without the reply at this position, if the session came so far. -/
def without (position : Nat) (transcript : Transcript) : Transcript :=
  { transcript with replies := transcript.replies.eraseIdx position }

/-- Nothing follows a fault. -/
def followedBy (transcript later : Transcript) : Transcript :=
  match transcript.fault with
  | none => { later with replies := transcript.replies ++ later.replies }
  | some _ => transcript

theorem without_zero_cons (reply : Reply) (transcript : Transcript) :
    (transcript.cons reply).without 0 = transcript := rfl

theorem without_succ_cons (position : Nat) (reply : Reply) (transcript : Transcript) :
    (transcript.cons reply).without (position + 1) = (transcript.without position).cons reply := rfl

theorem nil_followedBy (later : Transcript) : (Transcript.mk [] none).followedBy later = later :=
  rfl

theorem cons_followedBy (reply : Reply) (transcript later : Transcript) :
    (transcript.cons reply).followedBy later = (transcript.followedBy later).cons reply := by
  obtain ⟨replies, fault⟩ := transcript
  cases fault <;> rfl

end Transcript

/-- Gives the lines to the shell in order, whether or not one of them asks to end the session. -/
def transcript (disk : Disk) : List String → Engine → Transcript
  | [], _ => ⟨[], none⟩
  | line :: later, engine => .goOn (run disk line engine) (transcript disk later)

variable {disk : Disk} {engine after : Engine} {line : String} {reply : Reply}

theorem transcript_nil : transcript disk [] engine = ⟨[], none⟩ := rfl

theorem transcript_cons_of_ok (h : run disk line engine = .ok (reply, after))
    (later : List String) :
    transcript disk (line :: later) engine = (transcript disk later after).cons reply := by
  rw [transcript, h, Transcript.goOn]

theorem transcript_cons_of_error {fault : DrawFault} (h : run disk line engine = .error fault)
    (later : List String) : transcript disk (line :: later) engine = ⟨[], some fault⟩ := by
  rw [transcript, h, Transcript.goOn]

/-! ### Harmless lines -/

/-- A line that only tells something, or that asks for what cannot be had. -/
def Harmless (disk : Disk) (engine : Engine) (line : String) : Prop :=
  Command.Harmless disk engine (Command.word line) (Command.argument line)

/-- A line that is harmless stays so through the session. -/
theorem Harmless.of_run {other : String} (h : Harmless disk engine other)
    (hrun : run disk line engine = .ok (reply, after)) : Harmless disk after other :=
  Command.Harmless.of_settings_eq h (settings_of_run hrun)

/-- A harmless line may be left out: the other lines get the same replies with it and without it. -/
theorem transcript_without_harmless (disk : Disk) (engine : Engine) (before later : List String)
    (line : String) (harmless : Harmless disk engine line) :
    (transcript disk (before ++ line :: later) engine).without before.length =
      transcript disk (before ++ later) engine := by
  induction before generalizing engine with
  | nil =>
      obtain ⟨reply, hrun⟩ := run_of_harmless harmless
      rw [List.nil_append, transcript_cons_of_ok hrun]
      exact Transcript.without_zero_cons reply _
  | cons first before ih =>
      rw [List.cons_append, List.cons_append, List.length_cons]
      cases hrun : run disk first engine with
      | error fault =>
          rw [transcript_cons_of_error hrun, transcript_cons_of_error hrun]
          rfl
      | ok step =>
          obtain ⟨reply, after⟩ := step
          rw [transcript_cons_of_ok hrun, transcript_cons_of_ok hrun,
            Transcript.without_succ_cons, ih after (harmless.of_run hrun)]

/-- An engine with one table, on a disk without files. -/
def tavern : Engine where
  tables := Store.empty.insert ⟨"inn", [.literal "The Red Ox", .literal "The [3d6] Barrels"]⟩
  dice := Dice.Registry.builtin
  settings := Settings.standard
  source := Seeded.ofSeed 7
  seed := some 7

def noFiles : Disk := fun _ => .error .notFound

theorem transcript_without_failing_load :
    Harmless noFiles tavern "LOAD inns.txt" ∧
      (transcript noFiles (["roll 3d6", "inn"] ++ "LOAD inns.txt" :: ["table inn", "seed"])
        tavern).without 2 =
        transcript noFiles (["roll 3d6", "inn"] ++ ["table inn", "seed"]) tavern := by
  have hharmless : Harmless noFiles tavern "LOAD inns.txt" :=
    .load (by cbv) (.inr ⟨.file .notFound, by cbv⟩)
  exact ⟨hharmless, transcript_without_harmless noFiles tavern _ _ _ hharmless⟩

/-! ### A new seed -/

theorem run_seedLine (disk : Disk) (engine : Engine) (seed : UInt64) :
    run disk (Command.seedLine seed) engine =
      .ok (⟨printed [s!"Seed set to {seed.toNat}"], true⟩, engine.withSeed seed) := by
  rw [run_eq, Command.parse_seedLine, perform_reseed]
  rfl

theorem Loads.of_tables_eq {other : Engine} (h : Loads disk engine line)
    (htables : other.tables = engine.tables) : Loads disk other line :=
  ⟨h.1, htables ▸ h.2⟩

/-- Nothing of an engine but its tables, dice and settings counts once it has a new seed. -/
theorem transcript_seedLine_congr {other : Engine} (h : engine.SameStock other) (seed : UInt64)
    (later : List String) :
    transcript disk (Command.seedLine seed :: later) engine =
      transcript disk (Command.seedLine seed :: later) other := by
  rw [transcript_cons_of_ok (run_seedLine disk engine seed),
    transcript_cons_of_ok (run_seedLine disk other seed), h.withSeed_eq]

/-- A new seed makes a session forget what came before: after any lines that load no file, the lines
that follow the new seed get what they get when the session begins with it. -/
theorem transcript_reseed (disk : Disk) (engine : Engine) (past : List String)
    (unloaded : ∀ line ∈ past, ¬ Loads disk engine line) (seed : UInt64) (later : List String) :
    transcript disk (past ++ Command.seedLine seed :: later) engine =
      (transcript disk past engine).followedBy
        (transcript disk (Command.seedLine seed :: later) engine) := by
  induction past generalizing engine with
  | nil => rw [List.nil_append, transcript_nil, Transcript.nil_followedBy]
  | cons line past ih =>
      rw [List.cons_append]
      cases hrun : run disk line engine with
      | error fault =>
          rw [transcript_cons_of_error hrun, transcript_cons_of_error hrun]
          rfl
      | ok step =>
          obtain ⟨reply, after⟩ := step
          have hstock : after.SameStock engine :=
            sameStock_of_run hrun (unloaded line List.mem_cons_self)
          have hrest : ∀ other ∈ past, ¬ Loads disk after other := fun other hother hloads =>
            unloaded other (List.mem_cons_of_mem _ hother) (hloads.of_tables_eq hstock.tables.symm)
          rw [transcript_cons_of_ok hrun, transcript_cons_of_ok hrun, ih after hrest,
            transcript_seedLine_congr hstock, Transcript.cons_followedBy]

theorem transcript_reseed_tavern :
    (∀ line ∈ ["inn", "roll 3d6", "load inns.txt", "seed 12"], ¬ Loads noFiles tavern line) ∧
      transcript noFiles (["inn", "roll 3d6", "load inns.txt", "seed 12"] ++
        Command.seedLine 7 :: ["table inn"]) tavern =
        (transcript noFiles ["inn", "roll 3d6", "load inns.txt", "seed 12"] tavern).followedBy
          (transcript noFiles [Command.seedLine 7, "table inn"] tavern) := by
  have hunloaded : ∀ line ∈ ["inn", "roll 3d6", "load inns.txt", "seed 12"],
      ¬ Loads noFiles tavern line := by
    rintro line - ⟨-, ⟨loaded, count⟩, hok⟩
    rw [Store.loadFile, Load.complete_eq_ok_iff, Load.file] at hok
    split at hok <;> cases hok
  exact ⟨hunloaded, transcript_reseed noFiles tavern _ hunloaded 7 _⟩

end RandomTables.Shell
