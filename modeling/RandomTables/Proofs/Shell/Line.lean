import Mathlib
import RandomTables.Proofs.Store.Load
import RandomTables.Proofs.Text.Cut
import RandomTables.Proofs.Text.Decimal
import RandomTables.Proofs.Text.Trim
import RandomTables.Shell

/-!
What a line of the shell asks for. Its first word, in any letter case, is the command, and the rest
without the blanks around it is the argument.
-/

namespace RandomTables.Command

def word (line : String) : String :=
  Text.lowercase (split line.toList).1

def argument (line : String) : String :=
  (split line.toList).2

theorem split_append_cons {first : List Char} {blank : Char}
    (hfirst : ∀ c ∈ first, Text.isBlank c = false) (hblank : Text.isBlank blank)
    (rest : List Char) :
    split (first ++ blank :: rest) = (String.ofList first, String.ofList (Text.trim rest)) := by
  rw [split, Text.cutFirst?_append_cons hfirst hblank]

/-- Commands for which an engine does nothing but tell something: it is all they ask for, or they
ask for what cannot be had. -/
inductive Idle (disk : Disk) (engine : Engine) : Command → Prop
  | help : Idle disk engine .help
  | list : Idle disk engine .list
  | dice : Idle disk engine .dice
  | expandNothing : Idle disk engine .expandNothing
  | loadNothing : Idle disk engine .loadNothing
  | showSeed : Idle disk engine .showSeed
  | badSeed (text : String) : Idle disk engine (.badSeed text)
  | load {path : String} {error : LoadError}
      (hload : engine.tables.loadFile disk path = .error error) : Idle disk engine (.load path)
  | roll {spec : String} {error : SpecError}
      (hroll : Dice.Spec.parse engine.settings.standardFaces spec = .error error) :
      Idle disk engine (.roll spec)
  | range {spec : String} {error : SpecError} (hrange : Range.Spec.parse spec = .error error) :
      Idle disk engine (.range spec)
  | choose {choices : String} (hnone : Choice.ofList choices = []) :
      Idle disk engine (.choose choices)

/-- The same of the word and the argument of a line. -/
inductive Harmless (disk : Disk) (engine : Engine) (word argument : String) : Prop
  | help (hword : word ∈ ["help", "h", "?"])
  | list (hword : word ∈ ["list", "ls"])
  | dice (hword : word = "dice")
  | table (hword : word ∈ ["table", "t"]) (hnothing : argument = "")
  | seed (hword : word = "seed") (hseed : argument = "" ∨ Seeded.readSeed? argument = none)
  | load (hword : word = "load")
      (hload : argument = "" ∨ ∃ error, engine.tables.loadFile disk argument = .error error)
  | roll (hword : word ∈ ["roll", "r"]) {spec : String}
      (hspec : spec = if argument = "" then "d" else argument) {error : SpecError}
      (hroll : Dice.Spec.parse engine.settings.standardFaces spec = .error error)
  | range (hword : word = "range") {error : SpecError}
      (hrange : Range.Spec.parse argument = .error error)
  | choose (hword : word ∈ ["choose", "c"])
      (hblank : ∀ item ∈ argument.toList.splitOn ',', ∀ c ∈ item, Text.isBlank c)

variable {disk : Disk} {engine : Engine} {line : String}

/-- Neither the tables nor the state of the random source count. -/
theorem Harmless.of_settings_eq {other : Engine} {word argument : String}
    (h : Harmless disk engine word argument) (hsettings : other.settings = engine.settings) :
    Harmless disk other word argument := by
  cases h with
  | help hword => exact .help hword
  | list hword => exact .list hword
  | dice hword => exact .dice hword
  | table hword hnothing => exact .table hword hnothing
  | seed hword hseed => exact .seed hword hseed
  | load hword hload => exact .load hword (hload.imp_right Store.loadFile_fails_iff.1)
  | roll hword hspec hroll => exact .roll hword hspec (hsettings ▸ hroll)
  | range hword hrange => exact .range hword hrange
  | choose hword hblank => exact .choose hword hblank

theorem ofList_eq_nil {choices : String}
    (h : ∀ item ∈ choices.toList.splitOn ',', ∀ c ∈ item, Text.isBlank c) :
    Choice.ofList choices = [] := by
  have hitems : ∀ item ∈ (choices.toList.splitOn ',').map Text.trim, item.isEmpty = true := by
    intro item hitem
    obtain ⟨written, hwritten, rfl⟩ := List.mem_map.1 hitem
    rw [Text.trim_eq_nil_of_blank (h written hwritten)]
    rfl
  have hnone : ((choices.toList.splitOn ',').map Text.trim).filter (!·.isEmpty) = [] := by
    rw [List.filter_eq_nil_iff]
    intro item hitem
    simp [hitems item hitem]
  rw [Choice.ofList, hnone, List.map_nil]

theorem idle_ofSeed {text : String} (h : Seeded.readSeed? text = none) :
    Idle disk engine (ofSeed text) := by
  rw [ofSeed, h]
  exact .badSeed text

theorem idle_parse (h : Harmless disk engine (word line) (argument line)) :
    Idle disk engine (parse line) := by
  rcases hsplit : split line.toList with ⟨first, rest⟩
  simp only [word, argument, hsplit] at h
  simp only [parse, hsplit]
  generalize Text.lowercase first = word at h
  cases h with
  | help hword =>
      simp only [List.mem_cons, List.not_mem_nil, or_false] at hword
      rcases hword with rfl | rfl | rfl <;> exact .help
  | list hword =>
      simp only [List.mem_cons, List.not_mem_nil, or_false] at hword
      rcases hword with rfl | rfl <;> exact .list
  | dice hword =>
      subst hword
      exact .dice
  | table hword hnothing =>
      simp only [List.mem_cons, List.not_mem_nil, or_false] at hword
      rcases hword with rfl | rfl <;> simpa [hnothing] using Idle.expandNothing
  | seed hword hseed =>
      subst hword
      rcases hseed with hnothing | hbad
      · simpa [hnothing] using Idle.showSeed
      · by_cases hnothing : rest = ""
        · simpa [hnothing] using Idle.showSeed
        · simpa [hnothing] using idle_ofSeed hbad
  | load hword hload =>
      subst hword
      rcases hload with hnothing | ⟨error, hfails⟩
      · simpa [hnothing] using Idle.loadNothing
      · by_cases hnothing : rest = ""
        · simpa [hnothing] using Idle.loadNothing
        · simpa [hnothing] using Idle.load hfails
  | roll hword hspec hroll =>
      simp only [List.mem_cons, List.not_mem_nil, or_false] at hword
      rcases hword with rfl | rfl <;> simpa [← hspec] using Idle.roll hroll
  | range hword hrange =>
      subst hword
      exact .range hrange
  | choose hword hblank =>
      simp only [List.mem_cons, List.not_mem_nil, or_false] at hword
      rcases hword with rfl | rfl <;> exact .choose (ofList_eq_nil hblank)

/-! ### Loads -/

theorem path?_ofSeed (text : String) : (ofSeed text).path? = none := by
  unfold ofSeed
  split <;> rfl

/-- Only a line with the word for it and a path loads a file. -/
theorem path?_parse (line : String) :
    (parse line).path? =
      if word line = "load" ∧ argument line ≠ "" then some (argument line) else none := by
  rcases hsplit : split line.toList with ⟨first, rest⟩
  simp only [word, argument, parse, hsplit]
  by_cases hload : Text.lowercase first = "load"
  · by_cases hnothing : rest = ""
    · simp [hload, hnothing, path?]
    · simp [hload, hnothing, path?]
  · simp only [hload, if_false, false_and, apply_ite path?, path?_ofSeed]
    simp [path?]

/-! ### New seeds -/

def seedLine (seed : UInt64) : String :=
  "seed " ++ seed.toNat.repr

theorem readSeed?_repr (seed : UInt64) : Seeded.readSeed? seed.toNat.repr = some seed := by
  have hmost : seed.toNat ≤ Seeded.mostSeed := Nat.le_of_lt_succ seed.toNat_lt
  rw [Seeded.readSeed?, Nat.toList_repr, Text.natural?_toDigits hmost, Option.map_some,
    UInt64.ofNat_toNat]

theorem split_seedLine (seed : UInt64) :
    split (seedLine seed).toList = ("seed", seed.toNat.repr) := by
  have hdigits : ∀ c ∈ seed.toNat.repr.toList, Text.isBlank c = false := fun c hc =>
    Text.isBlank_of_isDigit (Text.isDigit_of_mem_repr hc)
  have htrim := Text.trim_append_of_not_blank hdigits Text.trim_nil
  rw [List.append_nil] at htrim
  have hword : ∀ c ∈ "seed".toList, Text.isBlank c = false := by simp [Text.isBlank]
  have hline : (seedLine seed).toList = "seed".toList ++ ' ' :: seed.toNat.repr.toList := by
    simp [seedLine]
  rw [hline, split_append_cons hword rfl, htrim, String.ofList_toList,
    String.ofList_toList]

theorem parse_seedLine (seed : UInt64) : parse (seedLine seed) = .reseed seed := by
  have hword : Text.lowercase "seed" = "seed" := by cbv
  have hne : seed.toNat.repr ≠ "" := by
    intro hempty
    have hread := readSeed?_repr seed
    rw [hempty] at hread
    cases hread
  simp [parse, split_seedLine, hword, hne, ofSeed, readSeed?_repr]

end RandomTables.Command
