import RandomTables.Proofs.Checked.Roll
import RandomTables.Proofs.Draw.Words
import RandomTables.Proofs.Name
import RandomTables.Proofs.Text.Lowercase
import RandomTables.Settings
import RandomTables.Shell

/-!
The history of a registry. Under each name stands the die that was last registered with this name,
in whatever letter case. A die without faces is refused, and settings that pass their check register
all of their dice, in any order. The names that are listed are in lower case, so that each of them
finds its die again.
-/

namespace RandomTables.Dice

/-- What is asked of a registry. -/
inductive Request where
  | die (name : String) (faces : List Face)
  | diceOf (settings : Settings)

/-- The registries that there are to begin with. -/
inductive Start where
  | empty
  | builtin

/-- The faces that were last registered under a key. -/
def lastFaces? (key : String) : List (String × List Face) → Option (List Face)
  | [] => none
  | (name, faces) :: later =>
      (lastFaces? key later).or (if Text.lowercase name = key then some faces else none)

namespace Registry

/-- The faces that are kept under a key. -/
def facesAt? (registry : Registry) (key : String) : Option (List Face) :=
  registry.dice[key]?.map Die.faces

def registerAll (registry : Registry) (dice : List (String × List Face)) :
    Except SettingsError Registry :=
  dice.foldlM (fun registry (name, faces) =>
    match registry.register? name faces with
    | some registry => .ok registry
    | none => .error (.emptyDie name)) registry

end Registry

namespace Request

/-- A die that is refused leaves the registry as it is. -/
def perform (registry : Registry) : Request → Except SettingsError Registry
  | die name faces => .ok ((registry.register? name faces).getD registry)
  | diceOf settings => settings.registerDice registry

def registered : Request → List (String × List Face)
  | die name faces => if faces = [] then [] else [(name, faces)]
  | diceOf settings => settings.dice

/-- Settings pass their check, and no two of their dice have names that differ in letter case
only. -/
def IsSound : Request → Prop
  | die _ _ => True
  | diceOf settings =>
      settings.check = .ok () ∧ (settings.dice.map fun die => Text.lowercase die.1).Nodup

instance : DecidablePred IsSound
  | die _ _ => isTrue trivial
  | diceOf _ => inferInstanceAs (Decidable (_ ∧ _))

def run (registry : Registry) (requests : List Request) : Except SettingsError Registry :=
  requests.foldlM perform registry

end Request

namespace Start

def registry : Start → Registry
  | empty => Registry.empty
  | builtin => Registry.builtin

def registered : Start → List (String × List Face)
  | empty => []
  | builtin => [("F", Registry.fudgeDie.faces)]

/-- All that has been registered after some requests, the last one at the end. -/
def history (start : Start) (requests : List Request) : List (String × List Face) :=
  start.registered ++ requests.flatMap Request.registered

end Start

variable {registry other : Registry} {name key : String} {faces : List Face}
  {dice order history : List (String × List Face)}

/-! ### The last registration -/

theorem lastFaces?_append (key : String) (earlier later : List (String × List Face)) :
    lastFaces? key (earlier ++ later) = (lastFaces? key later).or (lastFaces? key earlier) := by
  induction earlier with
  | nil => rw [List.nil_append, lastFaces?, Option.or_none]
  | cons die earlier ih =>
      obtain ⟨name, faces⟩ := die
      rw [List.cons_append, lastFaces?, lastFaces?, ih, Option.or_assoc]

theorem exists_mem_of_lastFaces? (h : lastFaces? key dice = some faces) :
    ∃ name, Text.lowercase name = key ∧ (name, faces) ∈ dice := by
  induction dice with
  | nil => cases h
  | cons die later ih =>
      obtain ⟨name, others⟩ := die
      rw [lastFaces?, Option.or_eq_some_iff] at h
      obtain hlater | ⟨-, hname⟩ := h
      · obtain ⟨name, hkey, hmem⟩ := ih hlater
        exact ⟨name, hkey, List.mem_cons_of_mem _ hmem⟩
      · rw [Option.ite_none_right_eq_some] at hname
        obtain ⟨hkey, hfaces⟩ := hname
        cases hfaces
        exact ⟨name, hkey, List.mem_cons_self⟩

/-- The order does not count as long as no name comes twice. -/
theorem lastFaces?_perm (hperm : order.Perm dice)
    (hdistinct : (dice.map fun die => Text.lowercase die.1).Nodup) (key : String) :
    lastFaces? key order = lastFaces? key dice := by
  induction hperm with
  | nil => rfl
  | cons die hperm ih =>
      rw [List.map_cons, List.nodup_cons] at hdistinct
      rw [lastFaces?, lastFaces?, ih hdistinct.2]
  | swap first second rest =>
      have hne : Text.lowercase first.1 ≠ Text.lowercase second.1 := by
        intro heq
        simp [heq] at hdistinct
      simp only [lastFaces?, Option.or_assoc]
      congr 1
      by_cases hfirst : Text.lowercase first.1 = key
      · have hsecond : Text.lowercase second.1 ≠ key := fun heq => hne (hfirst.trans heq.symm)
        rw [if_neg hsecond, Option.none_or, Option.or_none]
      · rw [if_neg hfirst, Option.none_or, Option.or_none]
  | @trans _ middle _ _ hsecond ihfirst ihsecond =>
      have hmiddle : (middle.map fun die => Text.lowercase die.1).Nodup :=
        (hsecond.map _).nodup_iff.2 hdistinct
      exact (ihfirst hmiddle).trans (ihsecond hdistinct)

/-! ### One registration -/

namespace Registry

theorem ext_facesAt? (h : ∀ key, registry.facesAt? key = other.facesAt? key) :
    registry = other := by
  obtain ⟨kept⟩ := registry
  obtain ⟨kept'⟩ := other
  congr 1
  apply Std.ExtTreeMap.ext_getElem?
  intro key
  refine Option.map_injective ?_ (h key)
  rintro ⟨faces, _⟩ ⟨faces', _⟩ heq
  congr

theorem register?_eq_none_iff : registry.register? name faces = none ↔ faces = [] := by
  rw [register?, Option.map_eq_none_iff, Die.ofFaces?]
  split <;> simp_all

theorem exists_register? (registry : Registry) (name : String) (h : faces ≠ []) :
    ∃ after, registry.register? name faces = some after ∧ ∀ key, after.facesAt? key =
      if Text.lowercase name = key then some faces else registry.facesAt? key := by
  refine ⟨registry.insert name ⟨faces, h⟩, ?_, fun key => ?_⟩
  · rw [register?, Die.ofFaces?, dif_neg h]
    rfl
  · rw [facesAt?, insert, Std.ExtTreeMap.getElem?_insert]
    simp only [Std.compare_eq_iff_eq]
    split <;> rfl

/-- The registry keeps what the history registers last, and the history has dice with faces
only. -/
structure Holds (registry : Registry) (history : List (String × List Face)) : Prop where
  facesAt?_eq : ∀ key, registry.facesAt? key = lastFaces? key history
  faces_ne : ∀ die ∈ history, die.2 ≠ []

theorem Holds.register (h : registry.Holds history) (name : String) (hfaces : faces ≠ []) :
    ∃ after, registry.register? name faces = some after ∧
      after.Holds (history ++ [(name, faces)]) := by
  obtain ⟨after, hafter, hkept⟩ := exists_register? registry name hfaces
  refine ⟨after, hafter, fun key => ?_, fun die hdie => ?_⟩
  · rw [hkept, h.facesAt?_eq, lastFaces?_append, lastFaces?, lastFaces?, Option.none_or]
    split <;> rfl
  · obtain hdie | hdie := List.mem_append.1 hdie
    · exact h.faces_ne die hdie
    · rw [List.mem_singleton.1 hdie]
      exact hfaces

theorem Holds.registerAll (h : registry.Holds history) (hdice : ∀ die ∈ dice, die.2 ≠ []) :
    ∃ after, registry.registerAll dice = .ok after ∧ after.Holds (history ++ dice) := by
  induction dice generalizing registry history with
  | nil => exact ⟨registry, rfl, by rwa [List.append_nil]⟩
  | cons die later ih =>
      obtain ⟨name, faces⟩ := die
      have hfaces : faces ≠ [] := hdice (name, faces) List.mem_cons_self
      obtain ⟨middle, hmiddle, hkept⟩ := h.register name hfaces
      obtain ⟨after, hafter, hholds⟩ := ih hkept fun die hdie =>
        hdice die (List.mem_cons_of_mem _ hdie)
      refine ⟨after, ?_, ?_⟩
      · rw [Registry.registerAll, List.foldlM_cons]
        simp only [hmiddle]
        exact hafter
      · rwa [List.append_assoc, List.singleton_append] at hholds

/-- Whatever order the dice come in, the registry is the same in the end. -/
theorem Holds.registerAll_perm (h : registry.Holds history) (hdice : ∀ die ∈ dice, die.2 ≠ [])
    (hdistinct : (dice.map fun die => Text.lowercase die.1).Nodup) (hperm : order.Perm dice) :
    registry.registerAll order = registry.registerAll dice := by
  obtain ⟨after, hafter, hkept⟩ := h.registerAll hdice
  obtain ⟨after', hafter', hkept'⟩ :=
    h.registerAll fun die hdie => hdice die (hperm.mem_iff.1 hdie)
  have hsame : after' = after := by
    apply ext_facesAt?
    intro key
    rw [hkept.facesAt?_eq, hkept'.facesAt?_eq, lastFaces?_append, lastFaces?_append,
      lastFaces?_perm hperm hdistinct]
  rw [hafter, hafter', hsame]

end Registry

/-! ### A history -/

theorem faces_ne_of_check {settings : Settings} (h : settings.check = .ok ()) :
    ∀ die ∈ settings.dice, die.2 ≠ [] := by
  intro die hdie hempty
  unfold Settings.check at h
  split at h
  · cases h
  · split at h
    · cases h
    · next hnone =>
        have hfaces := List.find?_eq_none.1 hnone die hdie
        simp [hempty] at hfaces

theorem Start.holds (start : Start) : start.registry.Holds start.registered := by
  have hempty : Registry.empty.Holds [] := by
    refine ⟨fun key => ?_, by simp⟩
    rw [Registry.facesAt?, Registry.empty, Std.ExtTreeMap.getElem?_empty]
    rfl
  cases start with
  | empty => exact hempty
  | builtin =>
      obtain ⟨after, hafter, hholds⟩ := hempty.register "F" Registry.fudgeDie.nonempty
      cases hafter
      exact hholds

namespace Registry.Holds

theorem perform (h : registry.Holds history) {request : Request} (hsound : request.IsSound) :
    ∃ after, request.perform registry = .ok after ∧
      after.Holds (history ++ request.registered) := by
  cases request with
  | die name faces =>
      by_cases hfaces : faces = []
      · refine ⟨registry, ?_, ?_⟩
        · rw [Request.perform, register?_eq_none_iff.2 hfaces, Option.getD_none]
        · rwa [Request.registered, if_pos hfaces, List.append_nil]
      · obtain ⟨after, hafter, hholds⟩ := h.register name hfaces
        refine ⟨after, ?_, ?_⟩
        · rw [Request.perform, hafter, Option.getD_some]
        · rwa [Request.registered, if_neg hfaces]
  | diceOf settings => exact h.registerAll (faces_ne_of_check hsound.1)

theorem run (h : registry.Holds history) {requests : List Request}
    (hsound : ∀ request ∈ requests, request.IsSound) :
    ∃ after, Request.run registry requests = .ok after ∧
      after.Holds (history ++ requests.flatMap Request.registered) := by
  induction requests generalizing registry history with
  | nil => exact ⟨registry, rfl, by rwa [List.flatMap_nil, List.append_nil]⟩
  | cons request later ih =>
      obtain ⟨middle, hmiddle, hkept⟩ := h.perform (hsound request List.mem_cons_self)
      obtain ⟨after, hafter, hholds⟩ := ih hkept fun request hrequest =>
        hsound request (List.mem_cons_of_mem _ hrequest)
      refine ⟨after, ?_, ?_⟩
      · rw [Request.run, List.foldlM_cons, hmiddle]
        exact hafter
      · rwa [List.flatMap_cons, ← List.append_assoc]

/-! ### Looking up -/

theorem map_faces_get? (h : registry.Holds history) (name : String) :
    (registry.get? name).map Die.faces = lastFaces? (Text.lowercase name) history :=
  h.facesAt?_eq (Text.lowercase name)

theorem ne_nil_of_facesAt? (h : registry.Holds history)
    (hfaces : registry.facesAt? key = some faces) : faces ≠ [] := by
  rw [h.facesAt?_eq] at hfaces
  obtain ⟨name, -, hmem⟩ := exists_mem_of_lastFaces? hfaces
  exact h.faces_ne _ hmem

/-- What a die is kept under does not change when it is looked up. -/
theorem lowercase_of_facesAt? (h : registry.Holds history)
    (hfaces : registry.facesAt? key = some faces) : Text.lowercase key = key := by
  rw [h.facesAt?_eq] at hfaces
  obtain ⟨name, rfl, -⟩ := exists_mem_of_lastFaces? hfaces
  exact Text.lowercase_lowercase name

theorem get?_eq_of_mem_toList (h : registry.Holds history) {die : Die}
    (hmem : (name, die) ∈ registry.dice.toList) : registry.get? name = some die := by
  have hkept : registry.dice[name]? = some die :=
    Std.ExtTreeMap.mem_toList_iff_getElem?_eq_some.1 hmem
  have hfaces : registry.facesAt? name = some die.faces := by
    rw [facesAt?, hkept, Option.map_some]
  rw [get?, h.lowercase_of_facesAt? hfaces, hkept]

theorem exists_get?_of_mem_names (h : registry.Holds history) (hname : name ∈ registry.names) :
    ∃ die, registry.get? name = some die := by
  rw [names, ← Std.ExtTreeMap.map_fst_toList_eq_keys, List.mem_map] at hname
  obtain ⟨⟨key, die⟩, hmem, rfl⟩ := hname
  exact ⟨die, h.get?_eq_of_mem_toList hmem⟩

end Registry.Holds

theorem Registry.sorted_names (registry : Registry) : registry.names.Pairwise (· < ·) :=
  Name.pairwise_lt_of_compare Std.ExtTreeMap.ordered_keys

theorem Registry.length_names (registry : Registry) : registry.names.length = registry.size :=
  Std.ExtTreeMap.length_keys

/-- The listing of a shell has the faces that each of the names finds. -/
theorem Registry.Holds.diceLines_eq {engine : Engine} (h : engine.dice.Holds history) :
    Shell.diceLines engine = engine.dice.names.map fun name =>
      let found := ((engine.dice.get? name).map Die.faces).getD []
      let labels := " ".intercalate (found.map Face.label)
      s!"  {name}: {labels}" := by
  rw [names, ← Std.ExtTreeMap.map_fst_toList_eq_keys, List.map_map, Shell.diceLines]
  refine List.map_congr_left fun ⟨name, die⟩ hmem => ?_
  simp only [Function.comp_apply, h.get?_eq_of_mem_toList hmem, Option.map_some, Option.getD_some]

/-! ### Rolling -/

section Roll

variable {σ : Type} [RandomSource σ]

theorem die_roll_outcome (die : Die) (source : σ) :
    (∃ face ∈ die.faces, ∃ words, 1 ≤ words ∧
      die.roll source = .ok (face, stateAfter RandomSource.next64 words source)) ∨
    GivesUp source die.faces.length ∧ die.roll source = .error .stalled := by
  have hroll : die.roll source = Except.bind (drawBelow64 die.length_pos source) fun step =>
      .ok (die.faces[step.1], step.2) := rfl
  rw [hroll]
  obtain ⟨position, words, hwords, hdraw⟩ | ⟨hrefused, hdraw⟩ :=
    drawBelow64_outcome die.length_pos source
  · rw [hdraw]
    exact Or.inl ⟨_, List.getElem_mem position.isLt, words, hwords, rfl⟩
  · rw [hdraw]
    exact Or.inr ⟨hrefused, rfl⟩

namespace Registry.Holds

theorem roll_of_some (h : registry.Holds history)
    (hlast : lastFaces? (Text.lowercase name) history = some faces) (source : σ) :
    (∃ face ∈ faces, ∃ words, 1 ≤ words ∧
      registry.roll name source = .ok (face, stateAfter RandomSource.next64 words source)) ∨
    GivesUp source faces.length ∧ registry.roll name source = .error .stalled := by
  rw [← h.map_faces_get?, Option.map_eq_some_iff] at hlast
  obtain ⟨die, hdie, rfl⟩ := hlast
  rw [roll, hdie]
  exact die_roll_outcome die source

theorem roll_of_none (h : registry.Holds history)
    (hlast : lastFaces? (Text.lowercase name) history = none) (source : σ) :
    registry.roll name source = .ok (Face.unknown, source) := by
  rw [← h.map_faces_get?, Option.map_eq_none_iff] at hlast
  rw [roll, hlast]
  rfl

end Registry.Holds

end Roll

/-! ### What a history amounts to -/

/-- However a registry came about, it keeps, lists and rolls the dice that were registered last. -/
theorem Request.run_keepsLast (start : Start) {requests : List Request}
    (hsound : ∀ request ∈ requests, request.IsSound) :
    ∃ registry, run start.registry requests = .ok registry ∧
      (∀ name, (registry.get? name).map Die.faces =
        lastFaces? (Text.lowercase name) (start.history requests)) ∧
      (∀ key faces, registry.facesAt? key = some faces → faces ≠ []) ∧
      (∀ name faces, registry.register? name faces = none ↔ faces = []) ∧
      (∀ name, (die name []).perform registry = .ok registry) ∧
      (∀ settings order, (diceOf settings).IsSound → order.Perm settings.dice →
        ∃ after, settings.registerDice registry = .ok after ∧
          registry.registerAll order = .ok after) ∧
      registry.names.Pairwise (· < ·) ∧
      registry.names.length = registry.size ∧
      (∀ name ∈ registry.names, ∃ die, registry.get? name = some die) ∧
      ∀ (σ : Type) [RandomSource σ] (source : σ) (name : String),
        (∀ faces, lastFaces? (Text.lowercase name) (start.history requests) = some faces →
          (∃ face ∈ faces, ∃ words, 1 ≤ words ∧ registry.roll name source =
            .ok (face, stateAfter RandomSource.next64 words source)) ∨
          GivesUp source faces.length ∧ registry.roll name source = .error .stalled) ∧
        (lastFaces? (Text.lowercase name) (start.history requests) = none →
          registry.roll name source = .ok (Face.unknown, source)) ∧
        ∀ trap, Checked.rollFace registry (.named name) source ≠ .error (.trap trap) := by
  obtain ⟨registry, hrun, hholds⟩ := start.holds.run hsound
  refine ⟨registry, hrun, hholds.map_faces_get?, fun _ _ => hholds.ne_nil_of_facesAt?,
    fun _ _ => Registry.register?_eq_none_iff, fun name => ?_,
    fun settings order hsettings hperm => ?_,
    registry.sorted_names, registry.length_names, fun _ => hholds.exists_get?_of_mem_names,
    fun σ _ source name => ⟨fun _ hlast => hholds.roll_of_some hlast source,
      fun hlast => hholds.roll_of_none hlast source, fun trap => ?_⟩⟩
  · rw [perform, Registry.register?_eq_none_iff.2 rfl, Option.getD_none]
  · have hfaces := faces_ne_of_check hsettings.1
    obtain ⟨after, hafter, -⟩ := hholds.registerAll hfaces
    refine ⟨after, hafter, ?_⟩
    rw [hholds.registerAll_perm hfaces hsettings.2 hperm, hafter]
  · exact (Checked.mirrors_rollNamed registry name source).ne_trap trap

/-- The name of the die from the settings ends in a capital sigma, so its lower case ends in a final
one. -/
def sigmaRequests : List Request :=
  [.die "Coin" [⟨0, "tails"⟩, ⟨1, "heads"⟩],
    .diceOf ⟨.numbered 6, 64, (∅ : Std.ExtTreeMap String (List Face)).insert "ΑΣ" [⟨7, "άσος"⟩]⟩,
    .die "COIN" [],
    .die "f" [⟨5, "five"⟩]]

theorem Request.run_keepsLast_sigma :
    ∃ registry, run Registry.builtin sigmaRequests = .ok registry ∧
      (registry.get? "cOiN").map Die.faces = some [⟨0, "tails"⟩, ⟨1, "heads"⟩] ∧
      (registry.get? "Ας").map Die.faces = some [⟨7, "άσος"⟩] ∧
      (registry.get? "Ασ").map Die.faces = none ∧
      ∀ source : Scripted, ∃ rest, registry.roll "F" source = .ok (⟨5, "five"⟩, rest) := by
  have hsound : ∀ request ∈ sigmaRequests, request.IsSound := by decide +kernel
  obtain ⟨registry, hrun, hget, -, -, -, -, -, -, -, hroll⟩ := run_keepsLast Start.builtin hsound
  have hlast : lastFaces? (Text.lowercase "F") (Start.builtin.history sigmaRequests) =
      some [⟨5, "five"⟩] := by decide +kernel
  refine ⟨registry, hrun, ?_, ?_, ?_, fun source => ?_⟩
  · exact (hget "cOiN").trans (by decide +kernel)
  · exact (hget "Ας").trans (by decide +kernel)
  · exact (hget "Ασ").trans (by decide +kernel)
  · obtain ⟨face, hface, words, -, hdraw⟩ | ⟨hrefused, -⟩ :=
      (hroll Scripted source "F").1 _ hlast
    · rw [List.mem_singleton] at hface
      exact ⟨_, by rw [hdraw, hface]⟩
    · exact absurd hrefused source.not_givesUp

end RandomTables.Dice
