import DeltaBridge.Bridge.Threshold
import DeltaBridge.Log
import DeltaBridge.Proofs.Text.Case

/-!
# Names of the log threshold

A text that names a standard level, in either case of letters, gives its number, and almost any
other text gives that of the usual reports. Two names give none at all.

* `standardLevels`: the names of the standard levels; `Text.IsCapital`, `sameLetters_iff`: what it
  means to name one of them;
* `Thresholds`: the level that a text gives; `thresholds_of_iff`, from what it is compared with;
* `ThresholdsIn`, **`thresholdsIn`**: the level that is asked for, or that the environment names;
  `layout_is_no_level`: a name that gives none.
-/

namespace DeltaBridge

/-! ## Names of levels -/

/-- The names of the standard levels with their numbers. -/
def standardLevels : List (Text × Nat) :=
  [("CRITICAL", 50), ("FATAL", 50), ("ERROR", 40), ("WARNING", 30), ("WARN", 30), ("INFO", 20),
    ("DEBUG", 10), ("NOTSET", 0)]

/-- The name of the plain layout of reports. -/
def layoutName : Text := "BASIC_FORMAT"

/-- The name of the table of layouts. -/
def layoutsName : Text := "_STYLES"

/-- The text is of ASCII without small letters. -/
def Text.IsCapital (t : Text) : Prop := ∀ c ∈ t, c < 0x80 ∧ ¬(0x61 ≤ c ∧ c ≤ 0x7A)

instance (t : Text) : Decidable t.IsCapital := inferInstanceAs (Decidable (∀ c ∈ t, _))

section Names

variable {t u name : Text} {n : Nat}

theorem Text.IsCapital.upper (h : name.IsCapital) : name.upper = name :=
  upper_eq_self fun c hc => by rw [upperOf_of_ascii (h c hc).1, if_neg (h c hc).2]

/-- A name in capital letters is named by the texts with that upper case. -/
theorem sameLetters_iff (h : name.IsCapital) : t.SameLetters name ↔ t.upper = name := by
  rw [Text.SameLetters, h.upper]

theorem isCapital_of_mem : (name, n) ∈ standardLevels → name.IsCapital := by
  have h : ∀ e ∈ standardLevels, e.1.IsCapital := by decide +kernel
  exact h (name, n)

theorem isCapital_layoutName : layoutName.IsCapital := by decide +kernel

theorem isCapital_layoutsName : layoutsName.IsCapital := by decide +kernel

theorem levelOfName_eq (u : Text) : levelOfName u =
    if u = layoutName then .error .layout
    else if u = layoutsName then .error .layouts
    else .ok ((standardLevel? u).getD Level.info.number) := rfl

theorem levelOfName_of_mem (h : (name, n) ∈ standardLevels) : levelOfName name = .ok n := by
  have hall : ∀ e ∈ standardLevels, e.1 ≠ layoutName ∧ e.1 ≠ layoutsName ∧
      standardLevel? e.1 = some e.2 := by decide +kernel
  obtain ⟨hlayout, hlayouts, hlevel⟩ := hall _ h
  dsimp only at hlayout hlayouts hlevel
  rw [levelOfName_eq, if_neg hlayout, if_neg hlayouts, hlevel, Option.getD_some]

theorem levelOfName_of_not_mem (h : ∀ n, (u, n) ∉ standardLevels) (hlayout : u ≠ layoutName)
    (hlayouts : u ≠ layoutsName) : levelOfName u = .ok Level.info.number := by
  have hnone : standardLevel? u = none := by
    refine List.lookup_eq_none_iff.2 fun e he => ?_
    have hne : u ≠ e.1 := fun heq => h e.2 (heq ▸ he)
    exact bne_iff_ne.2 hne
  rw [levelOfName_eq, if_neg hlayout, if_neg hlayouts, hnone, Option.getD_none]

end Names

/-! ## Levels -/

/-- The level that a text gives. -/
structure Thresholds (t : Text) (r : Except ThresholdError Nat) : Prop where
  /-- The text is the name of a standard level. -/
  named (name : Text) (n : Nat) : (name, n) ∈ standardLevels → t.SameLetters name → r = .ok n
  /-- In particular it may have the letters of ASCII in either case. -/
  spelled (name : Text) (n : Nat) : (name, n) ∈ standardLevels →
    t.map lowerAscii = name.map lowerAscii → r = .ok n
  /-- Any other text gives the level of the usual reports, but for two. -/
  other : (∀ name n, (name, n) ∈ standardLevels → ¬t.SameLetters name) →
    ¬t.SameLetters layoutName → ¬t.SameLetters layoutsName → r = .ok Level.info.number
  /-- These two fail, and nothing else does. -/
  layout : r = .error .layout ↔ t.SameLetters layoutName
  layouts : r = .error .layouts ↔ t.SameLetters layoutsName

/-- A text gives the level of each name that is compared as the text itself. -/
theorem thresholds_of_iff {t u : Text} (h : ∀ name, name.IsCapital → (u = name ↔ t.upper = name)) :
    Thresholds t (levelOfName u) := by
  have hsame {name : Text} (hname : name.IsCapital) : t.SameLetters name ↔ u = name := by
    rw [sameLetters_iff hname, h name hname]
  have named (name : Text) (n : Nat) (hmem : (name, n) ∈ standardLevels)
      (ht : t.SameLetters name) : levelOfName u = .ok n := by
    rw [(hsame (isCapital_of_mem hmem)).1 ht, levelOfName_of_mem hmem]
  refine ⟨named, fun name n hmem ht => named name n hmem (Text.sameLetters_of_ascii ht), ?_, ?_, ?_⟩
  · intro hnone hlayout hlayouts
    rw [hsame isCapital_layoutName] at hlayout
    rw [hsame isCapital_layoutsName] at hlayouts
    refine levelOfName_of_not_mem (fun n hmem => ?_) hlayout hlayouts
    exact hnone u n hmem ((hsame (isCapital_of_mem hmem)).2 rfl)
  · rw [hsame isCapital_layoutName, levelOfName_eq]
    by_cases hu : u = layoutName
    · exact iff_of_true (if_pos hu) hu
    · rw [if_neg hu]
      exact iff_of_false (by split <;> simp) hu
  · rw [hsame isCapital_layoutsName, levelOfName_eq]
    by_cases hu : u = layoutsName
    · have hne : u ≠ layoutName := by rw [hu]; decide +kernel
      rw [if_neg hne]
      exact iff_of_true (if_pos hu) hu
    · rw [if_neg hu]
      exact iff_of_false (by split <;> simp) hu

/-- The level of the reports that are shown, in an environment. -/
structure ThresholdsIn (directory : Text) (env : Environment) : Prop where
  /-- The level that is asked for. -/
  asked (t : Text) : t ≠ [] → Thresholds t (threshold (some t) (.read directory env))
  /-- If none is asked for, that of the environment, blanks around it aside. -/
  inherited (level : Option Text) (t : Text) : level.getD [] = [] →
    env.lookup ("LOG_LEVEL" : Text) = some t → t.strip ≠ [] →
      Thresholds t.strip (threshold level (.read directory env))
  /-- If that is missing or blank, the usual one. -/
  usual (level : Option Text) : level.getD [] = [] →
    (∀ t, env.lookup ("LOG_LEVEL" : Text) = some t → t.strip = []) →
      threshold level (.read directory env) = .ok Level.info.number

section Variables

variable {env : Environment} {name t : Text}

theorem Environment.text?_of_lookup (h : env.lookup name = some t) (hne : t.strip ≠ []) :
    env.text? name = some t.strip := by
  rw [Environment.text?, h]
  exact if_neg (by simpa using hne)

theorem Environment.text?_of_blank (h : ∀ t, env.lookup name = some t → t.strip = []) :
    env.text? name = none := by
  rw [Environment.text?]
  cases ht : env.lookup name with
  | none => rfl
  | some t => exact if_pos (by rw [h t ht]; rfl)

theorem threshold_of_none {level : Option Text} (h : level.getD [] = []) (directory : Text) :
    threshold level (.read directory env) =
      levelOfName (Text.upper (Text.upper ((env.text? "LOG_LEVEL").getD "INFO"))) := by
  rcases level with _ | t
  · rfl
  · obtain rfl : t = [] := h
    rfl

end Variables

/-- **The threshold is the level that is named, and never fails but for two names.** -/
theorem thresholdsIn (directory : Text) (env : Environment) : ThresholdsIn directory env := by
  refine ⟨fun t ht => ?_, fun level t hlevel ht hne => ?_, fun level hlevel hblank => ?_⟩
  · obtain ⟨c, t, rfl⟩ := List.exists_cons_of_ne_nil ht
    exact thresholds_of_iff fun name _ => Iff.rfl
  · rw [threshold_of_none hlevel, Environment.text?_of_lookup ht hne]
    -- the settings hold the name in capital letters already
    exact thresholds_of_iff fun name hname => Text.upper_upper_eq_iff fun c hc => (hname c hc).1
  · have hinfo : (Text.ofString "INFO", Level.info.number) ∈ standardLevels := by decide +kernel
    have hupper := (isCapital_of_mem hinfo).upper
    rw [threshold_of_none hlevel, Environment.text?_of_blank hblank, Option.getD_none, hupper, hupper,
      levelOfName_of_mem hinfo]

/-- The name of the plain layout gives no level. -/
theorem layout_is_no_level : ¬∀ level env, ∃ n, threshold level (.read [] env) = .ok n := by
  intro h
  obtain ⟨n, hn⟩ := h none [("LOG_LEVEL", "basic_format")]
  have hfails : threshold none (.read [] [("LOG_LEVEL", "basic_format")]) = .error .layout := rfl
  cases hfails.symm.trans hn

end DeltaBridge
