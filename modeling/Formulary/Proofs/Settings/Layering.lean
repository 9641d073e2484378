import Formulary.Proofs.Fields
import Formulary.Settings

/-!
# Layers of settings

What counts of some layers is, under each name, the value of the topmost layer that does not leave
it out.  So overrides may be laid on one another before or after they are laid on a layer.  Settings
that were accepted stand for the layer that they were read from, since each field is read back from
its own value.
-/

namespace Formulary

/-! ## What counts -/

namespace Layer

variable {layer : Layer} {name : Text}

/-- A layer has every name once. -/
def IsMapping (layer : Layer) : Prop :=
  (layer.map Prod.fst).Nodup

instance (layer : Layer) : Decidable layer.IsMapping :=
  inferInstanceAs (Decidable (layer.map Prod.fst).Nodup)

/-- The value that a layer lays on others under a name; one that is left out does not count. -/
def override? (layer : Layer) (name : Text) : Option Value :=
  (layer.lookup name).filter fun value => !value.isNull

theorem override?_eq_none (hnew : name ∉ layer.map Prod.fst) : layer.override? name = none := by
  have hnone : layer.lookup name = none := by
    rw [List.lookup_eq_none_iff]
    intro entry hentry
    rw [bne_iff_ne]
    rintro rfl
    exact hnew (List.mem_map_of_mem hentry)
  rw [override?, hnone, Option.filter_none]

theorem override?_cons_self (entry : Text × Value) (rest : Layer) :
    override? (entry :: rest) entry.1 = if entry.2.isNull then none else some entry.2 := by
  rw [override?, List.lookup_cons_self]
  cases hnull : entry.2.isNull <;> simp [hnull]

theorem override?_cons_of_ne {entry : Text × Value} (hdiffer : name ≠ entry.1) (rest : Layer) :
    override? (entry :: rest) name = rest.override? name := by
  rw [override?, List.lookup_cons, beq_eq_false_iff_ne.mpr hdiffer, override?]

theorem isNull_of_override? {value : Value} (hvalue : layer.override? name = some value) :
    value.isNull = false := by
  simpa using (Option.filter_eq_some_iff.mp hvalue).2

end Layer

namespace Settings

open Layer (IsMapping override?)

variable {lower upper layer first second one other : Layer} {settings : Settings} {name : Text}

theorem overlay_cons (entry : Text × Value) (rest lower : Layer) :
    overlay lower (entry :: rest) =
      overlay (if entry.2.isNull then lower else setField entry.1 entry.2 lower) rest := rfl

theorem isMapping_overlay (hlower : lower.IsMapping) (upper : Layer) :
    (overlay lower upper).IsMapping := by
  induction upper generalizing lower with
  | nil => exact hlower
  | cons entry rest ih =>
      rw [overlay_cons]
      split
      · exact ih hlower
      · exact ih (nodup_names_setField hlower)

/-- The upper layer counts where it says something, and else the lower one. -/
theorem lookup_overlay (hupper : upper.IsMapping) (lower : Layer) (name : Text) :
    (overlay lower upper).lookup name = (upper.override? name).or (lower.lookup name) := by
  induction upper generalizing lower with
  | nil => rfl
  | cons entry rest ih =>
      obtain ⟨hnew, hrest⟩ := List.nodup_cons.mp hupper
      rw [overlay_cons, ih hrest]
      by_cases hname : name = entry.1
      · subst hname
        rw [Layer.override?_eq_none hnew, Layer.override?_cons_self, Option.none_or]
        split
        · rw [Option.none_or]
        · rw [lookup_setField_self, Option.some_or]
      · rw [Layer.override?_cons_of_ne hname]
        split
        · rfl
        · rw [lookup_setField_of_ne hname]

theorem override?_overlay (hsecond : second.IsMapping) (first : Layer) (name : Text) :
    (overlay first second).override? name =
      (second.override? name).or (first.override? name) := by
  rw [override?, lookup_overlay hsecond]
  cases hvalue : second.override? name with
  | none => rfl
  | some value => simp [Layer.isNull_of_override? hvalue]

/-- Overrides may be laid on one another first. -/
theorem lookup_overlay_overlay (hfirst : first.IsMapping) (hsecond : second.IsMapping)
    (layer : Layer) (name : Text) :
    (overlay layer (overlay first second)).lookup name =
      (overlay (overlay layer first) second).lookup name := by
  rw [lookup_overlay (isMapping_overlay hfirst second), override?_overlay hsecond,
    Option.or_assoc, ← lookup_overlay hfirst, ← lookup_overlay hsecond]

/-- What is said below an override does not count. -/
theorem lookup_overlay_setField {value : Value} (hupper : upper.IsMapping)
    (hvalue : upper.override? name = some value) (replaced : Value) (lower : Layer) (asked : Text) :
    (overlay (setField name replaced lower) upper).lookup asked =
      (overlay lower upper).lookup asked := by
  rw [lookup_overlay hupper, lookup_overlay hupper]
  by_cases hasked : asked = name
  · rw [hasked, hvalue, Option.some_or, Option.some_or]
  · rw [lookup_setField_of_ne hasked]

/-! ## What is read -/

/-- All settings are read alike from two layers. -/
structure Alike (one other : Layer) : Prop where
  host : readField one "host" defaults.host hostOf = readField other "host" defaults.host hostOf
  port : readField one "port" defaults.port portOf = readField other "port" defaults.port portOf
  debug : readField one "debug" defaults.debug flagOf =
    readField other "debug" defaults.debug flagOf
  level : readField one "log_level" defaults.level levelOf =
    readField other "log_level" defaults.level levelOf

theorem Alike.ofLayer_eq (halike : Alike one other) : ofLayer one = ofLayer other := by
  simp only [ofLayer, halike.host, halike.port, halike.debug, halike.level]

theorem alike_of_lookup_eq (hlookup : ∀ name, one.lookup name = other.lookup name) :
    Alike one other := by
  constructor <;> simp only [readField, hlookup]

theorem readField_overlay (hupper : upper.IsMapping) {α : Type} (lower : Layer) (name : String)
    (default : α) (ofValue : Value → Except Issue.Cause α) :
    readField (overlay lower upper) name default ofValue =
      match upper.override? name.toList with
      | some value => ofValue value
      | none => readField lower name default ofValue := by
  rw [readField, lookup_overlay hupper]
  cases upper.override? name.toList <;> rfl

theorem Alike.overlay (halike : Alike one other) (hupper : upper.IsMapping) :
    Alike (overlay one upper) (overlay other upper) where
  host := by rw [readField_overlay hupper, readField_overlay hupper, halike.host]
  port := by rw [readField_overlay hupper, readField_overlay hupper, halike.port]
  debug := by rw [readField_overlay hupper, readField_overlay hupper, halike.debug]
  level := by rw [readField_overlay hupper, readField_overlay hupper, halike.level]

theorem portOf_number (port : Port) : portOf (.integer port.number) = .ok port := by
  obtain ⟨number, hlow, hhigh⟩ := port
  exact (dif_pos hlow).trans (dif_pos hhigh)

theorem levelOf_name (level : Level) : levelOf (.text level.name.toList) = .ok level := by
  cases level <;> decide +kernel

/-- Each field is read back from its own value, and so as it was read before. -/
theorem alike_toLayer (hsettings : ofLayer layer = .ok settings) :
    Alike settings.toLayer layer := by
  simp only [ofLayer] at hsettings
  split at hsettings
  · next hhost hport hdebug hlevel =>
      cases hsettings
      constructor
      · rw [hhost]
        rfl
      · rw [hport]
        exact portOf_number _
      · rw [hdebug]
        rfl
      · rw [hlevel]
        exact levelOf_name _
  · cases hsettings

/-! ## Layers on layers -/

/-- Overrides on settings that were accepted are overrides on what they were read from. -/
theorem merge_toLayer (hfirst : first.IsMapping) (hsecond : second.IsMapping)
    (hsettings : merge layer first = .ok settings) :
    merge settings.toLayer second = merge layer (overlay first second) := by
  have halike := (alike_toLayer hsettings).overlay hsecond
  have hlookup := lookup_overlay_overlay hfirst hsecond layer
  calc merge settings.toLayer second
    _ = ofLayer (overlay (overlay layer first) second) := halike.ofLayer_eq
    _ = merge layer (overlay first second) := (alike_of_lookup_eq hlookup).ofLayer_eq.symm

theorem merge_setField {value : Value} (hsecond : second.IsMapping)
    (hvalue : second.override? name = some value) (replaced : Value) (layer : Layer) :
    merge (setField name replaced layer) second = merge layer second :=
  (alike_of_lookup_eq (lookup_overlay_setField hsecond hvalue replaced layer)).ofLayer_eq

theorem merge_overlay_setField {value : Value} (hfirst : first.IsMapping)
    (hsecond : second.IsMapping) (hvalue : second.override? name = some value) (replaced : Value)
    (layer : Layer) :
    merge layer (overlay (setField name replaced first) second) =
      merge layer (overlay first second) := by
  have hchanged : IsMapping (setField name replaced first) := nodup_names_setField hfirst
  apply Alike.ofLayer_eq
  apply alike_of_lookup_eq
  intro asked
  rw [lookup_overlay (isMapping_overlay hchanged second),
    lookup_overlay (isMapping_overlay hfirst second), override?, override?,
    lookup_overlay_setField hsecond hvalue]

/-- If a layer with overrides is accepted, further overrides may be laid on the settings as well as
on the first overrides: the settings or the issues are the same.  So settings that were accepted are
read as themselves.  Accepted or not, what the layer or the first overrides say under a name does
not matter if the further overrides say something there. -/
theorem merge_layers (hfirst : first.IsMapping) (hsecond : second.IsMapping) (layer : Layer) :
    (∀ settings, merge layer first = .ok settings →
      merge settings.toLayer second = merge layer (overlay first second) ∧
        merge settings.toLayer [] = .ok settings) ∧
    ∀ name value, second.override? name = some value → ∀ replaced,
      merge (setField name replaced layer) second = merge layer second ∧
        merge layer (overlay (setField name replaced first) second) =
          merge layer (overlay first second) := by
  constructor
  · intro settings hsettings
    refine ⟨merge_toLayer hfirst hsecond hsettings, ?_⟩
    have hnothing : merge settings.toLayer [] = merge layer (overlay first []) :=
      merge_toLayer hfirst .nil hsettings
    exact hnothing.trans hsettings
  · intro name value hvalue replaced
    exact ⟨merge_setField hsecond hvalue replaced layer,
      merge_overlay_setField hfirst hsecond hvalue replaced layer⟩

/-- A level with a second name, a port with a fraction and a number for a flag. -/
def loose : Layer :=
  [("log_level".toList, .text " warn".toList), ("port".toList, .text "0080.0".toList),
    ("debug".toList, .integer 1), ("colour".toList, .null)]

def addressed : Layer :=
  [("host".toList, .text "::1".toList), ("port".toList, .null)]

def numbers : Layer :=
  [("port".toList, .integer 0), ("log_level".toList, .integer 30), ("host".toList, .null)]

theorem merge_layers_loose :
    ∃ settings, merge loose addressed = .ok settings ∧ settings.level = .warning ∧
      merge settings.toLayer [] = .ok settings ∧
      merge settings.toLayer numbers = .error [.ofField "port" (.lessThan 1)] := by
  have hsettings : merge loose addressed =
      .ok ⟨"::1".toList, ⟨80, by decide, by decide⟩, true, .warning⟩ := by decide +kernel
  have haddressed : addressed.IsMapping := by decide
  have hnumbers : numbers.IsMapping := by decide
  obtain ⟨hmore, hnothing⟩ := (merge_layers haddressed hnumbers loose).1 _ hsettings
  refine ⟨_, hsettings, rfl, hnothing, ?_⟩
  rw [hmore]
  decide +kernel

end Settings

end Formulary
