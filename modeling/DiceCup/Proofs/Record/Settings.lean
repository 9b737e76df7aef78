import DiceCup.Proofs.Json.Decoding
import DiceCup.Proofs.Settings.Validity

/-!
# Saved settings — what is saved is loaded again

Each field is looked up by its name among the values that were found: one that is there is decoded,
one that is not keeps its default.  The text of settings holds all fields, so no default comes into
it, and the check of loaded settings passes just for valid ones.  Settings are saved and loaded
unchanged just if they are valid, which they are whatever was asked of them.
-/

namespace DiceCup

open Json

namespace Interval

theorem ofJson?_toJson (i : Interval) : ofJson? i.toJson = some i := by
  have hrolls : uint32? i.toJson = some i.rolls := uint32?_ofNat i.rolls
  unfold ofJson?
  rw [hrolls, Option.bind_some, ofRolls?, dif_pos i.rolls_ne_zero]

theorem plain_toJson (depth : Nat) (i : Interval) : Plain depth i.toJson :=
  plain_ofNat depth i.rolls

end Interval

namespace Settings

/-! ## 1. Fields and their names -/

namespace Field

def all : List Field :=
  [.technique, .interval, .arraySize, .sides, .diceRolled, .diceKept, .foreground, .background]

def name : Field → String
  | .technique => "technique"
  | .interval => "reseed_interval"
  | .arraySize => "ability_score_array_size"
  | .sides => "ability_score_sides"
  | .diceRolled => "ability_score_dice_rolled"
  | .diceKept => "ability_score_dice_kept"
  | .foreground => "die_foreground_color"
  | .background => "die_background_color"

theorem mem_all (f : Field) : f ∈ all := by cases f <;> decide

theorem name_inj {f g : Field} (h : f.name = g.name) : f = g := by
  revert h
  cases f <;> cases g <;> decide

theorem fieldNames_eq : fieldNames = all.map name := rfl

theorem name_mem_fieldNames (f : Field) : f.name ∈ fieldNames := by
  rw [fieldNames_eq]
  exact List.mem_map_of_mem f.mem_all

end Field

variable {c d : Settings} {f : Field} {fields : List Field}

def fieldJson (s : Settings) : Field → Json
  | .technique => s.technique.toJson
  | .interval => .ofOption Interval.toJson s.interval
  | .arraySize => .ofNat s.arraySize.toNat
  | .sides => .ofNat s.sides.toNat
  | .diceRolled => .ofNat s.diceRolled.toNat
  | .diceKept => .ofNat s.diceKept.toNat
  | .foreground => .ofString s.foreground
  | .background => .ofString s.background

def entries (s : Settings) (fields : List Field) : List (String × Json) :=
  fields.map fun f => (f.name, s.fieldJson f)

theorem toJson_eq_entries (s : Settings) : s.toJson = .ofFields (s.entries Field.all) := rfl

/-! ## 2. Decoding -/

def replaced (d c : Settings) (fields : List Field) : Settings where
  technique := if .technique ∈ fields then c.technique else d.technique
  interval := if .interval ∈ fields then c.interval else d.interval
  arraySize := if .arraySize ∈ fields then c.arraySize else d.arraySize
  sides := if .sides ∈ fields then c.sides else d.sides
  diceRolled := if .diceRolled ∈ fields then c.diceRolled else d.diceRolled
  diceKept := if .diceKept ∈ fields then c.diceKept else d.diceKept
  foreground := if .foreground ∈ fields then c.foreground else d.foreground
  background := if .background ∈ fields then c.background else d.background

theorem get_replaced (d c : Settings) (fields : List Field) (f : Field) :
    (replaced d c fields).get f = if f ∈ fields then c.get f else d.get f := by
  cases f <;> simp only [get, replaced] <;> split <;> rfl

theorem lookup_entries (c : Settings) (fields : List Field) (f : Field) :
    (c.entries fields).lookup f.name = if f ∈ fields then some (c.fieldJson f) else none := by
  induction fields with
  | nil => rfl
  | cons g fields ih =>
    show List.lookup f.name ((g.name, c.fieldJson g) :: c.entries fields) = _
    -- The first entry is that of the field or has another name, as no two fields share one.
    by_cases hg : f = g
    · subst hg
      rw [List.lookup_cons_self, if_pos List.mem_cons_self]
    · have hname : (f.name == g.name) = false :=
        beq_eq_false_iff_ne.mpr fun h => hg (Field.name_inj h)
      rw [List.lookup_cons, hname, ih]
      simp only [List.mem_cons, hg, false_or]

theorem withDefault_of_present {α : Type} {decode : Decoder α} {a : α} {found : Fields}
    (hfound : found.present = c.entries fields) (f : Field)
    (hdecode : decode (c.fieldJson f) = some a) (default : α) :
    found.withDefault f.name default decode = some (if f ∈ fields then a else default) := by
  unfold Fields.withDefault
  rw [hfound, lookup_entries]
  by_cases hf : f ∈ fields
  · rw [if_pos hf, if_pos hf]
    exact hdecode
  · rw [if_neg hf, if_neg hf]

/-- Fields that were found replace the defaults, and the others stay. -/
theorem ofJson?_of_present {v : Json} {found : Fields}
    (h : Fields.ofJson? fieldNames v = some found) (hfound : found.present = c.entries fields)
    (d : Settings) : ofJson? d v = some (replaced d c fields) := by
  let s := replaced d c fields
  -- Each of the eight fields is decoded from its entry, or is its default without one.
  have htechnique : found.withDefault "technique" d.technique Technique.ofJson? =
      some s.technique :=
    withDefault_of_present hfound .technique (Technique.ofJson?_toJson _) _
  have hinterval : found.withDefault "reseed_interval" d.interval (option? Interval.ofJson?) =
      some s.interval :=
    withDefault_of_present hfound .interval
      (option?_ofOption Interval.ofJson?_toJson (fun _ => nofun) _) _
  have hnumber (f : Field) (n default : UInt32) (hf : c.fieldJson f = .ofNat n.toNat) :
      found.withDefault f.name default uint32? = some (if f ∈ fields then n else default) :=
    withDefault_of_present hfound f (hf ▸ uint32?_ofNat n) default
  have hcolor (f : Field) (color default : String) (hf : c.fieldJson f = .ofString color) :
      found.withDefault f.name default string? = some (if f ∈ fields then color else default) :=
    withDefault_of_present hfound f (hf ▸ rfl) default
  have harray : found.withDefault "ability_score_array_size" d.arraySize uint32? =
      some s.arraySize :=
    hnumber .arraySize _ _ rfl
  have hsides : found.withDefault "ability_score_sides" d.sides uint32? = some s.sides :=
    hnumber .sides _ _ rfl
  have hrolled : found.withDefault "ability_score_dice_rolled" d.diceRolled uint32? =
      some s.diceRolled :=
    hnumber .diceRolled _ _ rfl
  have hkept : found.withDefault "ability_score_dice_kept" d.diceKept uint32? = some s.diceKept :=
    hnumber .diceKept _ _ rfl
  have hforeground : found.withDefault "die_foreground_color" d.foreground string? =
      some s.foreground :=
    hcolor .foreground _ _ rfl
  have hbackground : found.withDefault "die_background_color" d.background string? =
      some s.background :=
    hcolor .background _ _ rfl
  unfold ofJson?
  simp only [h, Option.bind_eq_bind, Option.bind_some]
  rw [htechnique, Option.bind_some, hinterval, Option.bind_some, harray, Option.bind_some, hsides,
    Option.bind_some, hrolled, Option.bind_some, hkept, Option.bind_some, hforeground,
    Option.bind_some, hbackground]
  rfl

/-- With all fields replaced nothing of the defaults is left. -/
theorem replaced_all (d c : Settings) : replaced d c Field.all = c := by
  simp only [replaced, Field.mem_all, if_true]

theorem ofJson?_toJson (d s : Settings) : ofJson? d s.toJson = some s := by
  have hfound : Fields.ofJson? fieldNames s.toJson = some ⟨false, s.entries Field.all⟩ := by
    rw [toJson_eq_entries]
    exact Fields.ofJson?_ofFields rfl (by decide)
  rw [ofJson?_of_present hfound rfl, replaced_all]

/-! ## 3. Saving and loading -/

theorem plain_toJson (s : Settings) : Plain 1 s.toJson := by
  have htechnique : Plain 0 s.technique.toJson := plain_ofString 0 _
  have hinterval := plain_ofOption (Interval.plain_toJson 0) s.interval
  apply plain_ofFields
  simp [htechnique, hinterval, plain_ofNat, plain_ofString]

/-- Settings are loaded as they were saved just if they are valid. -/
theorem load_save_iff (s : Settings) : load s.save = .ok s ↔ s.Valid := by
  have hread : (parse? s.save).bind (ofJson? {}) = some s := by
    unfold save
    rw [parse?_pretty s.plain_toJson.writable, Option.bind_some, ofJson?_toJson]
  rw [load_eq_ok, validate_eq_ok]
  exact ⟨And.right, fun hvalid => ⟨hread, hvalid⟩⟩

theorem loadFile_of_some {files : String → Option String} {path text : String}
    (h : files path = some text) : loadFile files path = load text := by
  unfold loadFile
  rw [h]

/-- **Settings survive saving and loading.**  Whatever was asked of settings since they were made or
loaded, the text that they are saved as is loaded as the same settings, also from a file that holds
it. -/
theorem save_loads (start : Settings) (hstart : start.Initial) (changes : List Change) :
    let s := start.after changes
    load s.save = .ok s ∧
      ∀ (files : String → Option String) (path : String), files path = some s.save →
        loadFile files path = .ok s := by
  intro s
  have hload : load s.save = .ok s := (load_save_iff s).mpr (hstart.valid.after changes)
  refine ⟨hload, fun files path hfile => ?_⟩
  rw [loadFile_of_some hfile]
  exact hload

theorem save_loads_escaped :
    let s := after {} [.foreground "a \"\\\u0001\n\u00e9", .background "", .interval (.text "7"),
      .diceKept (.whole 5), .techniqueName "Random_Each_Call"]
    Initial {} ∧ s.background = "" ∧ s.interval.map Interval.rolls = some 7 ∧ load s.save = .ok s :=
  ⟨.defaults, by decide +kernel, by decide +kernel, (save_loads {} .defaults _).1⟩

end Settings

end DiceCup
