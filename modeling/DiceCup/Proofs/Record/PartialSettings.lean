import DiceCup.Proofs.Record.Settings

/-!
# Partial settings — texts that leave fields out

A text may name some of the fields in any order between other keys, or give the first of them by
position; both ways find the same values.  Values of valid settings pass the checks of single
fields, so only the two numbers of dice can be at odds, one of them given and the other one a
default.
-/

namespace DiceCup

open Json

namespace Settings

variable {c d : Settings} {f : Field} {fields : List Field} {members : List (Option String × Json)}

/-! ## 1. Present fields -/

/-- Members of an object that give the values of some fields, each once and in any order.  Between
them there may be other keys with any values. -/
inductive GivenBy (c : Settings) : List Field → List (Option String × Json) → Prop
  | nil : GivenBy c [] []
  | field {fields : List Field} {members : List (Option String × Json)} (f : Field)
      (hf : f ∉ fields) (h : GivenBy c fields members) :
      GivenBy c (f :: fields) ((some f.name, c.fieldJson f) :: members)
  | other {fields : List Field} {members : List (Option String × Json)} (key : String)
      (value : Json) (hkey : key ∉ fieldNames) (h : GivenBy c fields members) :
      GivenBy c fields ((some key, value) :: members)

/-- Members in any order, with others between them, give their fields. -/
theorem GivenBy.ofMembers?_eq (h : c.GivenBy fields members) :
    Fields.ofMembers? fieldNames members = some (c.entries fields) := by
  -- By induction on the members; a field comes once, so it is not found among those behind it.
  induction h with
  | nil => rfl
  | field f hf _ ih =>
    rw [Fields.ofMembers?, ih]
    simp only [Option.bind_eq_bind, Option.bind_some, lookup_entries, if_neg hf]
    rw [if_pos (List.contains_iff_mem.mpr f.name_mem_fieldNames)]
    rfl
  | other key value hkey _ ih =>
    rw [Fields.ofMembers?, ih]
    have hunknown : ¬ fieldNames.contains key = true := fun hmem =>
      hkey (List.contains_iff_mem.mp hmem)
    simp only [Option.bind_eq_bind, Option.bind_some]
    rw [if_neg hunknown]

/-- By position, fewer values than names are values of the first names. -/
theorem zip_fieldNames (c : Settings) (n : Nat) :
    fieldNames.zip ((Field.all.take n).map c.fieldJson) = c.entries (Field.all.take n) := by
  rw [Field.fieldNames_eq, entries]
  -- The names are those of all fields in order, and the order does not matter.
  generalize Field.all = fields
  induction fields generalizing n with
  | nil => rw [List.take_nil]; rfl
  | cons f fields ih =>
    cases n with
    | zero => rfl
    | succ n =>
      rw [List.take_succ_cons, List.map_cons, List.map_cons, List.zip_cons_cons, ih]
      rfl

theorem replaced_congr {others : List Field} (h : ∀ f, f ∈ fields ↔ f ∈ others) :
    replaced d c fields = replaced d c others := by
  simp only [replaced, h]

/-! ## 2. The check -/

theorem validate_of_positive {s : Settings} (h : ∀ f n, s.get f = .number n → 1 ≤ n) :
    s.validate = checkKept s.diceKept s.diceRolled := by
  have hpass (what : String) {n : UInt32} (hn : 1 ≤ n) : checkPositive what n = .ok () :=
    checkPositive_eq_ok.mpr hn
  unfold validate
  rw [hpass _ (h .arraySize _ rfl), hpass _ (h .sides _ rfl), hpass _ (h .diceRolled _ rfl),
    hpass _ (h .diceKept _ rfl)]
  rfl

/-- Numbers taken from two valid settings are positive, whichever they come from. -/
theorem positive_replaced (hd : d.Valid) (hc : c.Valid) {f : Field} {n : UInt32}
    (h : (replaced d c fields).get f = .number n) : 1 ≤ n := by
  rw [get_replaced] at h
  split at h
  · exact (valid_iff.mp hc).1 f n h
  · exact (valid_iff.mp hd).1 f n h

theorem load_of_positive {text : String} {s : Settings}
    (hread : (parse? text).bind (ofJson? {}) = some s)
    (h : ∀ f n, s.get f = .number n → 1 ≤ n) :
    load text = if s.diceRolled < s.diceKept then
        .error (.roll (.keptExceedsRolled s.diceKept s.diceRolled))
      else .ok s := by
  rw [load_of_read hread, validate_of_positive h, checkKept]
  -- With positive numbers only the comparison of the two numbers of dice is left of the check.
  by_cases hlt : s.diceRolled < s.diceKept
  · rw [if_pos hlt, if_pos hlt]
    rfl
  · rw [if_neg hlt, if_neg hlt]
    rfl

/-- **Texts of settings may leave fields out.**  An object that gives some fields of valid settings,
in any order and between any unknown keys, is loaded as the defaults with these fields replaced, and
an array of values as those of the first fields.  The only complaint is that the two numbers of dice
do not go together, one of which may be a default; it names both. -/
theorem partial_texts_load (c : Settings) (hc : c.Valid) (fields : List Field) :
    let merged := replaced {} c fields
    let result : Except Failure Settings := if merged.diceRolled < merged.diceKept then
        .error (.roll (.keptExceedsRolled merged.diceKept merged.diceRolled))
      else .ok merged
    (∀ f, merged.get f = if f ∈ fields then c.get f else get {} f) ∧
    (∀ members text, c.GivenBy fields members → parse? text = some (.object members) →
      load text = result) ∧
    ∀ n text, (∀ f, f ∈ fields ↔ f ∈ Field.all.take n) →
      parse? text = some (.array ((Field.all.take n).map c.fieldJson)) → load text = result := by
  intro merged result
  have hpositive (f : Field) (n : UInt32) (h : merged.get f = .number n) : 1 ≤ n :=
    positive_replaced Initial.defaults.valid hc h
  refine ⟨get_replaced {} c fields, fun members text hgiven htext => ?object,
    fun n text hfields htext => ?array⟩
  case object =>
    refine load_of_positive ?_ hpositive
    have hfound : Fields.ofJson? fieldNames (.object members) = some ⟨false, c.entries fields⟩ := by
      show (Fields.ofMembers? fieldNames members).map _ = _
      rw [hgiven.ofMembers?_eq]
      rfl
    rw [htext, Option.bind_some, ofJson?_of_present hfound rfl]
  case array =>
    refine load_of_positive ?_ hpositive
    have hfound : Fields.ofJson? fieldNames (.array ((Field.all.take n).map c.fieldJson)) =
        some ⟨true, c.entries (Field.all.take n)⟩ := by
      -- An array may be too short but not too long.
      have hlength : ((Field.all.take n).map c.fieldJson).length ≤ fieldNames.length := by
        rw [List.length_map]
        exact List.length_take_le' n Field.all
      rw [Fields.ofJson?, if_pos hlength, zip_fieldNames]
    rw [htext, Option.bind_some, ofJson?_of_present hfound rfl]
    exact congrArg some (replaced_congr fun f => (hfields f).symm)

def plenty : Settings := { technique := .secure, diceRolled := 9, diceKept := 5 }

def houseRules : Json := .array [.null, .object [(some "technique", .bool false)]]

theorem partial_texts_load_plenty :
    load (Json.object [(some "ability_score_dice_kept", .ofNat 5),
      (some "house_rules", houseRules)]).compact = .error (.roll (.keptExceedsRolled 5 4)) ∧
    load (Json.object [(some "ability_score_dice_kept", .ofNat 5),
      (some "house_rules", houseRules), (some "ability_score_dice_rolled", .ofNat 9),
      (some "house_rules", .null)]).compact = .ok { diceRolled := 9, diceKept := 5 } ∧
    load (Json.array [.ofString "secure", .null, .ofNat 6, .ofNat 6, .ofNat 9]).compact =
      .ok { technique := .secure, diceRolled := 9 } := by
  have hvalid : plenty.Valid := by decide
  have hrules : "house_rules" ∉ fieldNames := by decide
  have hkept : plenty.GivenBy [.diceKept] [(some "ability_score_dice_kept", .ofNat 5),
      (some "house_rules", houseRules)] :=
    .field .diceKept (by decide) (.other _ _ hrules .nil)
  have hboth : plenty.GivenBy [.diceKept, .diceRolled] [(some "ability_score_dice_kept", .ofNat 5),
      (some "house_rules", houseRules), (some "ability_score_dice_rolled", .ofNat 9),
      (some "house_rules", .null)] :=
    .field .diceKept (by decide) (.other _ _ hrules (.field .diceRolled (by decide)
      (.other _ _ hrules .nil)))
  refine ⟨?_, ?_, ?_⟩
  · exact (partial_texts_load plenty hvalid _).2.1 _ _ hkept (parse?_compact rfl)
  · exact (partial_texts_load plenty hvalid _).2.1 _ _ hboth (parse?_compact rfl)
  · exact (partial_texts_load plenty hvalid _).2.2 5 _ (fun _ => Iff.rfl) (parse?_compact rfl)

end Settings

end DiceCup
