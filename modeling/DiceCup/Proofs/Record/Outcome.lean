import DiceCup.Proofs.Json.Decoding
import DiceCup.Record.Formula
import DiceCup.Record.Pool

/-!
# Outcomes and formulas — what they are written as is read back

An object with all fields of a record in order is decoded field by field, and the decoder of each
field inverts its encoder.  An outcome is read as a pool first; a total is a number, which no pool
is.
-/

namespace DiceCup

open Json

-- The values are variables wherever an object is taken apart: a decoder must not be run on an
-- unknown number, which would be compared with large ones.

/-! ## 1. Formulas -/

theorem Action.ofJson?_toJson (a : Action) : ofJson? a.toJson = some a := by cases a <;> rfl

theorem KeepMode.ofJson?_toJson (m : KeepMode) : ofJson? m.toJson = some m := by cases m <;> rfl

namespace Keep

theorem ofJson?_ofFields (mode count : Json) :
    ofJson? (.ofFields [("mode", mode), ("count", count)]) = (do
      let mode ← KeepMode.ofJson? mode
      let count ← uint32? count
      return { mode, count }) := by
  unfold ofJson?
  rw [Fields.ofJson?_ofFields]
  case hnodup => decide
  all_goals rfl

theorem ofJson?_toJson (k : Keep) : ofJson? k.toJson = some k := by
  unfold toJson
  rw [ofJson?_ofFields, KeepMode.ofJson?_toJson, uint32?_ofNat]
  rfl

theorem plain_toJson (k : Keep) : Plain 1 k.toJson := by
  have hmode : Plain 0 k.mode.toJson := by cases k.mode <;> exact plain_ofString 0 _
  apply plain_ofFields
  simp [hmode, plain_ofNat]

end Keep

namespace Formula

theorem ofJson?_ofFields (action sides count keep modifier : Json) :
    ofJson? (.ofFields [("action", action), ("sides", sides), ("count", count), ("keep", keep),
      ("modifier", modifier)]) = (do
      let action ← Action.ofJson? action
      let sides ← uint32? sides
      let count ← uint32? count
      let keep ← option? Keep.ofJson? keep
      let modifier ← option? int32? modifier
      return { action, sides, count, keep, modifier }) := by
  unfold ofJson?
  rw [Fields.ofJson?_ofFields]
  case hnodup => decide
  all_goals rfl

theorem ofJson?_toJson (f : Formula) : ofJson? f.toJson = some f := by
  have hkeep := option?_ofOption Keep.ofJson?_toJson (fun _ => nofun) f.keep
  have hmodifier := option?_ofOption int32?_ofInt (fun _ => nofun) f.modifier
  unfold toJson
  rw [ofJson?_ofFields, Action.ofJson?_toJson, uint32?_ofNat, uint32?_ofNat, hkeep, hmodifier]
  rfl

theorem plain_toJson (f : Formula) : Plain 2 f.toJson := by
  have haction : Plain 1 f.action.toJson := by cases f.action <;> exact plain_ofString 1 _
  have hkeep := plain_ofOption Keep.plain_toJson f.keep
  have hmodifier := plain_ofOption (plain_ofInt 1) f.modifier
  apply plain_ofFields
  simp [haction, hkeep, hmodifier, plain_ofNat]

end Formula

/-! ## 2. Outcomes -/

theorem Technique.plain_toJson (depth : Nat) (t : Technique) : Plain depth t.toJson :=
  plain_ofString depth t.name

namespace Appearance

theorem ofJson?_ofFields (foreground background damageType : Json) :
    ofJson? (.ofFields [("foreground_color", foreground), ("background_color", background),
      ("damage_type", damageType)]) = (do
      let foreground ← string? foreground
      let background ← string? background
      let damageType ← option? string? damageType
      return { foreground, background, damageType }) := by
  unfold ofJson?
  rw [Fields.ofJson?_ofFields]
  case hnodup => decide
  all_goals rfl

theorem ofJson?_toJson (a : Appearance) : ofJson? a.toJson = some a := by
  have hstring (s : String) : string? (.ofString s) = some s := rfl
  have hdamage := option?_ofOption hstring (fun _ => nofun) a.damageType
  unfold toJson
  rw [ofJson?_ofFields, hdamage]
  rfl

theorem plain_toJson (depth : Nat) (a : Appearance) : Plain (depth + 1) a.toJson := by
  have hdamage := plain_ofOption (plain_ofString depth) a.damageType
  apply plain_ofFields
  simp [hdamage, plain_ofString]

end Appearance

namespace Die

theorem ofJson?_ofFields (sides value included technique metadata : Json) :
    ofJson? (.ofFields [("sides", sides), ("value", value), ("included", included),
      ("technique", technique), ("metadata", metadata)]) = (do
      let sides ← uint32? sides
      let value ← uint32? value
      let included ← bool? included
      let technique ← option? Technique.ofJson? technique
      let appearance ← Appearance.ofJson? metadata
      return { sides, value, included, technique, appearance }) := by
  unfold ofJson?
  rw [Fields.ofJson?_ofFields]
  case hnodup => decide
  all_goals rfl

theorem ofJson?_toJson (die : Die) : ofJson? die.toJson = some die := by
  have htechnique := option?_ofOption Technique.ofJson?_toJson (fun _ => nofun) die.technique
  unfold toJson
  rw [ofJson?_ofFields, uint32?_ofNat, uint32?_ofNat, htechnique, Appearance.ofJson?_toJson]
  rfl

theorem plain_toJson (depth : Nat) (die : Die) : Plain (depth + 2) die.toJson := by
  have htechnique := plain_ofOption (Technique.plain_toJson (depth + 1)) die.technique
  have happearance := die.appearance.plain_toJson depth
  apply plain_ofFields
  simp [htechnique, happearance, plain_ofNat, plain_bool]

end Die

namespace Pool

theorem ofJson?_ofFields (sides dice bonus technique metadata : Json) :
    ofJson? (.ofFields [("sides", sides), ("dice", dice), ("bonus", bonus),
      ("technique", technique), ("metadata", metadata)]) = (do
      let sides ← uint32? sides
      let dice ← list? Die.ofJson? dice
      let bonus ← int32? bonus
      let technique ← option? Technique.ofJson? technique
      let appearance ← Appearance.ofJson? metadata
      return { sides, dice, bonus, technique, appearance }) := by
  unfold ofJson?
  rw [Fields.ofJson?_ofFields]
  case hnodup => decide
  all_goals rfl

theorem ofJson?_toJson (pool : Pool) : ofJson? pool.toJson = some pool := by
  have htechnique := option?_ofOption Technique.ofJson?_toJson (fun _ => nofun) pool.technique
  unfold toJson
  rw [ofJson?_ofFields, uint32?_ofNat, list?_array Die.ofJson?_toJson, int32?_ofInt, htechnique,
    Appearance.ofJson?_toJson]
  rfl

theorem plain_toJson (depth : Nat) (pool : Pool) : Plain (depth + 4) pool.toJson := by
  have hdice : Plain (depth + 3) (.array (pool.dice.map Die.toJson)) := by
    apply plain_array
    intro item hitem
    obtain ⟨die, _, rfl⟩ := List.mem_map.mp hitem
    exact die.plain_toJson depth
  have htechnique := plain_ofOption (Technique.plain_toJson (depth + 3)) pool.technique
  have happearance := pool.appearance.plain_toJson (depth + 2)
  apply plain_ofFields
  simp [hdice, htechnique, happearance, plain_ofNat, plain_ofInt]

/-- No number is read as a pool. -/
theorem ofJson?_number (n : Numeral) : ofJson? (.number n) = none := rfl

end Pool

namespace Outcome

theorem plain_toJson (o : Outcome) : Plain mostDepth o.toJson := by
  cases o with
  | dice pool => exact pool.plain_toJson 123
  | total sum => exact plain_ofInt mostDepth sum

theorem ofJson?_of_pool {v : Json} {pool : Pool} (hv : v.readable mostDepth = true)
    (h : Pool.ofJson? v = some pool) : ofJson? v = some (.dice pool) := by
  unfold ofJson?
  rw [if_pos hv, h]

/-- What is no pool is an outcome if it is a total. -/
theorem ofJson?_of_no_pool {v : Json} (hv : v.readable mostDepth = true)
    (h : Pool.ofJson? v = none) : ofJson? v = v.int32?.map .total := by
  unfold ofJson?
  rw [if_pos hv, h]

theorem ofJson?_toJson (o : Outcome) : ofJson? o.toJson = some o := by
  have hreadable := o.plain_toJson.readable
  cases o with
  | dice pool => exact ofJson?_of_pool hreadable pool.ofJson?_toJson
  | total sum =>
    -- A pool is tried first, so a total must not be read as one.
    have hnumber : Pool.ofJson? (total sum).toJson = none := Pool.ofJson?_number _
    have hvalue : (total sum).toJson.int32? = some sum := int32?_ofInt sum
    rw [ofJson?_of_no_pool hreadable hnumber, hvalue]
    rfl

/-- **Outcomes and formulas are read back as they were written.**  The text of an outcome, on one
line or indented, gives the same outcome again, a pool with all its dice and texts or a total, and
the text of a formula gives the same formula. -/
theorem reads_back (o : Outcome) (f : Formula) :
    (parse? o.toJson.compact).bind ofJson? = some o ∧
    (parse? o.toJson.pretty).bind ofJson? = some o ∧
    (parse? f.toJson.compact).bind Formula.ofJson? = some f ∧
    (parse? f.toJson.pretty).bind Formula.ofJson? = some f := by
  have houtcome := o.plain_toJson.writable
  have hformula := f.plain_toJson.writable
  rw [parse?_compact houtcome, parse?_pretty houtcome, parse?_compact hformula,
    parse?_pretty hformula]
  exact ⟨o.ofJson?_toJson, o.ofJson?_toJson, f.ofJson?_toJson, f.ofJson?_toJson⟩

end Outcome

end DiceCup
