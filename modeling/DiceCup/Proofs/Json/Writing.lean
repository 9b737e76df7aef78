import DiceCup.Proofs.Json.Layout

/-!
# Writing — both forms of a value are layouts of it

On one line the parts stand side by side, in blocks each stands on a line of its own; the brackets,
commas and colons are the same.  So a value that can be written at all is read back from either
form.
-/

namespace DiceCup.Json

open DiceCup.Text

mutual

/-- Every string and key has a text, and a numeral has digits behind its point. -/
def writable : Json → Bool
  | .null => true
  | .bool _ => true
  | .number n => n.fraction.all Char.isDigit
  | .text s => s.isSome
  | .array items => writableItems items
  | .object members => writableMembers members

def writableItems : List Json → Bool
  | [] => true
  | item :: items => writable item && writableItems items

def writableMembers : List (Option String × Json) → Bool
  | [] => true
  | (key, value) :: members => key.isSome && writable value && writableMembers members

end

/-! ## 1. Parts side by side -/

theorem separated_cons_cons (separator part next : List Char) (parts : List (List Char)) :
    separated separator (part :: next :: parts) =
      part ++ (separator ++ separated separator (next :: parts)) := by
  unfold separated
  cases parts <;> simp

theorem blanks_nil : Blanks [] := List.forall_mem_nil _

theorem listed_separated {α : Type} {R : α → List Char → Prop} {blank behind : List Char}
    (hblank : Blanks blank) (hbehind : Blanks behind) {items : List α} {parts : List (List Char)}
    (h : List.Forall₂ R items parts) (hne : items ≠ []) :
    Listed R items (blank ++ (separated (',' :: blank) parts ++ behind)) := by
  induction h with
  | nil => exact absurd rfl hne
  | @cons a part items parts hpart hparts ih =>
    cases hparts with
    | nil =>
      -- The last part has nothing to separate it from.
      have hone : separated (',' :: blank) [part] = part := List.append_nil part
      rw [hone]
      exact .last hblank hbehind hpart
    | @cons b next items parts hnext hparts =>
      have hrest := ih (List.cons_ne_nil b items)
      have hlisted := Listed.more hblank blanks_nil hpart hrest
      rw [separated_cons_cons]
      simpa using hlisted

theorem laidOut_bracketed {items : List Json} {parts : List (List Char)} {blank behind : List Char}
    (hblank : Blanks blank) (hbehind : Blanks behind) (h : List.Forall₂ LaidOut items parts)
    (hne : items ≠ []) :
    LaidOut (.array items)
      ('[' :: (blank ++ (separated (',' :: blank) parts ++ behind)) ++ [']']) :=
  .items (listed_separated hblank hbehind h hne)

theorem laidOut_braced {members : List (Option String × Json)} {parts : List (List Char)}
    {blank behind : List Char} (hblank : Blanks blank) (hbehind : Blanks behind)
    (h : List.Forall₂ MemberLaidOut members parts) (hne : members ≠ []) :
    LaidOut (.object members)
      ('\x7b' :: (blank ++ (separated (',' :: blank) parts ++ behind)) ++ ['\x7d']) :=
  .members (listed_separated hblank hbehind h hne)

/-! ## 2. The two forms -/

theorem laidOut_scalar {v : Json} (hv : v.writable = true)
    (harray : ∀ items, v ≠ .array items) (hobject : ∀ members, v ≠ .object members) :
    LaidOut v (writeScalar v) := by
  cases v with
  | null => exact .null
  | bool b => exact .bool b
  | number n => exact .number (List.all_eq_true.mp hv)
  | text s =>
    cases s with
    | none => cases hv
    | some s => exact .text s
  | array items => exact absurd rfl (harray items)
  | object members => exact absurd rfl (hobject members)

mutual

/-- The text on one line is a layout. -/
theorem laidOut_writeCompact (v : Json) (hv : v.writable = true) : LaidOut v (writeCompact v) := by
  cases v with
  | array items =>
    have hitems := forall₂_writeCompactItems items hv
    cases items with
    | nil => exact .noItems blanks_nil
    | cons item items =>
      have h := laidOut_bracketed blanks_nil blanks_nil hitems (List.cons_ne_nil item items)
      simpa [writeCompact] using h
  | object members =>
    have hmembers := forall₂_writeCompactMembers members hv
    cases members with
    | nil => exact .noMembers blanks_nil
    | cons member members =>
      have h := laidOut_braced blanks_nil blanks_nil hmembers (List.cons_ne_nil member members)
      simpa [writeCompact] using h
  | null | bool | number | text => exact laidOut_scalar hv nofun nofun

theorem forall₂_writeCompactItems (items : List Json) (h : writableItems items = true) :
    List.Forall₂ LaidOut items (writeCompactItems items) := by
  cases items with
  | nil => exact .nil
  | cons item items =>
    obtain ⟨hitem, hitems⟩ := Bool.and_eq_true_iff.mp h
    exact .cons (laidOut_writeCompact item hitem) (forall₂_writeCompactItems items hitems)

theorem forall₂_writeCompactMembers (members : List (Option String × Json))
    (h : writableMembers members = true) :
    List.Forall₂ MemberLaidOut members (writeCompactMembers members) := by
  cases members with
  | nil => exact .nil
  | cons member members =>
    obtain ⟨key, value⟩ := member
    obtain ⟨hmember, hmembers⟩ := Bool.and_eq_true_iff.mp h
    obtain ⟨hkey, hvalue⟩ := Bool.and_eq_true_iff.mp hmember
    obtain ⟨key, rfl⟩ := Option.isSome_iff_exists.mp hkey
    exact .cons (.mk key blanks_nil blanks_nil (laidOut_writeCompact value hvalue))
      (forall₂_writeCompactMembers members hmembers)

end

theorem blanks_newLine (level : Nat) : Blanks (newLine level) := by
  intro c hc
  rcases List.mem_cons.mp hc with rfl | hc
  · rfl
  · rw [List.eq_of_mem_replicate hc]
    rfl

mutual

/-- The indented text is a layout at every level. -/
theorem laidOut_writePretty (level : Nat) (v : Json) (hv : v.writable = true) :
    LaidOut v (writePretty level v) := by
  cases v with
  | array items =>
    have hitems := forall₂_writePrettyItems (level + 1) items hv
    cases items with
    | nil => exact .noItems blanks_nil
    | cons item items =>
      have h := laidOut_bracketed (blanks_newLine (level + 1)) (blanks_newLine level) hitems
        (List.cons_ne_nil item items)
      simpa [writePretty, writePrettyItems, block] using h
  | object members =>
    have hmembers := forall₂_writePrettyMembers (level + 1) members hv
    cases members with
    | nil => exact .noMembers blanks_nil
    | cons member members =>
      have h := laidOut_braced (blanks_newLine (level + 1)) (blanks_newLine level) hmembers
        (List.cons_ne_nil member members)
      simpa [writePretty, writePrettyMembers, block] using h
  | null | bool | number | text => exact laidOut_scalar hv nofun nofun

theorem forall₂_writePrettyItems (level : Nat) (items : List Json)
    (h : writableItems items = true) :
    List.Forall₂ LaidOut items (writePrettyItems level items) := by
  cases items with
  | nil => exact .nil
  | cons item items =>
    obtain ⟨hitem, hitems⟩ := Bool.and_eq_true_iff.mp h
    exact .cons (laidOut_writePretty level item hitem) (forall₂_writePrettyItems level items hitems)

theorem forall₂_writePrettyMembers (level : Nat) (members : List (Option String × Json))
    (h : writableMembers members = true) :
    List.Forall₂ MemberLaidOut members (writePrettyMembers level members) := by
  cases members with
  | nil => exact .nil
  | cons member members =>
    obtain ⟨key, value⟩ := member
    obtain ⟨hmember, hmembers⟩ := Bool.and_eq_true_iff.mp h
    obtain ⟨hkey, hvalue⟩ := Bool.and_eq_true_iff.mp hmember
    obtain ⟨key, rfl⟩ := Option.isSome_iff_exists.mp hkey
    have hone : Blanks [' '] := List.forall_mem_singleton.mpr rfl
    exact .cons (.mk key blanks_nil hone (laidOut_writePretty level value hvalue))
      (forall₂_writePrettyMembers level members hmembers)

end

/-! ## 3. Reading what was written -/

theorem parse?_of_layout {v : Json} {cs : List Char} (h : LaidOut v cs) :
    parse? (String.ofList cs) = some v := by
  have hread := parse?_of_laidOut blanks_nil blanks_nil h
  rwa [List.append_nil] at hread

/-- What is written on one line is read back. -/
theorem parse?_compact {v : Json} (hv : v.writable = true) : parse? v.compact = some v :=
  parse?_of_layout (laidOut_writeCompact v hv)

/-- What is written with indentation is read back. -/
theorem parse?_pretty {v : Json} (hv : v.writable = true) : parse? v.pretty = some v :=
  parse?_of_layout (laidOut_writePretty 0 v hv)

end DiceCup.Json
