import DiceCup.Json.Decode
import DiceCup.Proofs.Json.Writing
import DiceCup.Proofs.Figure.Narrowing

/-!
# Decoding — typed values come back from the JSON made of them

The decoder of each kind of value inverts its encoder.  An object made of a record's fields, each
under a name of its own, gives these fields back.  The values that encoders make are plain: they can
be written, and they hold nothing unreadable.
-/

namespace DiceCup.Json

/-! ## 1. Scalars and lists -/

theorem integer?_ofNat (n : Nat) : (Numeral.ofNat n).integer? = some (n : Int) := by
  simp [Numeral.integer?, Numeral.ofNat]

theorem uint32?_ofNat (n : UInt32) : (ofNat n.toNat).uint32? = some n := by
  show ((Numeral.ofNat n.toNat).integer?).bind Width.uint32? = some n
  rw [integer?_ofNat, Option.bind_some, Width.uint32?_toNat]

theorem int32?_ofInt (n : Int32) : (ofInt n.toInt).int32? = some n := by
  show ((Numeral.ofInt n.toInt).integer?).bind Width.int32? = some n
  rw [Numeral.integer?_ofInt, Option.bind_some, Width.int32?_toInt]

section

variable {α : Type} {encode : α → Json} {decode : Decoder α}

/-- An optional value is read back if no value is written as an absent one. -/
theorem option?_ofOption (h : ∀ a, decode (encode a) = some a) (hnull : ∀ a, encode a ≠ .null)
    (o : Option α) : (ofOption encode o).option? decode = some o := by
  cases o with
  | none => rfl
  | some a =>
    show (encode a).option? decode = _
    unfold option?
    split
    · next heq => exact absurd heq (hnull a)
    · rw [h, Option.map_some]

/-- A list is read back item by item. -/
theorem list?_array (h : ∀ a, decode (encode a) = some a) (items : List α) :
    list? decode (.array (items.map encode)) = some items := by
  show (items.map encode).mapM decode = some items
  induction items with
  | nil => rfl
  | cons a items ih =>
    rw [List.map_cons, List.mapM_cons, h, ih]
    rfl

end

/-! ## 2. Records -/

namespace Fields

/-- Members that belong to fields, each once, are found in their order. -/
theorem ofMembers?_map {names : List String} {fields : List (String × Json)}
    (hnames : ∀ field ∈ fields, field.1 ∈ names) (hnodup : (fields.map Prod.fst).Nodup) :
    ofMembers? names (fields.map fun (key, value) => (some key, value)) = some fields := by
  induction fields with
  | nil => rfl
  | cons field fields ih =>
    obtain ⟨key, value⟩ := field
    obtain ⟨hname, hrest⟩ := List.forall_mem_cons.mp hnames
    obtain ⟨hkey, hnodup⟩ := List.nodup_cons.mp hnodup
    -- A name that comes once is not found among the members behind it.
    have hfresh : fields.lookup key = none := by
      apply List.lookup_eq_none_iff.mpr
      intro field hfield
      have hne : key ≠ field.1 := by
        rintro rfl
        exact hkey (List.mem_map.mpr ⟨field, hfield, rfl⟩)
      simpa using hne
    rw [List.map_cons, ofMembers?, ih hrest hnodup]
    simp only [Option.bind_eq_bind, Option.bind_some, hfresh]
    rw [if_pos (List.contains_iff_mem.mpr hname)]
    rfl

/-- An object with all fields of a record and nothing else. -/
theorem ofJson?_ofFields {names : List String} {fields : List (String × Json)}
    (hnames : fields.map Prod.fst = names) (hnodup : names.Nodup) :
    ofJson? names (.ofFields fields) = some ⟨false, fields⟩ := by
  have hmem : ∀ field ∈ fields, field.1 ∈ names := fun field hfield =>
    hnames ▸ List.mem_map_of_mem hfield
  show (ofMembers? names _).map _ = _
  rw [ofMembers?_map hmem (hnames ▸ hnodup)]
  rfl

end Fields

/-! ## 3. Plain values -/

/-- A value that can be written, and in which nothing is unreadable down to some level. -/
structure Plain (depth : Nat) (v : Json) : Prop where
  writable : v.writable = true
  readable : v.readable depth = true

theorem plain_bool (depth : Nat) (b : Bool) : Plain depth (.bool b) := by
  constructor
  · rfl
  · cases depth <;> rfl

theorem plain_ofString (depth : Nat) (s : String) : Plain depth (ofString s) := by
  constructor
  · rfl
  · cases depth <;> rfl

theorem plain_number (depth : Nat) {n : Numeral} {z : Int} (hfraction : n.fraction = [])
    (hinteger : n.integer? = some z) (hfits : Width.inInt64 z = true) :
    Plain depth (.number n) := by
  have hnumber : n.number? = some (.whole z) :=
    Numeral.number?_of_integer? hinteger (.inl hfits)
  constructor
  · show n.fraction.all Char.isDigit = true
    rw [hfraction]
    rfl
  · cases depth <;> (show n.number?.isSome = true; rw [hnumber]; rfl)

theorem plain_ofNat (depth : Nat) (n : UInt32) : Plain depth (ofNat n.toNat) :=
  plain_number depth rfl (integer?_ofNat n.toNat) (Width.inInt64_toNat n)

theorem plain_ofInt (depth : Nat) (n : Int32) : Plain depth (ofInt n.toInt) :=
  plain_number depth rfl (Numeral.integer?_ofInt n.toInt) (Width.inInt64_toInt n)

theorem plain_ofOption {α : Type} {encode : α → Json} {depth : Nat}
    (h : ∀ a, Plain depth (encode a)) (o : Option α) : Plain depth (ofOption encode o) := by
  cases o with
  | some a => exact h a
  | none =>
    constructor
    · rfl
    · cases depth <;> rfl

theorem plain_array {depth : Nat} {items : List Json} (h : ∀ item ∈ items, Plain depth item) :
    Plain (depth + 1) (.array items) := by
  have hboth : writableItems items = true ∧ readableItems depth items = true := by
    induction items with
    | nil => exact ⟨rfl, rfl⟩
    | cons item items ih =>
      obtain ⟨hitem, hrest⟩ := List.forall_mem_cons.mp h
      obtain ⟨hwritable, hreadable⟩ := ih hrest
      exact ⟨Bool.and_eq_true_iff.mpr ⟨hitem.writable, hwritable⟩,
        Bool.and_eq_true_iff.mpr ⟨hitem.readable, hreadable⟩⟩
  exact ⟨hboth.1, hboth.2⟩

theorem plain_ofFields {depth : Nat} {fields : List (String × Json)}
    (h : ∀ field ∈ fields, Plain depth field.2) : Plain (depth + 1) (ofFields fields) := by
  have hboth : writableMembers (fields.map fun (key, value) => (some key, value)) = true ∧
      readableMembers depth (fields.map fun (key, value) => (some key, value)) = true := by
    induction fields with
    | nil => exact ⟨rfl, rfl⟩
    | cons field fields ih =>
      obtain ⟨hfield, hrest⟩ := List.forall_mem_cons.mp h
      obtain ⟨hwritable, hreadable⟩ := ih hrest
      exact ⟨Bool.and_eq_true_iff.mpr ⟨hfield.writable, hwritable⟩,
        Bool.and_eq_true_iff.mpr ⟨hfield.readable, hreadable⟩⟩
  exact ⟨hboth.1, hboth.2⟩

end DiceCup.Json
