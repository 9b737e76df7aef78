import DiceCup.Proofs.Figure.Narrowing
import DiceCup.Proofs.Pool.Totals
import DiceCup.Record.Settings
import DiceCup.Settings.Field

/-!
# Validity — settings stay valid, whatever is asked of them

All changes of valid settings take one course: the value is converted and put into its field, and
the two numbers of dice are compared then, which matters only where one of them was changed.  So a
change that goes through leaves valid settings, and a run of changes never leaves them.
-/

namespace DiceCup

namespace RollError

variable {α β : Type}

/-- A request in two steps goes through if both do. -/
theorem bind_eq_ok {x : Except RollError α} {f : α → Except RollError β} {b : β} :
    (x >>= f) = .ok b ↔ ∃ a, x = .ok a ∧ f a = .ok b := by
  cases x with
  | error e => exact ⟨fun h => (nomatch h), fun ⟨_, h, _⟩ => (nomatch h)⟩
  | ok a => exact ⟨fun h => ⟨a, rfl, h⟩, fun ⟨_, rfl, h⟩ => h⟩

theorem map_eq_ok {x : Except RollError α} {f : α → β} {b : β} :
    x.map f = .ok b ↔ ∃ a, x = .ok a ∧ f a = b := by
  cases x with
  | error e => exact ⟨fun h => (nomatch h), fun ⟨_, h, _⟩ => (nomatch h)⟩
  | ok a => exact ⟨fun h => ⟨a, rfl, Except.ok.inj h⟩, fun ⟨_, rfl, h⟩ => congrArg _ h⟩

theorem map_eq_error {x : Except RollError α} {f : α → β} {e : RollError} :
    x.map f = .error e ↔ x = .error e := by
  cases x with
  | error e' =>
    exact ⟨fun h => congrArg _ (Except.error.inj h), fun h => congrArg _ (Except.error.inj h)⟩
  | ok a => exact ⟨fun h => (nomatch h), fun h => (nomatch h)⟩

end RollError

namespace Settings

variable {s t : Settings} {c : Change} {v : FieldValue} {f g : Field}

/-! ## 1. Checks -/

theorem checkPositive_eq_ok {what : String} {n : UInt32} {u : Unit} :
    checkPositive what n = .ok u ↔ 1 ≤ n := by
  unfold checkPositive
  rw [Figure.positive_whole]
  by_cases h : n = 0
  · subst h
    exact ⟨fun h => (nomatch h), fun h => absurd h (by decide)⟩
  · rw [if_neg h]
    exact ⟨fun _ => Width.one_le_of_ne_zero h, fun _ => rfl⟩

theorem checkKept_eq_ok {kept rolled : UInt32} {u : Unit} :
    checkKept kept rolled = .ok u ↔ kept ≤ rolled := by
  unfold checkKept
  split
  next h => exact ⟨fun h => (nomatch h), fun hle => absurd h (UInt32.not_lt.mpr hle)⟩
  next h => exact ⟨fun _ => UInt32.not_lt.mp h, fun _ => rfl⟩

theorem checkKept_eq_error {kept rolled : UInt32} {e : RollError} :
    checkKept kept rolled = .error e ↔ rolled < kept ∧ e = .keptExceedsRolled kept rolled := by
  unfold checkKept
  split
  next h => exact ⟨fun heq => (by cases heq; exact ⟨h, rfl⟩), fun heq => by rw [heq.2]⟩
  next h => exact ⟨fun heq => (nomatch heq), fun heq => absurd heq.1 h⟩

theorem validate_eq_ok : s.validate = .ok () ↔ s.Valid := by
  unfold validate Valid
  simp only [RollError.bind_eq_ok, checkPositive_eq_ok, checkKept_eq_ok, exists_const]

/-! ## 2. Values and fields -/

theorem takes_of_value (h : c.value = .ok v) : c.field.Takes v := by
  cases c with
  | technique | foreground | background => cases h; exact trivial
  | noInterval => cases h; exact nofun
  | techniqueName name =>
    obtain ⟨t, _, rfl⟩ := RollError.map_eq_ok.mp h
    exact trivial
  | interval rolls =>
    obtain ⟨n, hn, rfl⟩ := RollError.map_eq_ok.mp h
    exact fun hzero => (Figure.positive_eq_ok_iff.mp hn).2 (Option.some.inj hzero)
  | arraySize | sides | diceRolled | diceKept =>
    obtain ⟨n, hn, rfl⟩ := RollError.map_eq_ok.mp h
    exact (Figure.positive_eq_ok_iff.mp hn).2

theorem kind_of_value_eq_error {e : RollError} (h : c.value = .error e) :
    e.kind = .invalidArgument := by
  cases c with
  | technique | foreground | background | noInterval => cases h
  | techniqueName name =>
    have hname := RollError.map_eq_error.mp h
    unfold Technique.ofName at hname
    split at hname <;> cases hname
    rfl
  | interval | arraySize | sides | diceRolled | diceKept =>
    exact Figure.kind_of_positive_eq_error (RollError.map_eq_error.mp h)

/-- A field is not affected by a value put into another one. -/
theorem get_put_of_ne (s : Settings) (v : FieldValue) (h : g ≠ f) :
    (s.put f v).get g = s.get g := by
  cases f <;> cases v <;> first | rfl | (cases g <;> first | rfl | exact absurd rfl h)

theorem get_put_self (s : Settings) (h : f.Takes v) : (s.put f v).get f = v := by
  cases f <;> cases v <;> first | rfl | cases h | skip
  case interval.rolls n =>
    cases n with
    | none => rfl
    | some n =>
      have hne : n ≠ 0 := fun hzero => h (congrArg some hzero)
      change FieldValue.rolls ((Interval.ofRolls? n).map Interval.rolls) = _
      rw [Interval.ofRolls?, dif_pos hne]
      rfl

/-- Settings are valid if their numbers are positive and no more dice are kept than rolled. -/
theorem valid_iff : s.Valid ↔ (∀ f n, s.get f = .number n → 1 ≤ n) ∧ s.diceKept ≤ s.diceRolled := by
  constructor
  · rintro ⟨harray, hsides, hrolled, hkept, hle⟩
    refine ⟨fun f n hn => ?_, hle⟩
    cases f <;> cases hn <;> assumption
  · rintro ⟨hnumber, hle⟩
    exact ⟨hnumber .arraySize _ rfl, hnumber .sides _ rfl, hnumber .diceRolled _ rfl,
      hnumber .diceKept _ rfl, hle⟩

/-! ## 3. The course of a change -/

def write (s : Settings) (f : Field) (v : FieldValue) : Except RollError Settings :=
  (checkKept (s.put f v).diceKept (s.put f v).diceRolled).map fun _ => s.put f v

/-- A change converts its value and then puts it into the field. -/
theorem change_eq (h : s.Valid) (c : Change) : s.change c = c.value.bind (s.write c.field) := by
  -- The comparison cannot fail where both numbers are what they were.
  have hsame (t : Settings) (hkept : t.diceKept = s.diceKept)
      (hrolled : t.diceRolled = s.diceRolled) :
      .ok t = (checkKept t.diceKept t.diceRolled).map fun _ => t := by
    have hok : checkKept s.diceKept s.diceRolled = .ok () := checkKept_eq_ok.mpr h.2.2.2.2
    rw [hkept, hrolled, hok]
    rfl
  -- The fields differ in how they convert a value and in whether the comparison is made.
  cases c with
  | technique | noInterval | foreground | background => exact hsame _ rfl rfl
  | techniqueName name =>
    simp only [change, Change.value]
    cases Technique.ofName name with
    | error e => rfl
    | ok t => exact hsame _ rfl rfl
  | interval rolls =>
    simp only [change, Change.value]
    cases rolls.positive "reseed_interval" with
    | error e => rfl
    | ok n => exact hsame _ rfl rfl
  | arraySize n | sides n =>
    simp only [change, Change.value]
    generalize n.positive _ = number
    cases number with
    | error e => rfl
    | ok n => exact hsame _ rfl rfl
  | diceRolled n | diceKept n =>
    simp only [change, Change.value]
    generalize n.positive _ = number
    cases number <;> rfl

theorem change_eq_ok_iff (h : s.Valid) : s.change c = .ok t ↔
    ∃ v, c.value = .ok v ∧ s.put c.field v = t ∧ t.diceKept ≤ t.diceRolled := by
  rw [change_eq h]
  change (c.value >>= s.write c.field) = .ok t ↔ _
  simp only [RollError.bind_eq_ok, write, RollError.map_eq_ok, checkKept_eq_ok]
  constructor
  · rintro ⟨v, hv, _, hle, rfl⟩
    exact ⟨v, hv, rfl, hle⟩
  · rintro ⟨v, hv, rfl, hle⟩
    exact ⟨v, hv, (), hle, rfl⟩

/-- Of a change that could be converted, only the comparison of the two numbers can turn it down. -/
theorem change_eq_error_iff (h : s.Valid) {e : RollError} : s.change c = .error e ↔
    c.value = .error e ∨ ∃ v, c.value = .ok v ∧
      (s.put c.field v).diceRolled < (s.put c.field v).diceKept ∧
      e = .keptExceedsRolled (s.put c.field v).diceKept (s.put c.field v).diceRolled := by
  rw [change_eq h]
  cases hv : c.value with
  | error e' =>
    constructor
    · intro heq
      exact .inl (congrArg Except.error (Except.error.inj heq))
    · rintro (heq | ⟨v, hv, _⟩)
      · exact congrArg Except.error (Except.error.inj heq)
      · cases hv
  | ok v =>
    change s.write c.field v = .error e ↔ _
    rw [write, RollError.map_eq_error, checkKept_eq_error]
    constructor
    · intro hle
      exact .inr ⟨v, rfl, hle⟩
    · rintro (heq | ⟨v', hv', hle⟩)
      · cases heq
      · cases hv'
        exact hle

/-- A number of dice to roll or to keep is more or less than the other one admits. -/
def Exceeds (s : Settings) (c : Change) (e : RollError) : Prop :=
  ∃ kept rolled, rolled < kept ∧ e = .keptExceedsRolled kept rolled ∧
    (c.field = .diceRolled ∧ c.value = .ok (.number rolled) ∧ kept = s.diceKept ∨
      c.field = .diceKept ∧ c.value = .ok (.number kept) ∧ rolled = s.diceRolled)

theorem change_eq_error_iff_exceeds (h : s.Valid) {e : RollError} :
    s.change c = .error e ↔ c.value = .error e ∨ s.Exceeds c e := by
  rw [change_eq_error_iff h]
  refine or_congr_right ⟨?_, ?_⟩
  · rintro ⟨v, hv, hlt, rfl⟩
    refine ⟨_, _, hlt, rfl, ?_⟩
    have htakes := takes_of_value hv
    have hle := UInt32.not_lt.mpr h.2.2.2.2
    -- Beside the two numbers of dice, no field bears on the comparison.
    rcases hf : c.field <;> rw [hf] at htakes hlt <;> cases v <;> first
      | exact absurd hlt hle
      | exact htakes.elim
      | exact .inl ⟨rfl, hv, rfl⟩
      | exact .inr ⟨rfl, hv, rfl⟩
  · rintro ⟨kept, rolled, hlt, rfl, ⟨hf, hv, rfl⟩ | ⟨hf, hv, rfl⟩⟩ <;>
      exact ⟨_, hv, by rw [hf]; exact hlt, by rw [hf]; rfl⟩

/-! ## 4. Runs of changes -/

/-- A change that goes through leaves valid settings valid. -/
theorem Valid.change (h : s.Valid) (hc : s.change c = .ok t) : t.Valid := by
  obtain ⟨v, hv, rfl, hle⟩ := (change_eq_ok_iff h).mp hc
  have htakes := takes_of_value hv
  refine valid_iff.mpr ⟨fun g n hn => ?_, hle⟩
  -- The field of the change has what it takes, and the others have what they had.
  by_cases hg : g = c.field
  · rw [hg, get_put_self s htakes] at hn
    subst hn
    refine Width.one_le_of_ne_zero ?_
    cases hf : c.field <;> rw [hf] at htakes <;> first | exact htakes | exact htakes.elim
  · rw [get_put_of_ne s v hg] at hn
    exact (valid_iff.mp h).1 g n hn

theorem Valid.attempt (h : s.Valid) (c : Change) : (s.attempt c).Valid := by
  unfold Settings.attempt
  split
  next t ht => exact h.change ht
  next => exact h

theorem Valid.after (h : s.Valid) (changes : List Change) : (s.after changes).Valid := by
  induction changes generalizing s with
  | nil => exact h
  | cons c changes ih => exact ih (h.attempt c)

/-- Settings before any change: the defaults, or what a text describes. -/
inductive Initial : Settings → Prop
  | defaults : Initial {}
  | loaded {text : String} {s : Settings} (h : load text = .ok s) : Initial s

/-- Defaults and loaded settings are valid. -/
theorem Initial.valid (h : s.Initial) : s.Valid := by
  cases h with
  | defaults => exact ⟨by decide, by decide, by decide, by decide, by decide⟩
  | loaded h => exact validate_eq_ok.mp (load_eq_ok.mp h).2

/-- **Changes keep settings valid.**  Whatever was asked of settings since they were made or loaded,
their numbers are positive, no more dice are kept than rolled, an interval is not empty, and the
check of loaded settings passes.  A change that is turned down then leaves them alone; one that is
made puts the converted value into its own field and leaves the others alone.  It is turned down
just if its value does not convert or if it would have more dice kept than rolled, and the complaint
says which. -/
theorem changes_keep_valid (start : Settings) (hstart : start.Initial) (changes : List Change) :
    let s := start.after changes
    s.Valid ∧ (∀ i ∈ s.interval, 1 ≤ i.rolls) ∧ s.validate = .ok () ∧
      ∀ c : Change, (∀ e, s.change c = .error e → s.attempt c = s) ∧
        (∀ t, s.change c = .ok t → s.attempt c = t ∧ c.value = .ok (t.get c.field) ∧
          ∀ f, f ≠ c.field → t.get f = s.get f) ∧
        (∀ e, s.change c = .error e ↔ c.value = .error e ∨ s.Exceeds c e) ∧
        ∀ e, c.value = .error e → e.kind = .invalidArgument := by
  intro s
  have hvalid : s.Valid := hstart.valid.after changes
  refine ⟨hvalid, fun i _ => Width.one_le_of_ne_zero i.rolls_ne_zero, validate_eq_ok.mpr hvalid, ?_⟩
  intro c
  refine ⟨fun e he => ?refused, fun t ht => ?made, fun e => change_eq_error_iff_exceeds hvalid,
    fun e => kind_of_value_eq_error⟩
  case refused =>
    unfold Settings.attempt
    rw [he]
  case made =>
    have hattempt : s.attempt c = t := by
      unfold Settings.attempt
      rw [ht]
    obtain ⟨v, hv, rfl, _⟩ := (change_eq_ok_iff hvalid).mp ht
    refine ⟨hattempt, ?_, fun f hf => get_put_of_ne s v hf⟩
    rw [get_put_self s (takes_of_value hv), hv]

theorem changes_keep_valid_six_kept :
    let s := after {} [.diceKept (.whole 6), .diceRolled (.text " 6"), .diceKept (.whole 6)]
    Initial {} ∧ s.Valid ∧ s.diceKept = 6 ∧
      s.change (.diceRolled (.whole 5)) = .error (.keptExceedsRolled 6 5) ∧
      s.attempt (.diceRolled (.whole 5)) = s := by
  intro s
  have hkeeps := changes_keep_valid {} .defaults
    [.diceKept (.whole 6), .diceRolled (.text " 6"), .diceKept (.whole 6)]
  have hkept : s.diceKept = 6 := by decide +kernel
  have hrefused : s.change (.diceRolled (.whole 5)) = .error (.keptExceedsRolled 6 5) := by
    refine ((hkeeps.2.2.2 _).2.2.1 _).mpr (.inr ⟨6, 5, by decide, rfl, .inl ⟨rfl, ?_, hkept.symm⟩⟩)
    rfl
  exact ⟨.defaults, hkeeps.1, hkept, hrefused, (hkeeps.2.2.2 _).1 _ hrefused⟩

end Settings

end DiceCup
