import DiceCup.Proofs.Cup.Streams

/-!
# Replays — a reported seed repeats what was drawn

A generator stands where the draws since its last start have brought it, from the seed that its cup
reports.  A start sets both back, a draw moves both on by one; so it holds after every history.
-/

namespace DiceCup

namespace Random.Generator

def drawFaces : List UInt32 → Generator → List UInt32 × Generator
  | [], g => ([], g)
  | sides :: rest, g =>
    let (value, g) := drawFace sides g
    let (values, g) := drawFaces rest g
    (value :: values, g)

theorem drawFaces_concat (front : List UInt32) (sides : UInt32) (g : Generator) :
    drawFaces (front ++ [sides]) g =
      ((drawFaces front g).1 ++ [(drawFace sides (drawFaces front g).2).1],
        (drawFace sides (drawFaces front g).2).2) := by
  induction front generalizing g with
  | nil => rfl
  | cons first front ih =>
    simp only [List.cons_append, drawFaces]
    rw [ih]

end Random.Generator

open DiceCup.Random

namespace Cup

variable {s : Stream}

/-! ## 1. Generators and their draws -/

/-- The draws, of dice with sides, bring a generator from the start of its seed to where it is. -/
structure Follows (g : Generator) (ds : List Draw) : Prop where
  sides_ne_zero : ∀ d ∈ ds, d.sides ≠ 0
  drawFaces_eq : (Generator.ofSeed g.seed).drawFaces (ds.map Draw.sides) = (ds.map Draw.value, g)

theorem Follows.start (seed : UInt64) : Follows (.ofSeed seed) [] := ⟨nofun, rfl⟩

/-- One more die brings the generator to where the draws and that die bring it. -/
theorem Follows.draw {g next : Generator} {ds : List Draw} {sides value : UInt32}
    (h : Follows g ds) (hsides : sides ≠ 0) (hface : drawFace sides g = (value, next)) :
    Follows next (ds ++ [⟨sides, value⟩]) := by
  have hseed : next.seed = g.seed := by
    rw [← seed_drawFace sides g, hface]
  refine ⟨?_, ?_⟩
  · intro d hd
    rcases List.mem_append.mp hd with hd | hd
    · exact h.sides_ne_zero d hd
    · rw [List.mem_singleton.mp hd]
      exact hsides
  · rw [hseed, List.map_append, List.map_append]
    change Generator.drawFaces (_ ++ [sides]) _ = _
    rw [Generator.drawFaces_concat, h.drawFaces_eq, hface]
    rfl

/-- The draws tell where the generator of a stream is; without a generator there are none. -/
def Told (g? : Option Generator) (ds : List Draw) : Prop :=
  match g? with
  | some g => Follows g ds
  | none => ds = []

theorem noteDraw_of_ne {event : Event} {ds : List Draw} (h : event.stream ≠ s) :
    noteDraw s ds event = ds := by
  cases event with
  | drawn stream sides value => exact if_neg h
  | started stream => exact if_neg h

theorem Event.Acts.told {event : Event} {g? next : Option Generator} {ds : List Draw}
    (h : event.Acts s g? next) (htold : Told g? ds) : Told next (noteDraw s ds event) := by
  cases h with
  | apart hne => rwa [noteDraw_of_ne hne]
  | drawn hsides hfrom hface =>
    rw [noteDraw, if_pos rfl]
    -- The generator was there, or it is new, and then nothing was drawn before.
    rcases hfrom with rfl | ⟨rfl, seed, rfl⟩
    · exact Follows.draw htold hsides hface
    · rw [show ds = [] from htold]
      exact (Follows.start seed).draw hsides hface
  | started seed =>
    rw [noteDraw, if_pos rfl]
    exact Follows.start seed

/-- The draws since the last start still tell where the generator is after any events. -/
theorem Story.told {events : List Event} {g? next : Option Generator} {ds : List Draw}
    (h : Story s events g? next) (htold : Told g? ds) :
    Told next (events.foldl (noteDraw s) ds) := by
  induction h generalizing ds with
  | nil => exact htold
  | cons hact _ ih => exact ih (hact.told htold)

/-! ## 2. The replay -/

/-- A new cup has drawn nothing yet. -/
theorem told_origin (origin : Origin) (entropy : Entropy) (s : Stream) :
    Told ((origin.cup entropy).generator? s) [] := by
  cases s with
  | entropy => rfl
  | global => cases origin <;> exact Follows.start _
  | ownInstance =>
    cases origin with
    | seed seed => exact Follows.start seed
    | fresh | settings => rfl

/-- A cup whose stream starts from a seed rolls what a generator of the seed draws. -/
theorem replies_rolls {cup : Cup} {t : Technique} {g : Generator} {sides : List UInt32}
    (hinterval : cup.interval = none) (ht : streamOf? t = some s) (hg : cup.generator? s = some g)
    (hsides : ∀ n ∈ sides, n ≠ 0) :
    cup.replies (rolls t sides) = (g.drawFaces sides).1.map fun value => .rolled (.ok value) := by
  -- By induction on the dice; the generator of the stream and the lack of an interval carry it.
  induction sides generalizing cup g with
  | nil => rfl
  | cons n sides ih =>
    obtain ⟨hn, hsides⟩ := List.forall_mem_cons.mp hsides
    obtain ⟨hreply, hnext, hinterval⟩ := answer_roll hinterval hn ht hg
    have hrest := ih hinterval hnext hsides
    simp only [replies, rolls, List.map_cons, history] at hrest ⊢
    rw [hrest]
    exact congrArg (· :: _) hreply

theorem Follows.replies {cup : Cup} {t : Technique} {g : Generator} {ds : List Draw}
    (h : Follows g ds) (hinterval : cup.interval = none) (ht : streamOf? t = some s)
    (hg : cup.generator? s = some (.ofSeed g.seed)) :
    cup.replies (rolls t (ds.map Draw.sides)) = ds.map fun d => .rolled (.ok d.value) := by
  have hsides : ∀ n ∈ ds.map Draw.sides, n ≠ 0 := by
    intro n hn
    obtain ⟨d, hd, rfl⟩ := List.mem_map.mp hn
    exact h.sides_ne_zero d hd
  rw [replies_rolls hinterval ht hg hsides, h.drawFaces_eq, List.map_map]
  rfl

/-- **A reported seed replays its generator.**  After any requests, each generator is the one that
its reported seed starts, moved on by the draws since it was last started; so a cup of that seed
rolls the same values again.  A cup that was not made from a seed reports none for the instance
generator as long as nothing was drawn from it and no reseed named it, and no longer. -/
theorem seeds_replay (origin : Origin) (entropy : Entropy) (requests : List Request) :
    let cup := (origin.cup entropy).after requests
    let events := (origin.cup entropy).events requests
    (cup.globalGenerator = ((Generator.ofSeed cup.globalSeed).drawFaces
        ((draws .global events).map Draw.sides)).2 ∧
      ∀ other, (Cup.ofSeed cup.globalSeed other).replies
          (rolls .seededGlobal ((draws .global events).map Draw.sides)) =
        (draws .global events).map fun d => .rolled (.ok d.value)) ∧
    (∀ seed, cup.instanceSeed = some seed →
      cup.instanceGenerator = some ((Generator.ofSeed seed).drawFaces
        ((draws .ownInstance events).map Draw.sides)).2 ∧
      ∀ other, (Cup.ofSeed seed other).replies
          (rolls .seededInstance ((draws .ownInstance events).map Draw.sides)) =
        (draws .ownInstance events).map fun d => .rolled (.ok d.value)) ∧
    ((∀ seed, origin ≠ .seed seed) →
      (cup.instanceSeed = none ↔ ∀ event ∈ events, event.stream ≠ .ownInstance)) := by
  intro cup events
  -- The events on a stream account for its generator, whatever else was asked of the cup.
  have hglobalStory := story_history (origin.cup entropy) requests
    (show Stream.global ≠ .entropy from nofun)
  have hownStory := story_history (origin.cup entropy) requests
    (show Stream.ownInstance ≠ .entropy from nofun)
  have hglobal : Follows cup.globalGenerator (draws .global events) :=
    hglobalStory.told (told_origin origin entropy .global)
  have hown : Told cup.instanceGenerator (draws .ownInstance events) :=
    hownStory.told (told_origin origin entropy .ownInstance)
  refine ⟨⟨?_, fun other => hglobal.replies rfl rfl rfl⟩, ?_, ?_⟩
  · exact (congrArg Prod.snd hglobal.drawFaces_eq).symm
  · intro seed hseed
    obtain ⟨g, hg, rfl⟩ := Option.map_eq_some_iff.mp hseed
    rw [hg] at hown ⊢
    refine ⟨?_, fun other => Follows.replies hown rfl rfl rfl⟩
    exact congrArg some (congrArg Prod.snd hown.drawFaces_eq).symm
  · intro horigin
    -- Only a cup that was made from a seed has an instance generator to begin with.
    have hstart : (origin.cup entropy).generator? .ownInstance = none := by
      cases origin with
      | seed seed => exact absurd rfl (horigin seed)
      | fresh | settings => rfl
    have hnone := hownStory.eq_none_iff
    rw [hstart] at hnone
    rw [instanceSeed, Option.map_eq_none_iff]
    exact hnone.trans (and_iff_right rfl)

/-- A roll from a random seed, a reseed with seven, two rolls and one that fails. -/
def sevens : List Request :=
  [.roll 6 none, .reseed { technique := some .seededInstance, instanceSeed := some 7 },
    .roll 6 none, .roll 0 none, .roll 20 (some .seededInstance)]

theorem seeds_replay_sevens :
    let start := Origin.fresh.cup (.ofWords fun _ => 0)
    ((start.after sevens).instanceSeed = some 7 ∧
      ∀ other, (Cup.ofSeed 7 other).replies (rolls .seededInstance [6, 20]) =
        [.rolled (.ok 3), .rolled (.ok 1)]) ∧
    (∀ seed, Origin.fresh ≠ .seed seed) ∧ ((start.after sevens).instanceSeed = none ↔
      ∀ event ∈ start.events sevens, event.stream ≠ .ownInstance) := by
  intro start
  have hreplay := seeds_replay .fresh (.ofWords fun _ => 0) sevens
  have hseed : (start.after sevens).instanceSeed = some 7 := by decide +kernel
  have hdraws : draws .ownInstance (start.events sevens) = [⟨6, 3⟩, ⟨20, 1⟩] := by decide +kernel
  have hsevens := (hreplay.2.1 7 hseed).2
  rw [hdraws] at hsevens
  exact ⟨⟨hseed, hsevens⟩, nofun, hreplay.2.2 nofun⟩

end Cup

end DiceCup
