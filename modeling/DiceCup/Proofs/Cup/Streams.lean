import DiceCup.Cup.History
import DiceCup.Proofs.Cup.Roll

/-!
# Streams — the events tell all that happens to a generator

Drawing and reseeding are said once, as equations between cups.  From them, each event of a step
acts on the generator of its own stream and leaves every other one alone, and the events of a
history lead from the generators at its start to those at its end.
-/

namespace DiceCup

namespace Random

-- The words passed over are counted by an induction that never looks at how many there are.
theorem seed_drawWithin (sides : UInt32) (left : Nat) (g : Generator) :
    (drawWithin sides left g).2.seed = g.seed := by
  induction left generalizing g with
  | zero => rfl
  | succ left ih =>
    simp only [drawWithin]
    split
    · rfl
    · rw [ih]
      rfl

theorem seed_drawFace (sides : UInt32) (g : Generator) : (drawFace sides g).2.seed = g.seed :=
  seed_drawWithin sides patience g

end Random

open DiceCup.Random

def ReseedOptions.seedOf (options : ReseedOptions) : Cup.Stream → Option UInt64
  | .entropy => none
  | .global => options.globalSeed
  | .ownInstance => options.instanceSeed

namespace Cup

def generator? (cup : Cup) : Stream → Option Generator
  | .entropy => none
  | .global => some cup.globalGenerator
  | .ownInstance => cup.instanceGenerator

def seed? (cup : Cup) (s : Stream) : Option UInt64 := (cup.generator? s).map Generator.seed

variable {s : Stream}

@[simp] theorem generator?_rolled (cup : Cup) (rolled : UInt32) :
    ({ cup with rolled } : Cup).generator? s = cup.generator? s := by
  cases s <;> rfl

@[simp] theorem generator?_entropy (cup : Cup) (entropy : Entropy) :
    ({ cup with entropy } : Cup).generator? s = cup.generator? s := by
  cases s <;> rfl

/-! ## 1. Reseeding -/

def restart (options : ReseedOptions) (cup : Cup) : Stream → Cup
  | .entropy => cup
  | .global => (cup.reseedGlobal options.globalSeed).2
  | .ownInstance => (cup.reseedInstance options.instanceSeed).2

def displacedBy (cup : Cup) (t : Technique) : Option DisplacedSeeds :=
  if t = .secure then none
  else some
    { globalSeed := if .global ∈ seededStreams t then cup.seed? .global else none
      instanceSeed := if .ownInstance ∈ seededStreams t then cup.seed? .ownInstance else none }

theorem startGenerator_eq (seed? : Option UInt64) (cup : Cup) :
    ∃ seed entropy, cup.startGenerator seed? = (.ofSeed seed, { cup with entropy }) ∧
      (seed? ≠ none → seed? = some seed) := by
  cases seed? with
  | some seed => exact ⟨seed, cup.entropy, rfl, fun _ => rfl⟩
  | none => exact ⟨cup.entropy.seed.1, cup.entropy.seed.2, rfl, fun h => absurd rfl h⟩

theorem restart_global_eq (options : ReseedOptions) (cup : Cup) :
    ∃ seed entropy, cup.restart options .global =
        { cup with globalGenerator := .ofSeed seed, entropy } ∧
      (options.globalSeed ≠ none → options.globalSeed = some seed) := by
  obtain ⟨seed, entropy, heq, hseed⟩ := startGenerator_eq options.globalSeed cup
  exact ⟨seed, entropy, by simp only [restart, reseedGlobal, heq], hseed⟩

theorem restart_ownInstance_eq (options : ReseedOptions) (cup : Cup) :
    ∃ seed entropy, cup.restart options .ownInstance =
        { cup with instanceGenerator := some (.ofSeed seed), entropy } ∧
      (options.instanceSeed ≠ none → options.instanceSeed = some seed) := by
  obtain ⟨seed, entropy, heq, hseed⟩ := startGenerator_eq options.instanceSeed cup
  exact ⟨seed, entropy, by simp only [restart, reseedInstance, heq], hseed⟩

theorem policy_restart (options : ReseedOptions) (cup : Cup) (s : Stream) :
    (cup.restart options s).technique = cup.technique ∧
      (cup.restart options s).interval = cup.interval ∧
      (cup.restart options s).rolled = cup.rolled := by
  cases s with
  | entropy => exact ⟨rfl, rfl, rfl⟩
  | global =>
    obtain ⟨_, _, heq, _⟩ := restart_global_eq options cup
    rw [heq]
    exact ⟨rfl, rfl, rfl⟩
  | ownInstance =>
    obtain ⟨_, _, heq, _⟩ := restart_ownInstance_eq options cup
    rw [heq]
    exact ⟨rfl, rfl, rfl⟩

/-- A restart touches the generator of its own stream only. -/
theorem generator?_restart_of_ne (options : ReseedOptions) (cup : Cup) {other : Stream}
    (h : other ≠ s) : (cup.restart options s).generator? other = cup.generator? other := by
  cases s with
  | entropy => rfl
  | global =>
    obtain ⟨_, _, heq, _⟩ := restart_global_eq options cup
    rw [heq]
    cases other with
    | global => exact absurd rfl h
    | entropy | ownInstance => rfl
  | ownInstance =>
    obtain ⟨_, _, heq, _⟩ := restart_ownInstance_eq options cup
    rw [heq]
    cases other with
    | ownInstance => exact absurd rfl h
    | entropy | global => rfl

theorem generator?_restart_self (options : ReseedOptions) (cup : Cup) (hs : s ≠ .entropy) :
    ∃ seed, (cup.restart options s).generator? s = some (.ofSeed seed) ∧
      (options.seedOf s ≠ none → options.seedOf s = some seed) := by
  cases s with
  | entropy => exact absurd rfl hs
  | global =>
    obtain ⟨seed, _, heq, hseed⟩ := restart_global_eq options cup
    exact ⟨seed, by rw [heq]; rfl, hseed⟩
  | ownInstance =>
    obtain ⟨seed, _, heq, hseed⟩ := restart_ownInstance_eq options cup
    exact ⟨seed, by rw [heq]; rfl, hseed⟩

/-- A reseed sets the count back and restarts one stream after the other. -/
theorem reseed_eq (options : ReseedOptions) (cup : Cup) :
    cup.reseed options = (cup.displacedBy (options.technique.getD cup.technique),
      (seededStreams (options.technique.getD cup.technique)).foldl (restart options)
        { cup with rolled := 0 }) := by
  unfold reseed
  dsimp only
  cases options.technique.getD cup.technique with
  | secure | seededGlobal | seededInstance => rfl
  | randomEachCall =>
    -- The seed reported second is the one before the first restart.
    have hseed := generator?_restart_of_ne options { cup with rolled := 0 }
      (show Stream.ownInstance ≠ .global from nofun)
    have hdisplaced := congrArg (fun own : Option Generator =>
      some (DisplacedSeeds.mk (some cup.globalSeed) (own.map Generator.seed))) hseed
    exact Prod.ext hdisplaced rfl

theorem policy_reseed (options : ReseedOptions) (cup : Cup) :
    (cup.reseed options).2.technique = cup.technique ∧
      (cup.reseed options).2.interval = cup.interval ∧ (cup.reseed options).2.rolled = 0 := by
  -- Each restart keeps the policy, and so do any number of them.
  have hfold (streams : List Stream) (start : Cup) :
      (streams.foldl (restart options) start).technique = start.technique ∧
        (streams.foldl (restart options) start).interval = start.interval ∧
        (streams.foldl (restart options) start).rolled = start.rolled := by
    induction streams generalizing start with
    | nil => exact ⟨rfl, rfl, rfl⟩
    | cons stream streams ih =>
      have hstart := policy_restart options start stream
      have hrest := ih (start.restart options stream)
      exact ⟨hrest.1.trans hstart.1, hrest.2.1.trans hstart.2.1, hrest.2.2.trans hstart.2.2⟩
  rw [reseed_eq]
  exact hfold _ _

/-! ## 2. Drawing -/

theorem chooseStream_eq (cup : Cup) (t : Technique) :
    ∃ entropy, (cup.chooseStream t).2 = { cup with entropy } := by
  cases t with
  | secure | seededGlobal | seededInstance => exact ⟨cup.entropy, rfl⟩
  | randomEachCall => exact ⟨(drawFace 3 cup.entropy).2, rfl⟩

/-- The generator that a stream draws from: its own, or a new one if it has none. -/
def DrawsFrom (g? : Option Generator) (g : Generator) : Prop :=
  g? = some g ∨ g? = none ∧ ∃ seed, g = .ofSeed seed

theorem drawFrom_ownInstance_eq (sides : UInt32) (cup : Cup) :
    ∃ g entropy, DrawsFrom cup.instanceGenerator g ∧
      cup.drawFrom sides .ownInstance = ((drawFace sides g).1,
        { cup with instanceGenerator := some (drawFace sides g).2, entropy }) := by
  unfold drawFrom haveInstance DrawsFrom
  cases cup.instanceGenerator with
  | some g => exact ⟨g, cup.entropy, .inl rfl, rfl⟩
  | none =>
    obtain ⟨seed, entropy, heq, _⟩ := startGenerator_eq none cup
    refine ⟨.ofSeed seed, entropy, .inr ⟨rfl, seed, rfl⟩, ?_⟩
    dsimp only
    rw [heq]

theorem generator?_drawFrom_of_ne (sides : UInt32) (cup : Cup) {stream : Stream}
    (h : stream ≠ s) : (cup.drawFrom sides stream).2.generator? s = cup.generator? s := by
  cases stream with
  | entropy => cases s <;> rfl
  | global =>
    cases s with
    | global => exact absurd rfl h
    | entropy | ownInstance => rfl
  | ownInstance =>
    obtain ⟨g, _, _, heq⟩ := drawFrom_ownInstance_eq sides cup
    rw [heq]
    cases s with
    | ownInstance => exact absurd rfl h
    | entropy | global => rfl

/-- A draw takes its face from the generator of the stream and leaves it one die further. -/
theorem drawFrom_self (sides : UInt32) (cup : Cup) (hs : s ≠ .entropy) :
    ∃ g, DrawsFrom (cup.generator? s) g ∧ (cup.drawFrom sides s).1 = (drawFace sides g).1 ∧
      (cup.drawFrom sides s).2.generator? s = some (drawFace sides g).2 := by
  cases s with
  | entropy => exact absurd rfl hs
  | global => exact ⟨cup.globalGenerator, .inl rfl, rfl, rfl⟩
  | ownInstance =>
    obtain ⟨g, _, hg, heq⟩ := drawFrom_ownInstance_eq sides cup
    exact ⟨g, hg, by rw [heq], by rw [heq]; rfl⟩

/-- A draw leaves alone what decides about the next reseed. -/
theorem policy_draw (sides : UInt32) (t : Technique) (cup : Cup) :
    (cup.draw sides t).2.technique = cup.technique ∧
      (cup.draw sides t).2.interval = cup.interval ∧ (cup.draw sides t).2.rolled = cup.rolled := by
  obtain ⟨entropy, hchosen⟩ := chooseStream_eq cup t
  unfold draw
  dsimp only
  rw [hchosen]
  cases (cup.chooseStream t).1 with
  | entropy | global => exact ⟨rfl, rfl, rfl⟩
  | ownInstance =>
    obtain ⟨_, _, _, heq⟩ := drawFrom_ownInstance_eq sides { cup with entropy }
    rw [heq]
    exact ⟨rfl, rfl, rfl⟩

/-! ## 3. Events -/

inductive Event.Acts (s : Stream) : Event → Option Generator → Option Generator → Prop where
  | apart {event g?} (h : event.stream ≠ s) : Acts s event g? g?
  | drawn {sides value g? g next} (hsides : sides ≠ 0) (hfrom : DrawsFrom g? g)
      (hface : drawFace sides g = (value, next)) : Acts s (.drawn s sides value) g? (some next)
  | started {g?} (seed : UInt64) : Acts s (.started s) g? (some (.ofSeed seed))

/-- What events one after the other make of the generator of a stream. -/
inductive Story (s : Stream) : List Event → Option Generator → Option Generator → Prop where
  | nil {g?} : Story s [] g? g?
  | cons {event events g? mid next} (hact : event.Acts s g? mid) (hrest : Story s events mid next) :
      Story s (event :: events) g? next

theorem Story.append {events more : List Event} {g? mid next : Option Generator}
    (h : Story s events g? mid) (hmore : Story s more mid next) :
    Story s (events ++ more) g? next := by
  induction h with
  | nil => exact hmore
  | cons hact _ ih => exact .cons hact (ih hmore)

/-- A stream lacks a generator as long as nothing happens to it, and no longer. -/
theorem Story.eq_none_iff {events : List Event} {g? next : Option Generator}
    (h : Story s events g? next) :
    next = none ↔ g? = none ∧ ∀ event ∈ events, event.stream ≠ s := by
  induction h with
  | nil => simp
  | cons hact _ ih =>
    rw [ih, List.forall_mem_cons]
    cases hact with
    | apart hne => simp [hne]
    | drawn | started => simp [Event.stream]

/-- Events on other streams leave a generator as it is. -/
theorem Story.eq_of_apart {events : List Event} {g? next : Option Generator}
    (h : Story s events g? next) (hapart : ∀ event ∈ events, event.stream ≠ s) : next = g? := by
  induction h with
  | nil => rfl
  | cons hact _ ih =>
    obtain ⟨hevent, hrest⟩ := List.forall_mem_cons.mp hapart
    rw [ih hrest]
    cases hact with
    | apart => rfl
    | drawn | started => exact absurd rfl hevent

theorem acts_restart (options : ReseedOptions) (cup : Cup) {stream : Stream}
    (hstream : stream ≠ .entropy) :
    (Event.started stream).Acts s (cup.generator? s)
      ((cup.restart options stream).generator? s) := by
  by_cases h : stream = s
  · subst h
    obtain ⟨seed, heq, _⟩ := generator?_restart_self options cup hstream
    rw [heq]
    exact .started seed
  · rw [generator?_restart_of_ne options cup (Ne.symm h)]
    exact .apart h

theorem entropy_notMem_seededStreams (t : Technique) : .entropy ∉ seededStreams t := by
  cases t <;> decide

theorem story_restarts (options : ReseedOptions) (cup : Cup) {streams : List Stream}
    (h : .entropy ∉ streams) :
    Story s (streams.map .started) (cup.generator? s)
      ((streams.foldl (restart options) cup).generator? s) := by
  induction streams generalizing cup with
  | nil => exact .nil
  | cons stream streams ih =>
    have hstream : stream ≠ .entropy := fun heq => h (heq ▸ List.mem_cons_self)
    have hrest : .entropy ∉ streams := fun hmem => h (List.mem_cons_of_mem stream hmem)
    exact .cons (acts_restart options cup hstream) (ih _ hrest)

/-- A reseed starts the generators of its technique and touches no other one. -/
theorem story_reseed (options : ReseedOptions) (cup : Cup) :
    Story s ((seededStreams (options.technique.getD cup.technique)).map .started)
      (cup.generator? s) ((cup.reseed options).2.generator? s) := by
  rw [reseed_eq, ← generator?_rolled cup 0]
  exact story_restarts options _ (entropy_notMem_seededStreams _)

/-- A die is drawn from the stream that was chosen for it, and the others are left alone. -/
theorem acts_draw {sides : UInt32} (hsides : sides ≠ 0) (t : Technique) (cup : Cup)
    (hs : s ≠ .entropy) :
    (Event.drawn (cup.chooseStream t).1 sides (cup.draw sides t).1).Acts s (cup.generator? s)
      ((cup.draw sides t).2.generator? s) := by
  obtain ⟨entropy, hchosen⟩ := chooseStream_eq cup t
  have hstart : (cup.chooseStream t).2.generator? s = cup.generator? s := by
    rw [hchosen, generator?_entropy]
  rw [← hstart]
  unfold draw
  dsimp only
  -- The choice of a stream may use the entropy, but no generator.
  by_cases h : (cup.chooseStream t).1 = s
  · obtain ⟨g, hfrom, hvalue, hnext⟩ := drawFrom_self sides (cup.chooseStream t).2 hs
    rw [h, hnext, hvalue]
    exact .drawn hsides hfrom rfl
  · rw [generator?_drawFrom_of_ne sides _ h]
    exact .apart h

theorem story_countRoll (cup : Cup) :
    Story s ((if cup.reseedsNext then seededStreams cup.technique else []).map .started)
      (cup.generator? s) (cup.countRoll.generator? s) := by
  unfold countRoll reseedsNext
  dsimp only
  rw [← generator?_rolled cup (cup.rolled + 1)]
  split
  · exact story_reseed {} _
  · exact .nil

/-- The events of a step lead from the generators before it to those after it. -/
theorem Step.story (step : Step) (hs : s ≠ .entropy) :
    Story s step.events (step.before.generator? s) (step.after.generator? s) := by
  rcases step with ⟨cup, request⟩
  cases request with
  | roll sides technique =>
    by_cases hsides : sides = 0
    · subst hsides
      simp only [events, reply, after, answer, runOn_roll_zero]
      exact .nil
    · -- The value is drawn first; whether a reseed follows was settled before that.
      have hpolicy := policy_draw sides (technique.getD cup.technique) cup
      have hcount := story_countRoll (s := s) (cup.draw sides (technique.getD cup.technique)).2
      simp only [events, reply, after, answer, runOn_roll hsides]
      simp only [reseedsNext, isDue, hpolicy] at hcount ⊢
      exact .cons (acts_draw hsides _ cup hs) hcount
  | reseed options => exact story_reseed options cup
  | technique | interval | settings =>
    simp only [events, after, answer]
    cases s <;> exact .nil

/-- The events of requests tell what becomes of each generator. -/
theorem story_history (cup : Cup) (requests : List Request) (hs : s ≠ .entropy) :
    Story s (cup.events requests) (cup.generator? s) ((cup.after requests).generator? s) := by
  induction requests generalizing cup with
  | nil => exact .nil
  | cons request requests ih => exact (Step.story ⟨cup, request⟩ hs).append (ih _)

/-! ## 4. Rolls from one stream -/

theorem chooseStream_of_streamOf? {t : Technique} (h : streamOf? t = some s) (cup : Cup) :
    cup.chooseStream t = (s, cup) := by
  cases t <;> cases h <;> rfl

theorem countRoll_of_no_interval {cup : Cup} (h : cup.interval = none) :
    cup.countRoll = { cup with rolled := cup.rolled + 1 } := by
  unfold countRoll isDue
  dsimp only
  rw [h]
  rfl

/-- Without an interval, a roll by a technique that names a stream is a draw from its generator. -/
theorem answer_roll {cup : Cup} {sides : UInt32} {t : Technique} {g : Generator}
    (hinterval : cup.interval = none) (hsides : sides ≠ 0) (ht : streamOf? t = some s)
    (hg : cup.generator? s = some g) :
    (cup.answer (.roll sides (some t))).1 = .rolled (.ok (drawFace sides g).1) ∧
      (cup.answer (.roll sides (some t))).2.generator? s = some (drawFace sides g).2 ∧
      (cup.answer (.roll sides (some t))).2.interval = none := by
  have hs : s ≠ .entropy := by
    rintro rfl
    cases hg
  have hdraw : cup.draw sides t = cup.drawFrom sides s := by
    unfold draw
    rw [chooseStream_of_streamOf? ht]
  obtain ⟨own, hfrom, hvalue, hnext⟩ := drawFrom_self sides cup hs
  -- The generator is there, so no new one is drawn from.
  have hown : own = g := by
    rcases hfrom with h | ⟨h, _⟩
    · exact Option.some.inj (h.symm.trans hg)
    · rw [hg] at h
      cases h
  subst hown
  have hpolicy := (policy_draw sides t cup).2.1.trans hinterval
  simp only [answer, runOn_roll hsides, Option.getD_some, countRoll_of_no_interval hpolicy]
  rw [hdraw] at hpolicy ⊢
  exact ⟨by rw [hvalue], by rw [generator?_rolled, hnext], hpolicy⟩

end Cup

end DiceCup
