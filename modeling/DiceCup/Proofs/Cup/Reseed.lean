import DiceCup.Proofs.Cup.Streams
import Mathlib.Data.List.Basic

/-!
# Reseeds — what is reported, what is left alone, and how to go back

A reseed restarts the streams of its technique one after the other, and each restart acts on its own
stream only.  So every generator afterwards is known: those of the technique are at a start, the
other one is as it was.  What the report displaces is just what a second reseed has to be given to
bring the seeds back.
-/

namespace DiceCup

open DiceCup.Random

def DisplacedSeeds.undo (seeds : DisplacedSeeds) (technique : Option Technique) : ReseedOptions :=
  { technique, globalSeed := seeds.globalSeed, instanceSeed := seeds.instanceSeed }

namespace Cup

/-- The cup after a reseed and a second one from the seeds that the first reports. -/
def undone (cup : Cup) (options : ReseedOptions) (technique : Option Technique) : Cup :=
  ((cup.reseed options).2.reseed (((cup.reseed options).1.getD {}).undo technique)).2

/-- What a reseed for a technique reports and leaves behind. -/
structure ReseedEffect (options : ReseedOptions) (t : Technique) (before : Cup)
    (report : Option DisplacedSeeds) (after : Cup) : Prop where
  rolled_eq : after.rolled = 0
  technique_eq : after.technique = before.technique
  interval_eq : after.interval = before.interval
  report_eq : report = if t = .secure then none else some
    { globalSeed :=
        if t = .seededGlobal ∨ t = .randomEachCall then some before.globalSeed else none
      instanceSeed :=
        if t = .seededInstance ∨ t = .randomEachCall then before.instanceSeed else none }
  started : ∀ s ∈ seededStreams t, ∃ seed, after.generator? s = some (.ofSeed seed) ∧
    ∀ given ∈ options.seedOf s, given = seed
  kept : ∀ s ∉ seededStreams t, after.generator? s = before.generator? s

variable {s : Stream} {cup : Cup} {options other : ReseedOptions}

/-! ## 1. The generators of a reseed -/

/-- The restart that counts for a stream is the last one of it; those behind leave it alone. -/
theorem generator?_restarts {streams : List Stream} (hentropy : .entropy ∉ streams)
    (hs : s ∈ streams) :
    ∃ seed, (streams.foldl (restart options) cup).generator? s = some (.ofSeed seed) ∧
      ∀ given ∈ options.seedOf s, given = seed := by
  induction streams generalizing cup with
  | nil => cases hs
  | cons stream streams ih =>
    have hrest : .entropy ∉ streams := fun hmem => hentropy (List.mem_cons_of_mem stream hmem)
    rw [List.foldl_cons]
    -- A stream that comes again behind is restarted there.
    by_cases hlater : s ∈ streams
    · exact ih hrest hlater
    · have hself : s = stream := (List.mem_cons.mp hs).resolve_right hlater
      subst hself
      have hne : s ≠ .entropy := fun heq => hentropy (heq ▸ List.mem_cons_self)
      obtain ⟨seed, hstart, hgiven⟩ := generator?_restart_self options cup hne
      have hstory := story_restarts (s := s) options (cup.restart options s) hrest
      have hlast := hstory.eq_of_apart fun event hevent heq => by
        obtain ⟨later, hmem, rfl⟩ := List.mem_map.mp hevent
        exact hlater (heq ▸ hmem)
      refine ⟨seed, hlast.trans hstart, fun given hmem => ?_⟩
      have hsome : options.seedOf s = some given := hmem
      exact Option.some.inj (hsome.symm.trans (hgiven (by rw [hsome]; exact Option.some_ne_none _)))

theorem generator?_reseed_of_mem (hs : s ∈ seededStreams (options.technique.getD cup.technique)) :
    ∃ seed, (cup.reseed options).2.generator? s = some (.ofSeed seed) ∧
      ∀ given ∈ options.seedOf s, given = seed := by
  rw [reseed_eq]
  exact generator?_restarts (entropy_notMem_seededStreams _) hs

theorem generator?_reseed_of_notMem
    (hs : s ∉ seededStreams (options.technique.getD cup.technique)) :
    (cup.reseed options).2.generator? s = cup.generator? s := by
  apply (story_reseed options cup).eq_of_apart
  intro event hevent heq
  obtain ⟨stream, hmem, rfl⟩ := List.mem_map.mp hevent
  exact hs (heq ▸ hmem)

theorem displacedBy_eq (cup : Cup) (t : Technique) :
    cup.displacedBy t = if t = .secure then none else some
      { globalSeed := if t = .seededGlobal ∨ t = .randomEachCall then some cup.globalSeed else none
        instanceSeed :=
          if t = .seededInstance ∨ t = .randomEachCall then cup.instanceSeed else none } := by
  cases t <;> rfl

/-- Every reseed has the effect that its technique and its seeds say. -/
theorem reseed_effect (options : ReseedOptions) (cup : Cup) :
    ReseedEffect options (options.technique.getD cup.technique) cup (cup.reseed options).1
      (cup.reseed options).2 := by
  obtain ⟨htechnique, hinterval, hrolled⟩ := policy_reseed options cup
  refine ⟨hrolled, htechnique, hinterval, ?_, fun _ => generator?_reseed_of_mem,
    fun _ => generator?_reseed_of_notMem⟩
  rw [← displacedBy_eq, reseed_eq]

/-! ## 2. Seeds that are not asked for -/

theorem restart_congr (cup : Cup) (h : other.seedOf s = options.seedOf s) :
    cup.restart other s = cup.restart options s := by
  cases s with
  | entropy => rfl
  | global => exact congrArg (fun seed => (cup.reseedGlobal seed).2) h
  | ownInstance => exact congrArg (fun seed => (cup.reseedInstance seed).2) h

/-- Seeds for generators that a reseed leaves alone make no difference to it. -/
theorem reseed_congr
    (htechnique : other.technique.getD cup.technique = options.technique.getD cup.technique)
    (hseeds : ∀ s ∈ seededStreams (options.technique.getD cup.technique),
      other.seedOf s = options.seedOf s) : cup.reseed other = cup.reseed options := by
  rw [reseed_eq, reseed_eq, htechnique]
  congr 1
  exact List.foldl_ext _ _ _ fun cup s hs => restart_congr cup (hseeds s hs)

/-! ## 3. The way back -/

/-- The report has the seed of each generator that the reseed starts anew, if there was one. -/
theorem seedOf_undo (technique : Option Technique)
    (hs : s ∈ seededStreams (options.technique.getD cup.technique)) :
    (((cup.reseed options).1.getD {}).undo technique).seedOf s = cup.seed? s := by
  have hsecure : options.technique.getD cup.technique ≠ .secure := by
    intro heq
    rw [heq] at hs
    cases hs
  rw [reseed_eq, displacedBy, if_neg hsecure]
  cases s with
  | entropy => exact absurd hs (entropy_notMem_seededStreams _)
  | global | ownInstance => exact if_pos hs

theorem technique_back {technique : Option Technique}
    (htechnique : technique.getD cup.technique = options.technique.getD cup.technique) :
    technique.getD (cup.reseed options).2.technique = options.technique.getD cup.technique := by
  rw [(reseed_effect options cup).technique_eq, htechnique]

/-- A generator that there was is started from its seed again by the way back. -/
theorem generator?_undone {technique : Option Technique}
    (htechnique : technique.getD cup.technique = options.technique.getD cup.technique)
    (hs : s ∈ seededStreams (options.technique.getD cup.technique))
    (hsome : cup.generator? s ≠ none) :
    (cup.undone options technique).generator? s = (cup.seed? s).map Generator.ofSeed := by
  have hback : s ∈ seededStreams (technique.getD (cup.reseed options).2.technique) := by
    rw [technique_back htechnique]
    exact hs
  have heffect := reseed_effect (((cup.reseed options).1.getD {}).undo technique)
    (cup.reseed options).2
  obtain ⟨seed, hstart, hgiven⟩ := heffect.started s hback
  obtain ⟨g, hg⟩ := Option.ne_none_iff_exists'.mp hsome
  have hseed : cup.seed? s = some g.seed := by rw [seed?, hg, Option.map_some]
  have hsame : g.seed = seed := by
    apply hgiven
    rw [seedOf_undo technique hs]
    exact hseed
  rw [undone, hstart, hseed, hsame, Option.map_some]

theorem generator?_undone_of_notMem {technique : Option Technique}
    (htechnique : technique.getD cup.technique = options.technique.getD cup.technique)
    (hs : s ∉ seededStreams (options.technique.getD cup.technique)) :
    (cup.undone options technique).generator? s = cup.generator? s := by
  have hback : s ∉ seededStreams (technique.getD (cup.reseed options).2.technique) := by
    rw [technique_back htechnique]
    exact hs
  exact (generator?_reseed_of_notMem hback).trans (generator?_reseed_of_notMem hs)

/-- A reseed from the displaced seeds brings back all seeds, if each generator had one. -/
theorem seed?_undone {technique : Option Technique}
    (htechnique : technique.getD cup.technique = options.technique.getD cup.technique)
    (hsome : ∀ s ∈ seededStreams (options.technique.getD cup.technique), cup.generator? s ≠ none)
    (s : Stream) : (cup.undone options technique).seed? s = cup.seed? s := by
  rw [seed?]
  by_cases hs : s ∈ seededStreams (options.technique.getD cup.technique)
  · rw [generator?_undone htechnique hs (hsome s hs), Option.map_map]
    exact Option.map_id'
  · rw [generator?_undone_of_notMem htechnique hs, seed?]

/-- **A reseed reports what undoes it.**  It sets the count back, starts the generators of its
technique anew, from the seeds that are given for them, and leaves the other generator, the
technique and the interval of the cup as they are; seeds given for other generators make no
difference.  What it reports are the seeds of these generators until then, nothing for the secure
technique.  If there was a generator for each of them, a reseed of the same technique from the
reported seeds brings both seeds of the cup back, with the generators that were touched at their
start. -/
theorem reseed_undo (cup : Cup) (options : ReseedOptions) :
    let t := options.technique.getD cup.technique
    let report := (cup.reseed options).1
    let after := (cup.reseed options).2
    ReseedEffect options t cup report after ∧
    (∀ other : ReseedOptions, other.technique.getD cup.technique = t →
      (∀ s ∈ seededStreams t, other.seedOf s = options.seedOf s) →
      cup.reseed other = cup.reseed options) ∧
    ∀ technique : Option Technique, technique.getD cup.technique = t →
      (∀ s ∈ seededStreams t, cup.generator? s ≠ none) →
      let undone := cup.undone options technique
      undone.globalSeed = cup.globalSeed ∧ undone.instanceSeed = cup.instanceSeed ∧
      (∀ s ∈ seededStreams t, undone.generator? s = (cup.seed? s).map Generator.ofSeed) ∧
      ∀ s ∉ seededStreams t, undone.generator? s = cup.generator? s := by
  intro t report after
  refine ⟨reseed_effect options cup, fun other => reseed_congr, ?_⟩
  intro technique htechnique hsome undone
  have hglobal : undone.seed? .global = cup.seed? .global := seed?_undone htechnique hsome .global
  have hown : undone.seed? .ownInstance = cup.seed? .ownInstance :=
    seed?_undone htechnique hsome .ownInstance
  exact ⟨Option.some.inj hglobal, hown, fun s hs => generator?_undone htechnique hs (hsome s hs),
    fun s hs => generator?_undone_of_notMem htechnique hs⟩

def worn : Cup where
  technique := .randomEachCall
  interval := some ⟨5, by decide⟩
  rolled := 4
  globalGenerator := ⟨42, 9⟩
  instanceGenerator := some ⟨7, 3⟩
  entropy := .ofWords fun n => n.toUInt32

theorem reseed_undo_worn :
    let own : ReseedOptions := { instanceSeed := some 1 }
    let global : ReseedOptions :=
      { technique := some .seededGlobal, globalSeed := some 1, instanceSeed := some 2 }
    let undone := ((worn.reseed own).2.reseed ⟨none, some 42, some 7⟩).2
    (∀ s ∈ seededStreams .randomEachCall, worn.generator? s ≠ none) ∧
    (worn.reseed own).1 = some ⟨some 42, some 7⟩ ∧
    (undone.globalSeed = 42 ∧ undone.instanceSeed = some 7 ∧
      undone.generator? .ownInstance = some (.ofSeed 7)) ∧
    worn.reseed { global with instanceSeed := none } = worn.reseed global ∧
    (worn.reseed global).2.generator? .ownInstance = some ⟨7, 3⟩ := by
  intro own global undone
  have hsome : ∀ s ∈ seededStreams .randomEachCall, worn.generator? s ≠ none := by decide
  have hown := reseed_undo worn own
  have hglobal := reseed_undo worn global
  have hreport := hown.1.report_eq
  have hundone := hown.2.2 none rfl hsome
  rw [Cup.undone, hreport] at hundone
  refine ⟨hsome, hreport, ⟨hundone.1, hundone.2.1, ?_⟩, ?_, ?_⟩
  · exact hundone.2.2.1 .ownInstance (by decide)
  · exact hglobal.2.1 { global with instanceSeed := none } rfl (by decide)
  · exact hglobal.1.kept .ownInstance (by decide)

end Cup

end DiceCup
