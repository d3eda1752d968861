import Arboretum.Animation.Particles
import Arboretum.Proofs.Chance.Refusal

/-!
What the acts of a mote system do to its motes. A mote that rises joins the others at the end, with
all of its life before it; where they become too many, the first ones leave. A step of time moves
all motes alike and takes those away that have no life left. So the marks by which a mote is known,
its drift, its size, its color and its spin, are written down when it rises and never change.
-/

namespace Arboretum

open Fallible

set_option autoImplicit false

variable {σ α : Type}

/-- By what a mote is known for as long as it lives. -/
structure MoteMarks (α : Type) where
  velocity : Point α
  size : α
  colorKey : String
  rotationSpeed : α

def Particle.marks (particle : Particle α) : MoteMarks α :=
  ⟨particle.velocity, particle.size, particle.colorKey, particle.rotationSpeed⟩

namespace ParticleSystem

def marks (system : ParticleSystem α) : List (MoteMarks α) := system.particles.map Particle.marks

/-- Motes have moved and perhaps left, and none has come. -/
structure FadesTo (before after : ParticleSystem α) : Prop where
  marks : after.marks.Sublist before.marks
  risen : after.risen = before.risen

/-- One mote has come behind those there, and no other one. -/
structure GainsOne (before after : ParticleSystem α) : Prop where
  marks : ∃ mote : Particle α, after.marks.Sublist (before.marks ++ [mote.marks])
  risen : after.risen = before.risen + 1

theorem fades_refl (system : ParticleSystem α) : system.FadesTo system :=
  ⟨List.Sublist.refl _, rfl⟩

theorem fades_trans {first second third : ParticleSystem α} (before : first.FadesTo second)
    (after : second.FadesTo third) : first.FadesTo third :=
  ⟨after.marks.trans before.marks, after.risen.trans before.risen⟩

theorem gains_one_then_fades {first second third : ParticleSystem α} (gains : first.GainsOne second)
    (fades : second.FadesTo third) : first.GainsOne third := by
  obtain ⟨mote, marks⟩ := gains.marks
  exact ⟨⟨mote, fades.marks.trans marks⟩, fades.risen.trans gains.risen⟩

theorem fades_then_gains_one {first second third : ParticleSystem α} (fades : first.FadesTo second)
    (gains : second.GainsOne third) : first.GainsOne third := by
  obtain ⟨mote, marks⟩ := gains.marks
  exact ⟨⟨mote, marks.trans (fades.marks.append (List.Sublist.refl _))⟩,
    gains.risen.trans (congrArg Nat.succ fades.risen)⟩

theorem empty_of_fades {before after : ParticleSystem α} (fades : before.FadesTo after)
    (empty : before.particles = []) : after.particles = [] := by
  have marks := fades.marks
  rw [ParticleSystem.marks, ParticleSystem.marks, empty, List.map_nil] at marks
  exact List.map_eq_nil_iff.mp (List.sublist_nil.mp marks)

theorem add_gains_one (particle : Particle α) (system : ParticleSystem α) :
    system.GainsOne (system.add particle) := by
  refine ⟨⟨particle, ?_⟩, rfl⟩
  have kept := (List.drop_sublist
    ((system.particles ++ [particle]).length - system.settings.limit : Int).toNat
    (system.particles ++ [particle])).map Particle.marks
  rw [List.map_append, List.map_singleton] at kept
  exact kept

variable [Scalar α]

/-- A step of time moves every mote alike and keeps those with life left; it fails where no time
passes from one nominal frame to the next. -/
theorem tick_eq_ok (dtMs : α) (system later : ParticleSystem α) :
    system.tick dtMs = .ok later ↔
      ∃ steps,
        Scalar.quotient (Scalar.larger 0.0 dtMs) system.settings.frameIntervalMs = .ok steps ∧
          later = { system with
            particles := (system.particles.map
              (Particle.advanced steps system.settings.lifeDecay)).filter
                fun particle => decide (0.0 < particle.life)
            moves := system.moves + 1 } := by
  rw [tick, bind_eq_ok]
  constructor
  · rintro ⟨steps, passed, moved⟩
    exact ⟨steps, passed, (Except.ok.inj moved).symm⟩
  · rintro ⟨steps, passed, rfl⟩
    exact ⟨steps, passed, rfl⟩

theorem tick_fades {dtMs : α} {system later : ParticleSystem α}
    (ticked : system.tick dtMs = .ok later) : system.FadesTo later := by
  obtain ⟨steps, _, rfl⟩ := (tick_eq_ok dtMs system later).mp ticked
  refine ⟨?_, rfl⟩
  have kept := (List.filter_sublist (p := fun particle => decide (0.0 < particle.life))
    (l := system.particles.map (Particle.advanced steps system.settings.lifeDecay))).map
      Particle.marks
  rw [List.map_map] at kept
  exact kept

variable [ChanceSource σ α]

theorem run_spawn (system : ParticleSystem α) (source : σ) :
    system.spawn.run source =
      match system.mote.run source with
      | (.ok particle, later) => (.ok (particle, system.add particle), later)
      | (.error fault, later) => (.error fault, later) := by
  rw [spawn, run_bind]
  rcases system.mote.run source with ⟨fault | particle, later⟩
  · rfl
  · rfl

/-- A mote rises when the first draw says so; the others tell what it is like. -/
theorem run_maybe_spawn (system : ParticleSystem α) (source : σ) :
    system.maybeSpawn.run source =
      if (ChanceSource.draw source).1 < system.settings.spawnProbability then
        match system.mote.run (ChanceSource.draw source).2 with
        | (.ok particle, later) => (.ok (some particle, system.add particle), later)
        | (.error fault, later) => (.error fault, later)
      else (.ok (none, system), (ChanceSource.draw source).2) := by
  have drawn : (Drawing.unit (α := α)).run source =
      (.ok (ChanceSource.draw source).1, (ChanceSource.draw source).2) := rfl
  rw [maybeSpawn, run_bind, drawn]
  dsimp only
  by_cases rises : (ChanceSource.draw source).1 < system.settings.spawnProbability
  · rw [if_pos rises, if_pos rises, run_bind, run_spawn]
    rcases system.mote.run (ChanceSource.draw source).2 with ⟨fault | particle, later⟩
    · rfl
    · rfl
  · rw [if_neg rises, if_neg rises, run_pure]

theorem maybe_spawn_outcome {system : ParticleSystem α} {source : σ}
    {result : Option (Particle α) × ParticleSystem α} {later : σ}
    (ran : system.maybeSpawn.run source = (.ok result, later)) :
    result = (none, system) ∨ ∃ particle,
      result = (some particle, system.add particle) ∧
        system.mote.run (ChanceSource.draw source).2 = (.ok particle, later) := by
  rw [run_maybe_spawn] at ran
  split at ran
  · rcases drew : system.mote.run (ChanceSource.draw source).2 with ⟨fault | particle, spent⟩
    · rw [drew] at ran
      cases ran
    · rw [drew] at ran
      cases ran
      exact .inr ⟨particle, rfl, rfl⟩
  · cases ran
    exact .inl rfl

/-- A mote rises unless its color is refused. -/
theorem mote_endures (system : ParticleSystem α) :
    Endures (fun _ : σ => True) (Refuses σ) system.mote := by
  refine endures_bind (Drawing.between_endures _ _) fun _ => ?_
  refine endures_bind (Drawing.between_endures _ _) fun _ => ?_
  refine endures_bind (Drawing.between_endures _ _) fun _ => ?_
  refine endures_bind (Drawing.between_endures _ _) fun _ => ?_
  refine endures_bind (Drawing.leaf_color_endures _) fun _ => ?_
  refine endures_bind (Drawing.between_endures _ _) fun _ => ?_
  exact endures_bind (Drawing.between_endures _ _) fun _ => endures_pure _

theorem maybe_spawn_endures (system : ParticleSystem α) :
    Endures (fun _ : σ => True) (Refuses σ) system.maybeSpawn := by
  refine endures_bind Drawing.unit_endures fun share => ?_
  by_cases rises : share < system.settings.spawnProbability
  · simp only [rises, if_true]
    refine endures_bind ?_ fun _ => endures_pure _
    exact endures_bind (mote_endures system) fun _ => endures_pure _
  · simp only [rises, if_false]
    exact endures_pure _

theorem mote_life {system : ParticleSystem α} {source later : σ} {particle : Particle α}
    (ran : system.mote.run source = (.ok particle, later)) : particle.life = 1.0 := by
  simp only [mote, run_bind_eq_ok] at ran
  obtain ⟨across, _, _, drift, _, _, rise, _, _, size, _, _, color, _, _, turn, _, _, spin, _, _,
    returned⟩ := ran
  cases returned
  rfl

end ParticleSystem

end Arboretum
