import Arboretum.Proofs.Animation.MoteLine

/-!
Motes and the frames that time comes in. Over exact numbers, moving on twice is moving on once by
both times together, and a mote that has no life left halfway would have none at the end either. So
it does not matter into how many frames a host splits a time: the motes that are left, where they
are and how much life they have is told by the whole of it.
-/

namespace Arboretum

set_option autoImplicit false

theorem advanced_advanced (first second lifeDecay : ℝ) (particle : Particle ℝ) :
    (particle.advanced first lifeDecay).advanced second lifeDecay =
      particle.advanced (first + second) lifeDecay := by
  simp only [Particle.advanced, mul_add, add_assoc, sub_sub]

theorem advanced_zero (lifeDecay : ℝ) (particle : Particle ℝ) :
    particle.advanced 0 lifeDecay = particle := by
  simp [Particle.advanced]

/-- The motes that have life left after all of them have moved on by a number of nominal frames. -/
noncomputable def movedOn (steps lifeDecay : ℝ) (motes : List (Particle ℝ)) : List (Particle ℝ) :=
  (motes.map (Particle.advanced steps lifeDecay)).filter Particle.hasLife

theorem moved_on_twice {second lifeDecay : ℝ} (loses : 0 ≤ lifeDecay * second) (first : ℝ)
    (motes : List (Particle ℝ)) :
    movedOn second lifeDecay (movedOn first lifeDecay motes) =
      movedOn (first + second) lifeDecay motes := by
  have together : Particle.advanced second lifeDecay ∘ Particle.advanced first lifeDecay =
      Particle.advanced (first + second) lifeDecay := by
    funext mote
    exact advanced_advanced first second lifeDecay mote
  -- Those taken away halfway lose more life in the second part, so they would
  -- be taken away with it.
  simp only [movedOn]
  rw [filter_advanced loses, List.map_map, together]

theorem moved_on_by_nothing (lifeDecay : ℝ) {motes : List (Particle ℝ)}
    (alive : ∀ mote ∈ motes, 0 < mote.life) : movedOn 0 lifeDecay motes = motes := by
  have still : Particle.advanced 0 lifeDecay = id := by
    funext mote
    exact advanced_zero lifeDecay mote
  rw [movedOn, still, List.map_id]
  apply List.filter_eq_self.mpr
  intro mote member
  exact (has_life_iff mote).mpr (alive mote member)

namespace ParticleSystem

/-- The system after so many nominal frames, in which its motes have moved a number of times. -/
noncomputable def after (steps : ℝ) (count : Nat) (system : ParticleSystem ℝ) : ParticleSystem ℝ :=
  { system with
    particles := movedOn steps system.settings.lifeDecay system.particles
    moves := system.moves + count }

theorem after_twice {second : ℝ} {system : ParticleSystem ℝ}
    (loses : 0 ≤ system.settings.lifeDecay * second) (first : ℝ) (early late : Nat) :
    (system.after first early).after second late =
      system.after (first + second) (early + late) := by
  simp only [after]
  rw [moved_on_twice loses, Nat.add_assoc]

/-- Two systems are the same but for how often their motes have moved. -/
def SameMotes (one other : ParticleSystem ℝ) : Prop := other = { one with moves := other.moves }

theorem after_same_motes (steps : ℝ) (early late : Nat) (system : ParticleSystem ℝ) :
    (system.after steps early).SameMotes (system.after steps late) := rfl

/-- Ticks in turn, one for each time. -/
noncomputable def ticks (times : List ℝ) (system : ParticleSystem ℝ) :
    Except Fault (ParticleSystem ℝ) :=
  times.foldlM (fun system dtMs => system.tick dtMs) system

section Exact

variable {system : ParticleSystem ℝ} (passes : 0 < system.settings.frameIntervalMs)

include passes

theorem tick_eq_after (dtMs : ℝ) :
    system.tick dtMs = .ok (system.after (max 0 dtMs / system.settings.frameIntervalMs) 1) := by
  apply (tick_eq_ok dtMs system _).mpr
  refine ⟨max 0 dtMs / system.settings.frameIntervalMs, ?_, rfl⟩
  rw [Exact.larger_eq, Exact.zero_eq]
  exact Exact.quotient_eq (ne_of_gt passes)

theorem tick_forward {dtMs : ℝ} (forward : 0 ≤ dtMs) :
    system.tick dtMs = .ok (system.after (dtMs / system.settings.frameIntervalMs) 1) := by
  rw [tick_eq_after passes, max_eq_right forward]

theorem tick_of_after (fades : 0 ≤ system.settings.lifeDecay) {dtMs : ℝ} (forward : 0 ≤ dtMs)
    (early : ℝ) (count : Nat) :
    (system.after (early / system.settings.frameIntervalMs) count).tick dtMs =
      .ok (system.after ((early + dtMs) / system.settings.frameIntervalMs) (count + 1)) := by
  let halfway := system.after (early / system.settings.frameIntervalMs) count
  have passesHalfway : 0 < halfway.settings.frameIntervalMs := passes
  have loses : 0 ≤ system.settings.lifeDecay * (dtMs / system.settings.frameIntervalMs) :=
    mul_nonneg fades (div_nonneg forward (le_of_lt passes))
  change halfway.tick dtMs = _
  rw [tick_forward passesHalfway forward, add_div]
  exact congrArg Except.ok (after_twice loses _ count 1)

/-- Ticks that follow others add up to one step of all their times, those of the others included. -/
theorem ticks_after (fades : 0 ≤ system.settings.lifeDecay) {times : List ℝ}
    (forward : ∀ dtMs ∈ times, 0 ≤ dtMs) (early : ℝ) (count : Nat) :
    (system.after (early / system.settings.frameIntervalMs) count).ticks times =
      .ok (system.after ((early + times.sum) / system.settings.frameIntervalMs)
        (count + times.length)) := by
  induction times generalizing early count with
  | nil =>
      rw [List.sum_nil, add_zero]
      rfl
  | cons dtMs times induction =>
      obtain ⟨here, later⟩ := List.forall_mem_cons.mp forward
      have rest := induction later (early + dtMs) (count + 1)
      rw [add_assoc, Nat.add_assoc, Nat.add_comm 1] at rest
      rw [ticks, List.foldlM_cons, tick_of_after passes fades here, List.sum_cons, List.length_cons]
      exact rest

/-- One tick of all the time does what ticks do that share it. -/
theorem ticks_eq_tick_of_sum (fades : 0 ≤ system.settings.lifeDecay) {times : List ℝ}
    (nonempty : times ≠ []) (forward : ∀ dtMs ∈ times, 0 ≤ dtMs) :
    ∃ later whole, system.ticks times = .ok later ∧ system.tick times.sum = .ok whole ∧
      later.SameMotes whole := by
  cases times with
  | nil => exact absurd rfl nonempty
  | cons first times =>
      obtain ⟨here, later⟩ := List.forall_mem_cons.mp forward
      have shared := ticks_after passes fades later first 1
      rw [← List.sum_cons] at shared
      have started : system.ticks (first :: times) =
          (system.after (first / system.settings.frameIntervalMs) 1).ticks times := by
        rw [ticks, List.foldlM_cons, tick_forward passes here]
        rfl
      exact ⟨_, _, started.trans shared, tick_forward passes (List.sum_nonneg forward),
        after_same_motes _ _ _ system⟩

end Exact

end ParticleSystem

/-- Over exact numbers, for any motes and for settings by which they never gain life and time passes
from frame to frame: two ticks leave exactly the motes that one tick of both times leaves, in their
order, and so does any number of ticks that share a time; a tick of no time, or of a negative one,
changes no motes that all have life. Only the count of moves tells one from the other. -/
theorem motes_drift_alike_however_time_is_shared (system : ParticleSystem ℝ)
    (fades : 0 ≤ system.settings.lifeDecay) (passes : 0 < system.settings.frameIntervalMs) :
    (∀ first second : ℝ, 0 ≤ first → 0 ≤ second → ∃ halfway later whole,
      system.tick first = .ok halfway ∧ halfway.tick second = .ok later ∧
        system.tick (first + second) = .ok whole ∧
        later.particles = whole.particles ∧ later.SameMotes whole) ∧
      (∀ times : List ℝ, times ≠ [] → (∀ dtMs ∈ times, 0 ≤ dtMs) → ∃ later whole,
        system.ticks times = .ok later ∧ system.tick times.sum = .ok whole ∧
          later.SameMotes whole) ∧
      ∀ dtMs : ℝ, dtMs ≤ 0 → (∀ mote ∈ system.particles, 0 < mote.life) → ∃ later,
        system.tick dtMs = .ok later ∧ system.SameMotes later := by
  refine ⟨?_, fun times nonempty forward =>
    ParticleSystem.ticks_eq_tick_of_sum passes fades nonempty forward, ?_⟩
  · intro first second forward forwardToo
    exact ⟨_, _, _, ParticleSystem.tick_forward passes forward,
      ParticleSystem.tick_of_after passes fades forwardToo first 1,
      ParticleSystem.tick_forward passes (add_nonneg forward forwardToo), rfl,
      ParticleSystem.after_same_motes _ 2 1 system⟩
  · intro dtMs backward alive
    refine ⟨_, ParticleSystem.tick_eq_after passes dtMs, ?_⟩
    rw [max_eq_left backward, zero_div, ParticleSystem.SameMotes, ParticleSystem.after,
      moved_on_by_nothing _ alive]

/-! Two motes, of which one is taken away halfway. -/

noncomputable def moteOfLife (life : ℝ) : Particle ℝ := ⟨⟨0, 600⟩, ⟨0.125, -1⟩, 2, "", life, 0, 0.5⟩

noncomputable def fadingMotes : ParticleSystem ℝ :=
  ⟨⟨600, 600⟩, { ParticleSettings.usual with lifeDecay := 0.25 }, 0,
    [moteOfLife 0.25, moteOfLife 1], 2, 0⟩

theorem fading_motes_pass : 0 < fadingMotes.settings.frameIntervalMs := by
  change (0 : ℝ) < 16.0
  norm_num

/-- A frame takes the older mote away, and four frames leave the younger one some life. -/
theorem one_fading_mote_left {dtMs : ℝ} {motes : ParticleSystem ℝ} (long : 16 ≤ dtMs)
    (short : dtMs < 64) (ticked : fadingMotes.tick dtMs = .ok motes) :
    motes.particles.length = 1 := by
  rw [ParticleSystem.tick_forward fading_motes_pass (by linarith)] at ticked
  cases ticked
  have old : ¬ ((moteOfLife 0.25).advanced (dtMs / 16.0) 0.25).hasLife = true := by
    rw [has_life_iff, life_advanced]
    norm_num [moteOfLife]
    linarith
  have young : ((moteOfLife 1).advanced (dtMs / 16.0) 0.25).hasLife = true := by
    rw [has_life_iff, life_advanced]
    norm_num [moteOfLife]
    linarith
  change (List.filter Particle.hasLife [(moteOfLife 0.25).advanced (dtMs / 16.0) 0.25,
    (moteOfLife 1).advanced (dtMs / 16.0) 0.25]).length = 1
  rw [List.filter_cons_of_neg old, List.filter_cons_of_pos young, List.filter_nil,
    List.length_singleton]

theorem fading_motes_drift_alike :
    0 ≤ fadingMotes.settings.lifeDecay ∧ 0 < fadingMotes.settings.frameIntervalMs ∧
      ∃ halfway later whole, fadingMotes.tick 16 = .ok halfway ∧ halfway.tick 32 = .ok later ∧
        fadingMotes.tick (16 + 32) = .ok whole ∧ later.particles = whole.particles ∧
        halfway.particles.length = 1 ∧ later.particles.length = 1 := by
  have fades : 0 ≤ fadingMotes.settings.lifeDecay := by
    change (0 : ℝ) ≤ 0.25
    norm_num
  obtain ⟨halfway, later, whole, first, second, both, same, _⟩ :=
    (motes_drift_alike_however_time_is_shared fadingMotes fades fading_motes_pass).1 16 32
      (by norm_num) (by norm_num)
  refine ⟨fades, fading_motes_pass, halfway, later, whole, first, second, both, same, ?_, ?_⟩
  · exact one_fading_mote_left (by norm_num) (by norm_num) first
  · rw [same]
    exact one_fading_mote_left (by norm_num) (by norm_num) both

end Arboretum
