import Arboretum.Proofs.Number.Exact
import Arboretum.Proofs.Animation.Motes
import Mathlib.Data.List.DropRight

/-!
The order in which motes leave. Over exact numbers all motes lose life at one pace and start
with the same, so an older one never has more left than a younger one. That is why taking
away the motes without life only takes away the oldest, as the limit does. Written beside
each other, the motes of a system are the last ones of all that have risen: of those still
alive, as many as the limit allows.
-/

namespace Arboretum

open Fallible

set_option autoImplicit false

variable {σ α : Type}

/-! Taking the last entries of a list. -/

theorem rtake_rtake {β : Type} (count : Nat) (entries : List β) :
    (entries.rtake (count + 1)).rtake count = entries.rtake count := by
  rw [List.rtake_eq_reverse_take_reverse, List.rtake_eq_reverse_take_reverse, List.reverse_reverse,
    List.take_take, Nat.min_eq_left (Nat.le_succ count), ← List.rtake_eq_reverse_take_reverse]

/-- An entry that comes to the last ones of a list joins its last ones. -/
theorem rtake_concat_rtake {β : Type} (count : Nat) (entries : List β) (last : β) :
    (entries.rtake count ++ [last]).rtake count = (entries ++ [last]).rtake count := by
  cases count with
  | zero => rw [List.rtake_zero, List.rtake_zero]
  | succ count =>
      rw [List.rtake_concat_succ, List.rtake_concat_succ, rtake_rtake]

theorem rtake_suffix {β : Type} (count : Nat) (entries : List β) :
    entries.rtake count <:+ entries :=
  List.drop_suffix _ entries

theorem length_rtake_le {β : Type} (count : Nat) (entries : List β) :
    (entries.rtake count).length ≤ count := by
  rw [List.rtake, List.length_drop]
  omega

/-- Where what passes stays passed further on, the entries that pass are the last ones. -/
theorem filter_suffix_of_pairwise {β : Type} {passes : β → Bool} {entries : List β}
    (stays : entries.Pairwise fun earlier later => passes earlier = true → passes later = true) :
    entries.filter passes <:+ entries := by
  induction entries with
  | nil => exact List.suffix_rfl
  | cons entry entries induction =>
      obtain ⟨after, among⟩ := List.pairwise_cons.mp stays
      cases here : passes entry with
      | true =>
          have all : entries.filter passes = entries :=
            List.filter_eq_self.mpr fun other member => after other member here
          rw [List.filter_cons_of_pos here, all]
      | false =>
          rw [List.filter_cons_of_neg (by simp [here])]
          exact (induction among).trans (List.suffix_cons entry entries)

/-- There it does not matter whether the last ones or those that pass are taken first. -/
theorem filter_rtake_of_pairwise {β : Type} {passes : β → Bool} {entries : List β}
    (stays : entries.Pairwise fun earlier later => passes earlier = true → passes later = true)
    (count : Nat) :
    (entries.rtake count).filter passes = (entries.filter passes).rtake count := by
  induction entries with
  | nil => simp
  | cons entry entries induction =>
      obtain ⟨after, among⟩ := List.pairwise_cons.mp stays
      cases here : passes entry with
      | true =>
          have all : ∀ other ∈ entry :: entries, passes other = true :=
            List.forall_mem_cons.mpr ⟨here, fun other member => after other member here⟩
          rw [List.filter_eq_self.mpr all]
          exact List.filter_eq_self.mpr fun other member =>
            all other ((rtake_suffix count _).subset member)
      | false =>
          rw [List.filter_cons_of_neg (by simp [here]), ← induction among]
          by_cases within : (entry :: entries).length ≤ count
          · rw [List.rtake, List.rtake, Nat.sub_eq_zero_of_le within, List.drop_zero,
              Nat.sub_eq_zero_of_le (by rw [List.length_cons] at within; omega), List.drop_zero,
              List.filter_cons_of_neg (by simp [here])]
          · have beyond : (entry :: entries).length - count = (entries.length - count) + 1 := by
              rw [List.length_cons] at within ⊢
              omega
            rw [List.rtake, beyond, List.drop_succ_cons]
            rfl

/-- The motes that are left when one has come are the last ones, no more than the limit allows. -/
theorem ParticleSystem.add_particles (particle : Particle α) (system : ParticleSystem α) :
    (system.add particle).particles =
      (system.particles ++ [particle]).rtake system.settings.limit.toNat := by
  change (system.particles ++ [particle]).drop _ = (system.particles ++ [particle]).drop _
  by_cases allows : 0 ≤ system.settings.limit
  · congr 1
    omega
  · rw [List.drop_of_length_le (by omega), List.drop_of_length_le (by omega)]

/-! What is done to a mote system, and all that has risen in it. -/

/-- An act of a mote system. -/
inductive MoteAct (α : Type) where
  | spawn
  | maybeSpawn
  | tick (dtMs : α)
  | usePalette (paletteIndex : Int)
  | clear

/-- A mote system with its source of chance, and all motes that have risen since there were none, in
order; these move along but none of them is taken away. -/
structure MoteLine (σ α : Type) where
  system : ParticleSystem α
  random : σ
  risen : List (Particle α)

variable [Scalar α]

namespace MoteAct

/-- What an act does to motes, apart from taking some away. -/
def moves (settings : ParticleSettings α) : MoteAct α → List (Particle α) → List (Particle α)
  | .tick dtMs, motes =>
      motes.map (Particle.advanced (Scalar.larger 0.0 dtMs / settings.frameIntervalMs)
        settings.lifeDecay)
  | .clear, _ => []
  | _, motes => motes

variable [ChanceSource σ α]

/-- Carries out an act, and tells the mote that has risen with it. -/
def perform (system : ParticleSystem α) :
    MoteAct α → Drawing σ (Option (Particle α) × ParticleSystem α)
  | .spawn => do
      let (particle, system) ← system.spawn
      return (some particle, system)
  | .maybeSpawn => system.maybeSpawn
  | .tick dtMs => do return (none, ← system.tick dtMs)
  | .usePalette paletteIndex => return (none, system.usePalette paletteIndex)
  | .clear => return (none, system.clear)

end MoteAct

namespace MoteLine

def initial (surface : Surface α) (settings : ParticleSettings α) (paletteIndex : Int)
    (random : σ) :
    MoteLine σ α :=
  ⟨ParticleSystem.initial surface settings paletteIndex, random, []⟩

variable [ChanceSource σ α]

/-- An act that fails changes nothing but the source of chance. -/
def after (line : MoteLine σ α) (act : MoteAct α) : MoteLine σ α :=
  match (act.perform line.system).run line.random with
  | (.ok (particle?, system), random) =>
      ⟨system, random, act.moves line.system.settings line.risen ++ particle?.toList⟩
  | (.error _, random) => { line with random }

/-- An act that returns has told which mote has risen with it. -/
theorem after_of_returned {line : MoteLine σ α} {act : MoteAct α} {particle? : Option (Particle α)}
    {system : ParticleSystem α} {random : σ}
    (returned : (act.perform line.system).run line.random = (.ok (particle?, system), random)) :
    line.after act =
      ⟨system, random, act.moves line.system.settings line.risen ++ particle?.toList⟩ := by
  rw [after, returned]

theorem after_of_failed {line : MoteLine σ α} {act : MoteAct α} {fault : Fault} {random : σ}
    (failed : (act.perform line.system).run line.random = (.error fault, random)) :
    line.after act = { line with random } := by
  rw [after, failed]

/-- Carries out acts in turn. -/
def run (acts : List (MoteAct α)) (line : MoteLine σ α) : MoteLine σ α := acts.foldl after line

end MoteLine

def Particle.hasLife (particle : Particle α) : Bool := decide (0.0 < particle.life)

/-! Over exact numbers. -/

theorem has_life_iff (particle : Particle ℝ) : particle.hasLife = true ↔ 0 < particle.life := by
  rw [Particle.hasLife, decide_eq_true_iff]
  exact iff_of_eq (congrArg (fun zero : ℝ => zero < particle.life) Exact.zero_eq)

theorem life_advanced (steps lifeDecay : ℝ) (particle : Particle ℝ) :
    (particle.advanced steps lifeDecay).life = particle.life - lifeDecay * steps := rfl

/-- The older motes have no more life left than the younger ones. -/
def InOrderOfLife (motes : List (Particle ℝ)) : Prop :=
  motes.Pairwise fun older newer => older.life ≤ newer.life

theorem life_stays {motes : List (Particle ℝ)} (ordered : InOrderOfLife motes) :
    motes.Pairwise fun older newer => older.hasLife = true → newer.hasLife = true := by
  refine ordered.imp fun {older newer} atLeast alive => ?_
  rw [has_life_iff] at alive ⊢
  exact lt_of_lt_of_le alive atLeast

theorem in_order_advanced (steps lifeDecay : ℝ) {motes : List (Particle ℝ)}
    (ordered : InOrderOfLife motes) :
    InOrderOfLife (motes.map (Particle.advanced steps lifeDecay)) := by
  refine List.pairwise_map.mpr (ordered.imp fun {older newer} atLeast => ?_)
  rw [life_advanced, life_advanced]
  exact sub_le_sub_right atLeast _

/-- Of motes that lose life, those that still have some afterwards had some before. -/
theorem filter_advanced {steps lifeDecay : ℝ} (loses : 0 ≤ lifeDecay * steps)
    (motes : List (Particle ℝ)) :
    ((motes.filter Particle.hasLife).map (Particle.advanced steps lifeDecay)).filter
        Particle.hasLife =
      (motes.map (Particle.advanced steps lifeDecay)).filter Particle.hasLife := by
  rw [List.filter_map, List.filter_map, List.filter_filter]
  congr 1
  apply List.filter_congr
  intro mote _
  cases after : (mote.advanced steps lifeDecay).hasLife with
  | false => simp [Function.comp, after]
  | true =>
      have before : mote.hasLife = true := by
        rw [has_life_iff, life_advanced] at after
        rw [has_life_iff]
        linarith
      simp [Function.comp, after, before]

namespace MoteLine

/-- The motes of the system are the last of all that have risen: those still alive,
as many as the limit allows. -/
structure InLine (settings : ParticleSettings ℝ) (line : MoteLine σ ℝ) : Prop where
  settings_kept : line.system.settings = settings
  lives_le_one : ∀ mote ∈ line.risen, mote.life ≤ 1
  ordered : InOrderOfLife line.risen
  left : line.system.particles = (line.risen.filter Particle.hasLife).rtake settings.limit.toNat

variable {settings : ParticleSettings ℝ} {line : MoteLine σ ℝ}

theorem in_line_risen (inLine : line.InLine settings) {particle : Particle ℝ}
    (fresh : particle.life = 1) (random : σ) :
    InLine settings ⟨line.system.add particle, random, line.risen ++ [particle]⟩ := by
  have alive : particle.hasLife = true := by
    rw [has_life_iff, fresh]
    exact one_pos
  refine ⟨inLine.settings_kept, ?_, ?_, ?_⟩
  · intro mote member
    rcases List.mem_append.mp member with old | new
    · exact inLine.lives_le_one mote old
    · rw [List.mem_singleton.mp new, fresh]
  · refine List.pairwise_append.mpr ⟨inLine.ordered, List.pairwise_singleton _ _, ?_⟩
    intro older member newer new
    rw [List.mem_singleton.mp new, fresh]
    exact inLine.lives_le_one older member
  · rw [ParticleSystem.add_particles, inLine.settings_kept, inLine.left, rtake_concat_rtake,
      List.filter_append, List.filter_cons_of_pos alive, List.filter_nil]

theorem in_line_moved (inLine : line.InLine settings) {steps : ℝ}
    (loses : 0 ≤ settings.lifeDecay * steps) (random : σ) (moves : Nat) :
    InLine settings
      ⟨{ line.system with
          particles := (line.system.particles.map
            (Particle.advanced steps settings.lifeDecay)).filter Particle.hasLife
          moves },
        random, line.risen.map (Particle.advanced steps settings.lifeDecay)⟩ := by
  have ordered := in_order_advanced steps settings.lifeDecay inLine.ordered
  refine ⟨inLine.settings_kept, ?_, ordered, ?_⟩
  · intro mote member
    obtain ⟨before, there, rfl⟩ := List.mem_map.mp member
    have most := inLine.lives_le_one before there
    rw [life_advanced]
    linarith
  · have orderedAlive : InOrderOfLife ((line.risen.filter Particle.hasLife).map
        (Particle.advanced steps settings.lifeDecay)) :=
      in_order_advanced _ _ (inLine.ordered.filter _)
    have moved : (line.system.particles.map (Particle.advanced steps settings.lifeDecay)) =
        ((line.risen.filter Particle.hasLife).map
          (Particle.advanced steps settings.lifeDecay)).rtake settings.limit.toNat := by
      rw [inLine.left, List.rtake, List.rtake, List.map_drop, List.length_map]
    dsimp only
    rw [moved, filter_rtake_of_pairwise (life_stays orderedAlive), filter_advanced loses]

theorem left_ordered (inLine : line.InLine settings) : InOrderOfLife line.system.particles := by
  rw [inLine.left]
  exact (inLine.ordered.filter _).sublist (rtake_suffix _ _).sublist

theorem left_suffix (inLine : line.InLine settings) : line.system.particles <:+ line.risen := by
  rw [inLine.left]
  exact (rtake_suffix _ _).trans (filter_suffix_of_pairwise (life_stays inLine.ordered))

/-- What an act makes of a line that is in order: it stays so, and motes have
only left from the old end. -/
structure OldestLeave (settings : ParticleSettings ℝ) (act : MoteAct ℝ)
    (before after : MoteLine σ ℝ) :
    Prop where
  in_line : after.InLine settings
  leave : ∃ fresh : List (Particle ℝ), fresh.length ≤ 1 ∧
    after.risen = act.moves settings before.risen ++ fresh ∧
    after.system.particles <:+ act.moves settings before.system.particles ++ fresh

theorem oldest_leave_of_rise (inLine : line.InLine settings) {act : MoteAct ℝ}
    (still : ∀ motes, act.moves settings motes = motes) {particle : Particle ℝ}
    (fresh : particle.life = 1.0) (random : σ) :
    OldestLeave settings act line
      ⟨line.system.add particle, random, line.risen ++ [particle]⟩ := by
  refine ⟨in_line_risen inLine (fresh.trans Exact.one_eq) random, [particle], Nat.le_refl 1, ?_, ?_⟩
  · rw [still]
  · rw [still, ParticleSystem.add_particles]
    exact rtake_suffix _ _

theorem oldest_leave_of_rest (inLine : line.InLine settings) {act : MoteAct ℝ}
    (still : ∀ motes, act.moves settings motes = motes) (random : σ) :
    OldestLeave settings act line { line with random } := by
  refine ⟨⟨inLine.settings_kept, inLine.lives_le_one, inLine.ordered, inLine.left⟩, [],
    Nat.zero_le 1, ?_, ?_⟩
  · rw [still, List.append_nil]
  · rw [still, List.append_nil]

variable [ChanceSource σ ℝ]

theorem after_oldest_leave (fades : 0 ≤ settings.lifeDecay) (passes : 0 < settings.frameIntervalMs)
    (inLine : line.InLine settings) (act : MoteAct ℝ) :
    OldestLeave settings act line (line.after act) := by
  cases act with
  | spawn =>
      have still : ∀ motes, (MoteAct.spawn (α := ℝ)).moves settings motes = motes := fun _ => rfl
      rcases drew : line.system.mote.run line.random with ⟨fault | particle, later⟩
      · have failed : (MoteAct.spawn.perform line.system).run line.random =
            (.error fault, later) := by
          rw [MoteAct.perform, run_bind, ParticleSystem.run_spawn, drew]
        rw [after_of_failed failed]
        exact oldest_leave_of_rest inLine still later
      · have returned : (MoteAct.spawn.perform line.system).run line.random =
            (.ok (some particle, line.system.add particle), later) := by
          rw [MoteAct.perform, run_bind, ParticleSystem.run_spawn, drew]
          rfl
        rw [after_of_returned returned]
        exact oldest_leave_of_rise inLine still (ParticleSystem.mote_life drew) later
  | maybeSpawn =>
      have still : ∀ motes, (MoteAct.maybeSpawn (α := ℝ)).moves settings motes = motes :=
        fun _ => rfl
      rcases ran : (MoteAct.maybeSpawn.perform line.system).run line.random with
        ⟨fault | result, later⟩
      · rw [after_of_failed ran]
        exact oldest_leave_of_rest inLine still later
      · rw [after_of_returned ran]
        rcases ParticleSystem.maybe_spawn_outcome ran with rfl | ⟨particle, rfl, drew⟩
        · have rests := oldest_leave_of_rest inLine still later
          simpa [MoteAct.moves] using rests
        · exact oldest_leave_of_rise inLine still (ParticleSystem.mote_life drew) later
  | tick dtMs =>
      let steps := Scalar.larger 0.0 dtMs / settings.frameIntervalMs
      have loses : 0 ≤ settings.lifeDecay * steps := by
        have passed : 0 ≤ Scalar.larger 0.0 dtMs := by
          rw [Exact.larger_eq, Exact.zero_eq]
          exact le_max_left 0 dtMs
        exact mul_nonneg fades (div_nonneg passed (le_of_lt passes))
      let later : ParticleSystem ℝ := { line.system with
        particles := (line.system.particles.map
          (Particle.advanced steps settings.lifeDecay)).filter Particle.hasLife
        moves := line.system.moves + 1 }
      have ticked : line.system.tick dtMs = .ok later := by
        refine (ParticleSystem.tick_eq_ok dtMs _ _).mpr ⟨steps, ?_, ?_⟩
        · rw [inLine.settings_kept]
          exact Exact.quotient_eq (ne_of_gt passes)
        · simp only [later, inLine.settings_kept]
          rfl
      have moved := in_line_moved inLine loses line.random (line.system.moves + 1)
      have returned : ((MoteAct.tick dtMs).perform line.system).run line.random =
          (.ok (none, later), line.random) := by
        rw [MoteAct.perform, run_bind, run_lift, ticked]
        rfl
      rw [after_of_returned returned, inLine.settings_kept, Option.toList_none, List.append_nil]
      refine ⟨moved, [], Nat.zero_le 1, (List.append_nil _).symm, ?_⟩
      rw [List.append_nil]
      exact filter_suffix_of_pairwise (life_stays (in_order_advanced _ _ (left_ordered inLine)))
  | usePalette paletteIndex =>
      have ready : InLine settings
          { line with system := line.system.usePalette paletteIndex } :=
        ⟨inLine.settings_kept, inLine.lives_le_one, inLine.ordered, inLine.left⟩
      have returned : ((MoteAct.usePalette paletteIndex).perform line.system).run line.random =
          (.ok (none, line.system.usePalette paletteIndex), line.random) := rfl
      rw [after_of_returned returned, Option.toList_none, List.append_nil]
      refine ⟨ready, [], Nat.zero_le 1, (List.append_nil _).symm, ?_⟩
      rw [List.append_nil]
      exact List.suffix_rfl
  | clear =>
      have returned : (MoteAct.clear.perform line.system).run line.random =
          (.ok (none, line.system.clear), line.random) := rfl
      rw [after_of_returned returned]
      refine ⟨⟨inLine.settings_kept, ?_, List.Pairwise.nil, ?_⟩, [], Nat.zero_le 1, rfl,
        List.suffix_rfl⟩
      · intro mote member
        cases member
      · exact (List.rtake_nil _).symm

theorem run_in_line (fades : 0 ≤ settings.lifeDecay) (passes : 0 < settings.frameIntervalMs)
    (inLine : line.InLine settings) (acts : List (MoteAct ℝ)) :
    (line.run acts).InLine settings := by
  induction acts generalizing line with
  | nil => exact inLine
  | cons act acts induction => exact induction (after_oldest_leave fades passes inLine act).in_line

end MoteLine

/-- Over exact numbers, for settings by which motes never gain life and time passes from frame to
frame, and for any sequence of acts: there are never more motes than the limit allows; each of them
has some life left, and at most what it began with; they stand in the order in which they rose, the
older ones with no more life than the younger; and they are the last of all motes risen since there
were none, namely as many of those still alive as the limit allows. With each act at most one comes,
at the young end, and others only leave from the old end. -/
theorem oldest_motes_leave_first [ChanceSource σ ℝ] (settings : ParticleSettings ℝ)
    (fades : 0 ≤ settings.lifeDecay) (passes : 0 < settings.frameIntervalMs) (surface : Surface ℝ)
    (paletteIndex : Int) (random : σ) (acts : List (MoteAct ℝ)) :
    let first : MoteLine σ ℝ := .initial surface settings paletteIndex random
    let line := first.run acts
    (line.system.particles.length : Int) ≤ max 0 settings.limit ∧
      (∀ mote ∈ line.system.particles, 0 < mote.life ∧ mote.life ≤ 1) ∧
      InOrderOfLife line.system.particles ∧
      line.system.particles <:+ line.risen ∧
      line.system.particles =
        (line.risen.filter Particle.hasLife).rtake settings.limit.toNat ∧
      ∀ earlier act later, acts = earlier ++ act :: later →
        let before := first.run earlier
        let after := first.run (earlier ++ [act])
        ∃ fresh : List (Particle ℝ), fresh.length ≤ 1 ∧
          after.risen = act.moves settings before.risen ++ fresh ∧
          after.system.particles <:+ act.moves settings before.system.particles ++ fresh := by
  intro first line
  have inLineFirst : first.InLine settings := by
    refine ⟨rfl, ?_, List.Pairwise.nil, (List.rtake_nil _).symm⟩
    intro mote member
    cases member
  have inLine := MoteLine.run_in_line fades passes inLineFirst acts
  refine ⟨?_, ?_, MoteLine.left_ordered inLine, MoteLine.left_suffix inLine, inLine.left, ?_⟩
  · have most : line.system.particles.length ≤ settings.limit.toNat := by
      rw [inLine.left]
      exact length_rtake_le _ _
    omega
  · intro mote member
    refine ⟨?_, inLine.lives_le_one mote ((MoteLine.left_suffix inLine).subset member)⟩
    have left := inLine.left
    rw [left] at member
    exact (has_life_iff mote).mp
      (List.mem_filter.mp ((rtake_suffix _ _).subset member)).2
  · intro earlier act later _ before after
    have same : after = before.after act := by
      simp only [after, before, MoteLine.run, List.foldl_append, List.foldl_cons, List.foldl_nil]
    rw [same]
    exact (MoteLine.after_oldest_leave fades passes
      (MoteLine.run_in_line fades passes inLineFirst earlier) act).leave

/-- A source that draws one number over and over and takes the first of all choices. -/
structure SteadySource where
  share : ℝ

instance : ChanceSource SteadySource ℝ where
  draw source := (source.share, source)
  choose _ source := (.ok 0, source)

noncomputable def crowdedSettings : ParticleSettings ℝ := { ParticleSettings.usual with limit := 2 }

/-- Three motes have risen, and the two younger ones are left. -/
noncomputable def crowdedLine : MoteLine SteadySource ℝ :=
  MoteLine.run [.spawn, .usePalette 3, .spawn, .spawn]
    (.initial ⟨600.0, 600.0⟩ crowdedSettings 0 ⟨0.0⟩)

theorem oldest_of_three_leaves :
    0 ≤ crowdedSettings.lifeDecay ∧ 0 < crowdedSettings.frameIntervalMs ∧
      crowdedLine.risen.length = 3 ∧ crowdedLine.system.particles.length = 2 ∧
      crowdedLine.system.particles <:+ crowdedLine.risen ∧
      ∀ mote ∈ crowdedLine.system.particles, 0 < mote.life ∧ mote.life ≤ 1 := by
  have fades : 0 ≤ crowdedSettings.lifeDecay := by
    change (0 : ℝ) ≤ 0.005
    norm_num
  have passes : 0 < crowdedSettings.frameIntervalMs := by
    change (0 : ℝ) < 16.0
    norm_num
  obtain ⟨_, lives, _, suffix, _⟩ := oldest_motes_leave_first crowdedSettings fades passes
    ⟨600.0, 600.0⟩ 0 (⟨0.0⟩ : SteadySource) [.spawn, .usePalette 3, .spawn, .spawn]
  exact ⟨fades, passes, rfl, rfl, suffix, lives⟩

end Arboretum
