import Poise.Control.WindowAuto
import Poise.Foundation.ExponentialMean
import Mathlib.Data.List.Chain
import Mathlib.Tactic.Linarith
import Mathlib.Tactic.NormNum
import Mathlib.Tactic.FieldSimp

/-!
# The window detector over whole runs

A detection is younger than its maximal duration on the real clock; a room that never cools
faster than the threshold is never reported; a room that falls faster is. The slopes come from
readings of the run, and the smoothed slope stays between them up to the stored precision.
-/
namespace Poise

open Rounding Trace ExponentialMean

variable {cfg : WindowAutoConfig} {rt : WindowRuntime} {ticks : List WindowTick}

/-! ### The age of a detection -/

/-- Ticks that are less than an hour apart, the gap from which a tick is not counted. -/
def TickPaced (clock : List ℚ) : Prop := clock.IsChain fun a b => a < b ∧ b < a + 3600

instance {clock : List ℚ} : Decidable (TickPaced clock) :=
  inferInstanceAs (Decidable (clock.IsChain fun a b => a < b ∧ b < a + 3600))

theorem settled_step (duration : 0 < cfg.maxDurationMin) (t : WindowTick)
    (settled : rt.windowAuto.Settled cfg) : (rt.step cfg t).1.windowAuto.Settled cfg := by
  rcases @WindowRuntime.windowAuto_step cfg rt t with fresh | same |
    ⟨room, prev, -, -, -, later, next⟩
  · rw [fresh]
    exact WindowAutoState.settled_fresh
  · rw [same]
    exact settled
  · rw [next]
    have adapted : rt.windowAuto.Settled { cfg with openThreshold := t.openThreshold cfg room } :=
      ⟨settled.minutes, settled.samples, settled.young⟩
    have stepped : (stepWindowAuto { cfg with openThreshold := t.openThreshold cfg room }
        rt.windowAuto (rt.sample cfg t room) ((t.now - prev) / 60)).Settled
        { cfg with openThreshold := t.openThreshold cfg room } :=
      WindowAutoState.Settled.step duration later.le adapted
    exact ⟨stepped.minutes, stepped.samples, stepped.young⟩

/-- A tick that measures and keeps a detection counts its interval. -/
theorem minutes_step {t : WindowTick} {prev : ℚ} (settled : rt.windowAuto.Settled cfg)
    (before : rt.windowAuto.detected = true) (known : rt.waPrevMono = some prev)
    (measured : t.room.isSome) (pace : prev < t.now ∧ t.now < prev + 3600)
    (after : (rt.step cfg t).1.windowAuto.detected = true) :
    (rt.step cfg t).1.waPrevMono = some t.now ∧
      (rt.step cfg t).1.windowAuto.minutesOpen =
        rt.windowAuto.minutesOpen + (t.now - prev) / 60 := by
  obtain ⟨room, measured⟩ := Option.isSome_iff_exists.mp measured
  cases healthy : t.sensorHealthy with
  | true =>
    rw [WindowRuntime.step_healthy measured healthy] at after
    exact absurd after nofun
  | false =>
    have interval : 0 < (t.now - prev) / 60 ∧ (t.now - prev) / 60 < 60 := by
      constructor <;> linarith [pace.1, pace.2]
    rw [WindowRuntime.step_unsensed measured healthy] at after ⊢
    simp only [WindowRuntime.observed, known, if_pos interval] at after ⊢
    have adapted : rt.windowAuto.Settled { cfg with openThreshold := t.openThreshold cfg room } :=
      ⟨settled.minutes, settled.samples, settled.young⟩
    exact ⟨trivial, adapted.minutesOpen_step before after⟩

theorem prev_step {t : WindowTick} (measured : t.room.isSome)
    (after : (rt.step cfg t).1.windowAuto.detected = true) :
    (rt.step cfg t).1.waPrevMono = some t.now := by
  obtain ⟨room, measured⟩ := Option.isSome_iff_exists.mp measured
  cases healthy : t.sensorHealthy with
  | true =>
    rw [WindowRuntime.step_healthy measured healthy] at after
    exact absurd after nofun
  | false => rw [WindowRuntime.step_unsensed measured healthy]

/-- The minutes of a detection that lasts over `later` are the time that passed. -/
theorem minutes_run (duration : 0 < cfg.maxDurationMin) {later : List WindowTick} {since : ℚ}
    (settled : rt.windowAuto.Settled cfg) (before : rt.windowAuto.detected = true)
    (known : rt.waPrevMono = some since) (measured : ∀ t ∈ later, t.room.isSome)
    (lasting : ∀ g ∈ trace (WindowRuntime.step cfg) rt later, g.post.windowAuto.detected = true)
    (paced : TickPaced (since :: later.map (·.now))) :
    ∀ g ∈ trace (WindowRuntime.step cfg) rt later,
      g.post.windowAuto.minutesOpen = rt.windowAuto.minutesOpen + (g.input.now - since) / 60 := by
  induction later generalizing rt since with
  | nil => simp [trace]
  | cons t later ih =>
    simp only [trace, List.forall_mem_cons] at lasting ⊢
    simp only [TickPaced, List.map_cons, List.isChain_cons_cons] at paced
    obtain ⟨now, kept⟩ := minutes_step settled before known (measured t (by simp)) paced.1 lasting.1
    refine ⟨kept, fun g member => ?_⟩
    have rest := ih (settled_step duration t settled) lasting.1 now
      (fun u within => measured u (by simp [within])) lasting.2 paced.2 g member
    calc g.post.windowAuto.minutesOpen
        = (rt.step cfg t).1.windowAuto.minutesOpen + (g.input.now - t.now) / 60 := rest
      _ = rt.windowAuto.minutesOpen + (t.now - since) / 60 + (g.input.now - t.now) / 60 := by
          rw [kept]
      _ = rt.windowAuto.minutesOpen + (g.input.now - since) / 60 := by ring

/-- A detection never reaches its maximal duration, on the real clock. -/
theorem detection_is_brief (duration : 0 < cfg.maxDurationMin)
    (start : rt.windowAuto.Settled cfg)
    {before after : List (Step WindowRuntime WindowTick (Option Bool))}
    {f : Step WindowRuntime WindowTick (Option Bool)}
    (stretch : before ++ f :: after <+: trace (WindowRuntime.step cfg) rt ticks)
    (measured : ∀ g ∈ f :: after, g.input.room.isSome)
    (lasting : ∀ g ∈ f :: after, g.post.windowAuto.detected = true)
    (paced : TickPaced ((f :: after).map (·.input.now))) :
    ∀ e ∈ after, e.input.now - f.input.now < 60 * cfg.maxDurationMin := by
  intro e member
  have settled : ∀ g ∈ f :: after, g.post.windowAuto.Settled cfg := fun g within =>
    (invariant_of_mem (WindowRuntime.step cfg) (fun s : WindowRuntime => s.windowAuto.Settled cfg)
      start (fun s t kept => settled_step duration t kept)
      (stretch.subset (List.mem_append_right before within))).2
  have opened := settled f (by simp)
  obtain ⟨here, js, rfl⟩ := after_trace _ stretch
  have since : f.post.waPrevMono = some f.input.now := by
    rw [here]
    refine prev_step (measured f (by simp)) ?_
    rw [← Step.of_post (WindowRuntime.step cfg), ← here]
    exact lasting f (by simp)
  rw [List.map_cons, map_of_input (WindowRuntime.step cfg) (·.now)] at paced
  have counted := minutes_run duration opened (lasting f (by simp)) since
    ((forall_input_iff _ (fun t => t.room.isSome = true) _ _).mp fun g there =>
      measured g (List.mem_cons_of_mem f there))
    (fun g there => lasting g (List.mem_cons_of_mem f there)) paced e member
  have young := (settled e (List.mem_cons_of_mem f member)).young
    (lasting e (List.mem_cons_of_mem f member))
  have nonneg := opened.minutes
  linarith

/-! ### The slopes come from the readings -/

/-- From `s` to `t` the room fell by at most `rate` per hour. -/
def FallsAtMost (rate : ℚ) (s t : WindowTick) : Prop :=
  ∀ a ∈ s.room, ∀ b ∈ t.room, a - b ≤ rate * ((t.now - s.now) / 3600)

instance {rate : ℚ} {s t : WindowTick} : Decidable (FallsAtMost rate s t) :=
  inferInstanceAs (Decidable (∀ a ∈ s.room, ∀ b ∈ t.room, _))

/-- From `s` to `t` the room fell by at least `rate` per hour. -/
def FallsAtLeast (rate : ℚ) (s t : WindowTick) : Prop :=
  ∀ a ∈ s.room, ∀ b ∈ t.room, rate * ((t.now - s.now) / 3600) ≤ a - b

instance {rate : ℚ} {s t : WindowTick} : Decidable (FallsAtLeast rate s t) :=
  inferInstanceAs (Decidable (∀ a ∈ s.room, ∀ b ∈ t.room, _))

/-- The reference of the slope is a reading of the past. -/
def SlopeAnchored (past : List WindowTick) (rt : WindowRuntime) : Prop :=
  ∀ r s, rt.waRefRoom = some r → rt.waRefMono = some s →
    ∃ t ∈ past, t.room = some r ∧ t.now = s

theorem slopeAnchored_step {past : List WindowTick} (t : WindowTick) (anchored : SlopeAnchored past rt) :
    SlopeAnchored (past ++ [t]) (rt.step cfg t).1 := by
  intro r s room mono
  cases measured : t.room with
  | none =>
    rw [WindowRuntime.step_blind measured] at room
    exact absurd room nofun
  | some here =>
    cases healthy : t.sensorHealthy with
    | true =>
      rw [WindowRuntime.step_healthy measured healthy] at room
      exact absurd room nofun
    | false =>
      rw [WindowRuntime.step_unsensed measured healthy] at room mono
      rcases quantizedSlope_ref here rt.waRefRoom rt.waRefMono t.now cfg.minStep with
        fresh | ⟨r', s', oldRoom, oldMono, kept⟩
      · rw [fresh] at room mono
        obtain rfl := Option.some.inj room
        obtain rfl := Option.some.inj mono
        exact ⟨t, by simp, measured, rfl⟩
      · rw [kept] at room mono
        obtain rfl := Option.some.inj room
        obtain rfl := Option.some.inj mono
        obtain ⟨u, member, reading, instant⟩ := anchored r' s' oldRoom oldMono
        exact ⟨u, by simp [member], reading, instant⟩

theorem neg_le_sample {past : List WindowTick} {t : WindowTick} {rate room v : ℚ}
    (anchored : SlopeAnchored past rt) (nonneg : 0 ≤ rate) (measured : t.room = some room)
    (slow : ∀ s ∈ past, FallsAtMost rate s t) (sampled : rt.sample cfg t room = some v) :
    -rate ≤ v := by
  cases cooled : t.cooling with
  | true =>
    simp only [WindowRuntime.sample, cooled, if_true, Option.some.injEq] at sampled
    linarith
  | false =>
    simp only [WindowRuntime.sample, cooled, Bool.false_eq_true, if_false] at sampled
    obtain ⟨r, s, refRoom, refMono, before, rfl⟩ := quantizedSlope_slope sampled
    obtain ⟨u, member, reading, rfl⟩ := anchored r s refRoom refMono
    have fall := slow u member r reading room measured
    rw [le_div_iff₀ (by linarith)]
    linarith

/-! ### No false alarm -/

/-- The stored slope of a room that cools by at most `rate`. -/
structure Calm (rate : ℚ) (past : List WindowTick) (rt : WindowRuntime) : Prop where
  anchored : SlopeAnchored past rt
  quiet : rt.windowAuto.detected = false
  slope : rt.windowAuto.nPoints ≠ 0 → roundTo (-rate) 3 ≤ rt.windowAuto.emaSlope

theorem roundTo_neg_le (rate : ℚ) : -rate - 1 / 2000 ≤ roundTo (-rate) 3 := by
  have near := abs_le.mp (abs_roundTo_sub_le (-rate) 3)
  norm_num at near
  linarith [near.1]

/-- The smoothed slope before rounding, and what is stored of it. -/
theorem ema_bound {state : WindowAutoState} {rate v : ℚ}
    (nonneg : 0 ≤ cfg.emaOldWeight) (le_one : cfg.emaOldWeight ≤ 1)
    (old : state.nPoints ≠ 0 → roundTo (-rate) 3 ≤ state.emaSlope) (new : -rate ≤ v) :
    -rate - 1 / 2000 ≤ state.ema cfg v ∧ roundTo (-rate) 3 ≤ roundTo (state.ema cfg v) 3 := by
  have low : min (roundTo (-rate) 3) (-rate) ≤ state.ema cfg v := by
    unfold WindowAutoState.ema
    split_ifs with first
    · exact (min_le_right _ _).trans new
    · exact le_blend nonneg le_one ((min_le_left _ _).trans (old first))
        ((min_le_right _ _).trans new)
  constructor
  · refine le_trans (le_min (roundTo_neg_le rate) ?_) low
    linarith
  · rcases min_choice (roundTo (-rate) 3) (-rate) with grid | plain
    · rw [grid] at low
      exact le_roundTo (roundTo_roundTo _ _) low
    · rw [plain] at low
      exact roundTo_mono 3 low

theorem calm_step {past : List WindowTick} {t : WindowTick} {rate : ℚ} (nonneg : 0 ≤ rate)
    (weight : 0 ≤ cfg.emaOldWeight ∧ cfg.emaOldWeight ≤ 1) (slow : ∀ s ∈ past, FallsAtMost rate s t)
    (margin : ∀ room ∈ t.room, rate + 1 / 2000 ≤ t.openThreshold cfg room)
    (calm : Calm rate past rt) : Calm rate (past ++ [t]) (rt.step cfg t).1 := by
  refine ⟨slopeAnchored_step t calm.anchored, ?_, ?_⟩
  all_goals
    rcases @WindowRuntime.windowAuto_step cfg rt t with fresh | same |
      ⟨room, prev, measured, -, -, -, next⟩
  · rw [fresh]
  · rw [same]
    exact calm.quiet
  · rw [next]
    by_contra alarm
    obtain ⟨v, usable, steep⟩ :=
      WindowAutoState.steep_of_detected calm.quiet (Bool.not_eq_false _ ▸ alarm)
    have sampled := (Option.filter_eq_some_iff.mp usable).1
    have new := neg_le_sample calm.anchored nonneg measured slow sampled
    have low := (ema_bound weight.1 weight.2 calm.slope new).1
    have bound := margin room measured
    have below : rt.windowAuto.ema cfg v < -t.openThreshold cfg room := steep
    linarith
  · rw [fresh]
    exact fun some => absurd rfl some
  · rw [same]
    exact calm.slope
  · rw [next]
    rcases WindowAutoState.emaSlope_step with ⟨kept, count⟩ | ⟨v, usable, stored, -⟩
    · rw [kept, count]
      exact calm.slope
    · rw [stored]
      have sampled := (Option.filter_eq_some_iff.mp usable).1
      have new := neg_le_sample calm.anchored nonneg measured slow sampled
      exact fun _ => (ema_bound weight.1 weight.2 calm.slope new).2

/-- A room that cools more gently than every threshold is never reported: the window is what
the contacts say. -/
theorem no_false_alarm {rate : ℚ} (nonneg : 0 ≤ rate)
    (weight : 0 ≤ cfg.emaOldWeight ∧ cfg.emaOldWeight ≤ 1)
    (slow : ticks.Pairwise (FallsAtMost rate))
    (margin : ∀ t ∈ ticks, ∀ room ∈ t.room, rate + 1 / 2000 ≤ t.openThreshold cfg room) :
    ∀ e ∈ trace (WindowRuntime.step cfg) {} ticks,
      e.post.windowAuto.detected = false ∧
        e.output = e.input.room.map fun _ => !e.input.bypass && e.input.sensorOpen := by
  intro e member
  obtain ⟨past, moment⟩ := moment_of_mem member
  have start : Calm rate [] ({} : WindowRuntime) :=
    ⟨fun _ _ room _ => absurd room nofun, rfl, fun count => absurd rfl count⟩
  have ok : ∀ past f, past ++ [f] <+: trace (WindowRuntime.step cfg) {} ticks →
      (∀ g ∈ past, FallsAtMost rate g.input f.input) ∧ f.input ∈ ticks := by
    intro past f earlier
    refine ⟨pairwise_past _ slow earlier, ?_⟩
    rw [← trace_map_input (WindowRuntime.step cfg) {} ticks]
    exact List.mem_map_of_mem (mem_of_moment _ earlier)
  have keep : ∀ past s t, Calm rate (past.map Step.input) s →
      (∀ g ∈ past, FallsAtMost rate g.input t) ∧ t ∈ ticks →
      Calm rate ((past ++ [Step.of (WindowRuntime.step cfg) s t]).map Step.input)
        (s.step cfg t).1 := by
    intro past s t calm now
    rw [List.map_append]
    refine calm_step nonneg weight ?_ (margin t now.2) calm
    intro u within
    obtain ⟨g, there, rfl⟩ := List.mem_map.mp within
    exact now.1 g there
  have before : Calm rate (past.map Step.input) e.pre :=
    history_at (WindowRuntime.step cfg) (fun past s => Calm rate (past.map Step.input) s)
      (fun past f => (∀ g ∈ past, FallsAtMost rate g.input f.input) ∧ f.input ∈ ticks)
      start keep ok moment
  rw [step_of_mem _ member]
  refine ⟨(keep past e.pre e.input before (ok past e moment)).quiet, ?_⟩
  simp only [Step.of_output, Step.of_input]
  cases measured : e.input.room with
  | none => rw [WindowRuntime.step_blind measured]; rfl
  | some room =>
    cases healthy : e.input.sensorHealthy with
    | true => rw [WindowRuntime.step_healthy measured healthy]; rfl
    | false =>
      rw [WindowRuntime.step_unsensed measured healthy, before.quiet]
      cases e.input.bypass <;> simp [effectiveWindowOpen]

/-! ### Detection -/

/-- The room falls between two ticks by at least `rate` and at most `steepest` per hour. -/
structure Falls (rate steepest : ℚ) (s t : WindowTick) : Prop where
  order : s.now < t.now
  least : FallsAtLeast rate s t
  most : FallsAtMost steepest s t

instance {rate steepest : ℚ} {s t : WindowTick} : Decidable (Falls rate steepest s t) :=
  decidable_of_iff (s.now < t.now ∧ FallsAtLeast rate s t ∧ FallsAtMost steepest s t)
    ⟨fun ⟨order, least, most⟩ => ⟨order, least, most⟩, fun h => ⟨h.order, h.least, h.most⟩⟩

/-- A tick on which the detector decides: measured, not cooling, no healthy contacts. -/
structure Unaided (t : WindowTick) : Prop where
  measured : t.room.isSome
  unsensed : t.sensorHealthy = false
  idle : t.cooling = false

instance {t : WindowTick} : Decidable (Unaided t) :=
  decidable_of_iff (t.room.isSome ∧ t.sensorHealthy = false ∧ t.cooling = false)
    ⟨fun ⟨measured, unsensed, idle⟩ => ⟨measured, unsensed, idle⟩,
      fun h => ⟨h.measured, h.unsensed, h.idle⟩⟩

/-- The reference is a reading of the stretch. -/
def Held (stretch : List WindowTick) (rt : WindowRuntime) : Prop :=
  ∃ t ∈ stretch, ∃ r, t.room = some r ∧ rt.waRefRoom = some r ∧ rt.waRefMono = some t.now

theorem emaSlope_le (weight : 0 ≤ cfg.emaOldWeight ∧ cfg.emaOldWeight ≤ 1)
    (grid : roundTo cfg.maxSlope 3 = cfg.maxSlope) (t : WindowTick) (nonneg : 0 ≤ cfg.maxSlope)
    (bounded : rt.windowAuto.emaSlope ≤ cfg.maxSlope) :
    (rt.step cfg t).1.windowAuto.emaSlope ≤ cfg.maxSlope := by
  rcases @WindowRuntime.windowAuto_step cfg rt t with fresh | same |
    ⟨room, prev, measured, -, -, -, next⟩
  · rw [fresh]
    exact nonneg
  · rw [same]
    exact bounded
  · rw [next]
    rcases WindowAutoState.emaSlope_step with ⟨kept, -⟩ | ⟨v, usable, stored, -⟩
    · rw [kept]
      exact bounded
    · have inside : |v| ≤ cfg.maxSlope := by
        simpa using (Option.filter_eq_some_iff.mp usable).2
      have new := (le_abs_self v).trans inside
      have smoothed : rt.windowAuto.ema cfg v ≤ cfg.maxSlope := by
        unfold WindowAutoState.ema
        split_ifs
        · exact new
        · exact blend_le weight.1 weight.2 bounded new
      rw [stored]
      calc roundTo (rt.windowAuto.ema cfg v) 3 ≤ roundTo cfg.maxSlope 3 := roundTo_mono 3 smoothed
        _ = cfg.maxSlope := grid

/-- A tick of a falling stretch folds one slope below `-rate`. -/
theorem fold_step {stretch : List WindowTick} {t : WindowTick} {rate prev : ℚ}
    (positive : 0 ≤ rate) (unaided : Unaided t) (held : Held stretch rt)
    (known : rt.waPrevMono = some prev) (pace : prev < t.now ∧ t.now < prev + 3600)
    (falls : ∀ s ∈ stretch, Falls rate cfg.maxSlope s t) :
    ∃ room v dtMin, t.room = some room ∧ v ≤ -rate ∧
      usableSlope { cfg with openThreshold := t.openThreshold cfg room } (some v) = some v ∧
      (rt.step cfg t).1.windowAuto =
        stepWindowAuto { cfg with openThreshold := t.openThreshold cfg room } rt.windowAuto
          (some v) dtMin ∧
      Held (stretch ++ [t]) (rt.step cfg t).1 ∧ (rt.step cfg t).1.waPrevMono = some t.now := by
  obtain ⟨room, measured⟩ := Option.isSome_iff_exists.mp unaided.measured
  obtain ⟨u, member, r, reading, refRoom, refMono⟩ := held
  have fall := falls u member
  have least := fall.least r reading room measured
  have most := fall.most r reading room measured
  have apart : 0 < (t.now - u.now) / 3600 := by linarith [fall.order]
  have interval : 0 < (t.now - prev) / 60 ∧ (t.now - prev) / 60 < 60 := by
    constructor <;> linarith [pace.1, pace.2]
  have below : (room - r) / ((t.now - u.now) / 3600) ≤ -rate := by
    rw [div_le_iff₀ apart]
    linarith
  have above : -cfg.maxSlope ≤ (room - r) / ((t.now - u.now) / 3600) := by
    rw [le_div_iff₀ apart]
    linarith
  have slope : rt.sample cfg t room = some ((room - r) / ((t.now - u.now) / 3600)) := by
    have later : ¬ t.now - u.now ≤ 0 := by linarith [fall.order]
    simp only [WindowRuntime.sample, unaided.idle, Bool.false_eq_true, if_false, quantizedSlope,
      refRoom, refMono, later]
    split_ifs <;> rfl
  refine ⟨room, (room - r) / ((t.now - u.now) / 3600), (t.now - prev) / 60, measured, below, ?_, ?_,
    ?_, ?_⟩
  · have inside : |(room - r) / ((t.now - u.now) / 3600)| ≤ cfg.maxSlope :=
      abs_le.mpr ⟨above, by linarith⟩
    simp [usableSlope, inside]
  · rw [WindowRuntime.step_unsensed measured unaided.unsensed, ← slope]
    simp only [WindowRuntime.observed, known, if_pos interval]
  · rw [WindowRuntime.step_unsensed measured unaided.unsensed]
    rcases quantizedSlope_ref room rt.waRefRoom rt.waRefMono t.now cfg.minStep with
      fresh | ⟨r', s', oldRoom, oldMono, kept⟩
    · exact ⟨t, by simp, room, measured, by rw [fresh], by rw [fresh]⟩
    · refine ⟨u, by simp [member], r, reading, ?_, ?_⟩
      · rw [kept, ← refRoom, oldRoom]
      · rw [kept, ← refMono, oldMono]
  · rw [WindowRuntime.step_unsensed measured unaided.unsensed]

/-- The stored slope after `k` ticks of a falling stretch. -/
structure Converging (cfg : WindowAutoConfig) (rate : ℚ) (k : ℕ) (stretch : List WindowTick)
    (rt : WindowRuntime) : Prop where
  held : Held stretch rt
  samples : k ≤ rt.windowAuto.nPoints
  slope : rt.windowAuto.emaSlope + rate ≤
    cfg.emaOldWeight ^ k * (cfg.maxSlope + rate) + 1 / (2000 * (1 - cfg.emaOldWeight))

/-- What the smoothed slope may still lack after `k` ticks. -/
theorem ema_converging {k : ℕ} {stretch : List WindowTick} {rate v : ℚ}
    (weight : 0 ≤ cfg.emaOldWeight ∧ cfg.emaOldWeight < 1) (steep : 0 ≤ cfg.maxSlope + rate)
    (converging : Converging cfg rate k stretch rt) (below : v ≤ -rate) :
    rt.windowAuto.ema cfg v + rate ≤ cfg.emaOldWeight ^ (k + 1) * (cfg.maxSlope + rate)
      + cfg.emaOldWeight * (1 / (2000 * (1 - cfg.emaOldWeight))) := by
  have rest : 0 < 2000 * (1 - cfg.emaOldWeight) := by linarith [weight.2]
  have error : 0 ≤ 1 / (2000 * (1 - cfg.emaOldWeight)) := (one_div_pos.mpr rest).le
  unfold WindowAutoState.ema
  split_ifs with first
  · have power : 0 ≤ cfg.emaOldWeight ^ (k + 1) * (cfg.maxSlope + rate) :=
      mul_nonneg (pow_nonneg weight.1 _) steep
    have scaled := mul_nonneg weight.1 error
    linarith
  · have pulled : blend cfg.emaOldWeight rt.windowAuto.emaSlope v - -rate ≤
        cfg.emaOldWeight * (rt.windowAuto.emaSlope - -rate) := blend_sub_le weight.2.le below
    have scaled := mul_le_mul_of_nonneg_left converging.slope weight.1
    calc blend cfg.emaOldWeight rt.windowAuto.emaSlope v + rate
        = blend cfg.emaOldWeight rt.windowAuto.emaSlope v - -rate := by ring
      _ ≤ cfg.emaOldWeight * (rt.windowAuto.emaSlope - -rate) := pulled
      _ = cfg.emaOldWeight * (rt.windowAuto.emaSlope + rate) := by ring
      _ ≤ cfg.emaOldWeight * (cfg.emaOldWeight ^ k * (cfg.maxSlope + rate)
            + 1 / (2000 * (1 - cfg.emaOldWeight))) := scaled
      _ = _ := by ring

theorem converging_step {k : ℕ} {stretch : List WindowTick} {t : WindowTick} {rate prev limit : ℚ}
    (weight : 0 ≤ cfg.emaOldWeight ∧ cfg.emaOldWeight < 1) (positive : 0 ≤ rate)
    (steep : 0 ≤ cfg.maxSlope + rate) (unaided : Unaided t) (known : rt.waPrevMono = some prev)
    (pace : prev < t.now ∧ t.now < prev + 3600)
    (falls : ∀ s ∈ stretch, Falls rate cfg.maxSlope s t)
    (threshold : ∀ room ∈ t.room, t.openThreshold cfg room ≤ limit)
    (converging : Converging cfg rate k stretch rt) :
    Converging cfg rate (k + 1) (stretch ++ [t]) (rt.step cfg t).1 ∧
      (rt.step cfg t).1.waPrevMono = some t.now ∧
      (cfg.minPoints ≤ k + 1 →
        cfg.emaOldWeight ^ (k + 1) * (cfg.maxSlope + rate) + 1 / (2000 * (1 - cfg.emaOldWeight))
          < rate - limit →
        rt.windowAuto.detected = false → (rt.step cfg t).1.windowAuto.detected = true) := by
  obtain ⟨room, v, dtMin, measured, below, usable, next, held, now⟩ :=
    fold_step positive unaided converging.held known pace falls
  have smoothed := ema_converging weight steep converging below
  have rest : 0 < 1 - cfg.emaOldWeight := by linarith [weight.2]
  -- one rounding more: the errors of the roundings sum up geometrically
  have errors : cfg.emaOldWeight * (1 / (2000 * (1 - cfg.emaOldWeight))) + 1 / 2000
      = 1 / (2000 * (1 - cfg.emaOldWeight)) := by
    field_simp
    ring
  have folded := @WindowAutoState.fold_of_usable _ rt.windowAuto _ _ dtMin usable
  refine ⟨⟨held, ?_, ?_⟩, now, ?_⟩
  · rw [next, folded.2]
    exact Nat.succ_le_succ converging.samples
  · have near : roundTo (rt.windowAuto.ema cfg v) 3 ≤ rt.windowAuto.ema cfg v + 1 / 2000 := by
      have close := abs_le.mp (abs_roundTo_sub_le (rt.windowAuto.ema cfg v) 3)
      norm_num at close
      linarith [close.2]
    have stored : (rt.step cfg t).1.windowAuto.emaSlope = roundTo (rt.windowAuto.ema cfg v) 3 := by
      rw [next]
      exact folded.1
    linarith
  · intro ready margin shut
    rw [next, WindowAutoState.step_shut_usable usable shut]
    have samples := converging.samples
    have limited := threshold room measured
    have opened : rt.windowAuto.ema cfg v < -t.openThreshold cfg room := by
      have slack : (0 : ℚ) ≤ 1 / 2000 := by norm_num
      linarith
    exact decide_eq_true ⟨by show cfg.minPoints ≤ _; omega, opened⟩

theorem detected_run {k : ℕ} {done later : List WindowTick} {rate last limit : ℚ}
    (weight : 0 ≤ cfg.emaOldWeight ∧ cfg.emaOldWeight < 1) (positive : 0 ≤ rate)
    (steep : 0 ≤ cfg.maxSlope + rate) (unaided : ∀ t ∈ later, Unaided t)
    (known : rt.waPrevMono = some last) (paced : TickPaced (last :: later.map (·.now)))
    (falls : (done ++ later).Pairwise (Falls rate cfg.maxSlope))
    (threshold : ∀ t ∈ later, ∀ room ∈ t.room, t.openThreshold cfg room ≤ limit)
    (nonempty : later ≠ []) (enough : cfg.minPoints ≤ k + later.length)
    (margin : cfg.emaOldWeight ^ (k + later.length) * (cfg.maxSlope + rate)
      + 1 / (2000 * (1 - cfg.emaOldWeight)) < rate - limit)
    (converging : Converging cfg rate k done rt) (shut : rt.windowAuto.detected = false) :
    ∃ g ∈ trace (WindowRuntime.step cfg) rt later, g.post.windowAuto.detected = true := by
  induction later generalizing rt k done last with
  | nil => exact absurd rfl nonempty
  | cons t later ih =>
    simp only [TickPaced, List.map_cons, List.isChain_cons_cons] at paced
    have before : ∀ s ∈ done, Falls rate cfg.maxSlope s t := fun s member =>
      (List.pairwise_append.mp falls).2.2 s member t (by simp)
    obtain ⟨next, now, alarm⟩ := converging_step weight positive steep (unaided t (by simp)) known
      paced.1 before (threshold t (by simp)) converging
    simp only [trace, List.exists_mem_cons_iff, Step.of_post]
    cases open' : (rt.step cfg t).1.windowAuto.detected with
    | true => exact Or.inl rfl
    | false =>
      right
      cases later with
      | nil =>
        -- the last tick of the stretch must have opened
        exact absurd (alarm enough margin shut) (by simp [open'])
      | cons u later =>
        have count : k + 1 + (u :: later).length = k + (t :: u :: later).length := by
          simp only [List.length_cons]
          omega
        exact ih (fun s member => unaided s (List.mem_cons_of_mem t member)) now paced.2
          (by rwa [List.append_assoc]) (fun s member => threshold s (List.mem_cons_of_mem t member))
          (by simp) (by rwa [count]) (by rwa [count]) next open'

/-- A room that keeps falling faster than the threshold is reported, whatever the detector had
smoothed before: within the samples that forget the steepest slope. -/
theorem steady_fall_is_detected {rate limit : ℚ}
    (weight : 0 ≤ cfg.emaOldWeight ∧ cfg.emaOldWeight < 1)
    (grid : roundTo cfg.maxSlope 3 = cfg.maxSlope) (nonneg : 0 ≤ cfg.maxSlope) (positive : 0 ≤ rate)
    {before after : List (Step WindowRuntime WindowTick (Option Bool))}
    {f : Step WindowRuntime WindowTick (Option Bool)}
    (stretch : before ++ f :: after <+: trace (WindowRuntime.step cfg) {} ticks)
    (anchor : f.input.room.isSome ∧ f.post.waRefRoom = f.input.room ∧
      f.post.waRefMono = some f.input.now)
    (unaided : ∀ g ∈ after, Unaided g.input)
    (falls : ((f :: after).map Step.input).Pairwise (Falls rate cfg.maxSlope))
    (paced : TickPaced ((f :: after).map (·.input.now)))
    (threshold : ∀ g ∈ after, ∀ room ∈ g.input.room, g.input.openThreshold cfg room ≤ limit)
    (nonempty : after ≠ []) (enough : cfg.minPoints ≤ after.length)
    (margin : cfg.emaOldWeight ^ after.length * (cfg.maxSlope + rate)
      + 1 / (2000 * (1 - cfg.emaOldWeight)) < rate - limit) :
    ∃ g ∈ f :: after, g.post.windowAuto.detected = true := by
  have bounded : f.post.windowAuto.emaSlope ≤ cfg.maxSlope :=
    (invariant_of_mem (WindowRuntime.step cfg)
      (fun s : WindowRuntime => s.windowAuto.emaSlope ≤ cfg.maxSlope) nonneg
      (fun s t kept => emaSlope_le ⟨weight.1, weight.2.le⟩ grid t nonneg kept)
      (stretch.subset (by simp : f ∈ before ++ f :: after))).2
  obtain ⟨here, js, rfl⟩ := after_trace _ stretch
  cases shut : f.post.windowAuto.detected with
  | true => exact ⟨f, by simp, shut⟩
  | false =>
    obtain ⟨room, measured⟩ := Option.isSome_iff_exists.mp anchor.1
    have since : f.post.waPrevMono = some f.input.now := by
      have mono := anchor.2.2
      rw [here, Step.of_post] at mono ⊢
      cases healthy : f.input.sensorHealthy with
      | true =>
        rw [WindowRuntime.step_healthy measured healthy] at mono
        exact absurd mono nofun
      | false =>
        rw [WindowRuntime.step_unsensed measured healthy]
        rfl
    have count : (trace (WindowRuntime.step cfg) f.post js).length = js.length := by
      conv_rhs => rw [← trace_map_input (WindowRuntime.step cfg) f.post js, List.length_map]
    rw [List.map_cons, trace_map_input] at falls
    rw [List.map_cons, map_of_input (WindowRuntime.step cfg) (·.now)] at paced
    rw [count] at enough margin
    have start : Converging cfg rate 0 [f.input] f.post := by
      refine ⟨⟨f.input, by simp, room, measured, ?_, anchor.2.2⟩, Nat.zero_le _, ?_⟩
      · rw [anchor.2.1, measured]
      · have rest : 0 < 2000 * (1 - cfg.emaOldWeight) := by linarith [weight.2]
        have error := (one_div_pos.mpr rest).le
        rw [pow_zero, one_mul]
        linarith
    obtain ⟨g, member, detected⟩ := detected_run weight positive (by linarith)
      ((forall_input_iff _ Unaided _ _).mp unaided) since paced falls
      ((forall_input_iff _ (fun t : WindowTick => ∀ room ∈ t.room, t.openThreshold cfg room ≤ limit)
        _ _).mp threshold)
      (fun empty => nonempty (by rw [empty]; rfl)) (by rwa [Nat.zero_add]) (by rwa [Nat.zero_add])
      start shut
    exact ⟨g, List.mem_cons_of_mem f member, detected⟩

/-! ### A draught and a cool evening -/

/-- A minute's tick of a room without contacts. -/
def bareTick (minute room : ℚ) : WindowTick := { now := 60 * minute, room := some room, tOut := 5 }

/-- A room that loses a fifth of a kelvin each minute. -/
def draught : List WindowTick :=
  [bareTick 1 20.8, bareTick 2 20.6, bareTick 3 20.4, bareTick 4 20.2]

theorem draught_is_brief :
    let f := Step.of (WindowRuntime.step {})
      (final (WindowRuntime.step {}) {} (bareTick 0 21 :: draught.take 3)) (bareTick 4 20.2)
    let e := Step.of (WindowRuntime.step {}) f.post (bareTick 5 20.1)
    f.post.windowAuto.detected = true ∧ e.post.windowAuto.detected = true ∧
      e.input.now - f.input.now < 60 * 30 :=
  ⟨by decide +kernel, by decide +kernel,
    @detection_is_brief {} {} (bareTick 0 21 :: draught ++ [bareTick 5 20.1]) (by decide +kernel)
      WindowAutoState.settled_fresh
      (trace (WindowRuntime.step {}) {} (bareTick 0 21 :: draught.take 3)) _
      (Step.of (WindowRuntime.step {})
        (final (WindowRuntime.step {}) {} (bareTick 0 21 :: draught.take 3)) (bareTick 4 20.2))
      List.prefix_rfl (by decide +kernel) (by decide +kernel) (by decide +kernel) _
      (List.mem_singleton_self _)⟩

theorem draught_is_detected :
    ∃ g ∈ trace (WindowRuntime.step {}) {} (bareTick 0 21 :: draught),
      g.post.windowAuto.detected = true :=
  @steady_fall_is_detected {} (bareTick 0 21 :: draught) 12 3 (by decide +kernel)
    (by decide +kernel) (by decide +kernel) (by decide +kernel) []
    (trace (WindowRuntime.step {}) (final (WindowRuntime.step {}) {} [bareTick 0 21]) draught)
    (Step.of (WindowRuntime.step {}) {} (bareTick 0 21)) List.prefix_rfl (by decide +kernel)
    (by decide +kernel) (by decide +kernel) (by decide +kernel) (by decide +kernel)
    (by simp [draught, trace]) (by decide +kernel) (by decide +kernel)

/-- A room that loses two kelvin an hour, the time constant learned. -/
def coolEvening : List WindowTick :=
  [{ bareTick 0 21 with identified := true, tauHours := 10 },
    { bareTick 6 20.8 with identified := true, tauHours := 10 },
    { bareTick 12 20.6 with identified := true, tauHours := 10 },
    { bareTick 18 20.4 with identified := true, tauHours := 10 },
    { bareTick 24 20.2 with identified := true, tauHours := 10 }]

theorem cool_evening_is_quiet :
    let run := trace (WindowRuntime.step {}) {} coolEvening
    run.length = 5 ∧ ∀ e ∈ run, e.post.windowAuto.detected = false ∧
      e.output = e.input.room.map fun _ => !e.input.bypass && e.input.sensorOpen :=
  ⟨rfl, @no_false_alarm {} coolEvening 2 (by decide +kernel) (by decide +kernel)
    (by decide +kernel) (by decide +kernel)⟩

end Poise
