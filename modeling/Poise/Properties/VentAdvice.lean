import Poise.Comfort.VentEpisode
import Poise.Foundation.Trace
import Mathlib.Tactic.Linarith

/-!
# The window contact and the advice

A standing request meets a contact that reports its window open, with the physical
inputs of the request. `advice_inverted_iff` says for which inputs the machine keeps
its word: two close rules of the table read quantities no open rule has looked at.
-/
namespace Poise

open VentilationInput

/-- One tick as a machine over runs. -/
def episodeTick (cfg : EpisodeConfig) (s : EpisodeState) (i : EpisodeInput) :
    EpisodeState × EpisodeResult :=
  ((episodeStep cfg i s).state, episodeStep cfg i s)

/-- The tick carries this verdict of the rule table. -/
def EpisodeInput.Answers (tick : EpisodeInput) (advice : VentilationAdvice) : Prop :=
  tick.action = advice.action ∧ tick.reason = advice.reason ∧ tick.level = advice.level

/-- The advice of the table for a closed window and no episode. -/
def restingAdvice (vcfg : VentConfig) (x : VentilationInput) (idle : EpisodeState) :
    VentilationAdvice :=
  ventilationAdvise vcfg x (oracleWindowOpen .closed) (oracleFlags idle)

/-- The table opened for `r` on an idle zone, the machine turned that into a request
owned by `r`, and after `later` more ticks the request still stands. -/
structure StandingRequest (cfg : EpisodeConfig) (vcfg : VentConfig) (x : VentilationInput)
    (idle : EpisodeState) (asks : EpisodeInput) (later : List EpisodeInput) (r : VentReason) :
    Prop where
  phase : idle.phase = .idle
  opens : (restingAdvice vcfg x idle).action = .openWindow
  reason : (restingAdvice vcfg x idle).reason = r
  answers : asks.Answers (restingAdvice vcfg x idle)
  requested : (episodeStep cfg asks idle).state.phase = .requested
  owned : (episodeStep cfg asks idle).state.owner = r
  stands : (Trace.final (episodeTick cfg) idle (asks :: later)).phase = .requested
  owner : (Trace.final (episodeTick cfg) idle (asks :: later)).owner = r

def FreshOpenContact (cfg : EpisodeConfig) (tick : EpisodeInput) : Prop :=
  tick.window = .opened ∧ tick.windowSource = .contact ∧
    tick.windowAgeMin.any (cfg.windowStaleAfterMin < ·) = false

/-- Mould dries first, or the room is above its thermal floor and the walls do not ask for
warmth against an over-safe humidity that no airing of its own is already lowering. -/
def Uninverted (vcfg : VentConfig) (x : VentilationInput) : Prop :=
  x.moldRisk vcfg ∨
    x.roomAtThermalFloor = false ∧
      ((x.surfaceNeedsWarmer && x.overSafe) = false ∨ x.protectReasonValid vcfg false ∨
        x.moistureReasonValid vcfg false ∧ x.freeCooling vcfg false = false)

/-! ### The open rules -/

/-- Which open rule wins, and that no rule above it does. -/
inductive OpensFor (vcfg : VentConfig) (x : VentilationInput) : VentReason → Prop
  | moldRisk (mould : x.moldRisk vcfg) : OpensFor vcfg x .moldRisk
  | moistureProtect (protect : x.protectReasonValid vcfg false) :
      OpensFor vcfg x .moistureProtect
  | heatOut (safe : x.protectReasonValid vcfg false = false) (free : x.freeCooling vcfg false) :
      OpensFor vcfg x .heatOut
  | moistureOut (safe : x.protectReasonValid vcfg false = false)
      (warm : x.freeCooling vcfg false = false) (moist : x.moistureReasonValid vcfg false) :
      OpensFor vcfg x .moistureOut
  | co2 (safe : x.protectReasonValid vcfg false = false)
      (warm : x.freeCooling vcfg false = false)
      (dry : x.moistureReasonValid vcfg false = false) (stale : x.co2Due vcfg) :
      OpensFor vcfg x .co2

theorem opensFor_of_advice {vcfg : VentConfig} {x : VentilationInput}
    (opens : (ventilationAdvise vcfg x false {}).action = .openWindow) :
    OpensFor vcfg x (ventilationAdvise vcfg x false {}).reason ∧
      (x.moldRisk vcfg ∨ (x.tooDry vcfg && x.outsideDrier) = false) := by
  simp only [ventilationAdvise, Bool.false_and, Bool.false_eq_true, if_false] at opens ⊢
  split at opens
  next mould => simp only [mould, if_true]; exact ⟨.moldRisk mould, .inl trivial⟩
  next sound =>
    split at opens
    next => cases opens
    next moistAir =>
      refine ⟨?_, .inr (by simpa only [Bool.not_eq_true] using moistAir)⟩
      simp only [sound, moistAir]
      split at opens
      next protect => simp only [protect, if_true]; exact .moistureProtect protect
      next safe =>
        rw [Bool.not_eq_true] at safe
        split at opens
        next free => simp only [safe, free, if_true]; exact .heatOut safe free
        next warm =>
          rw [Bool.not_eq_true] at warm
          split at opens
          next moist => simp only [safe, warm, moist, if_true]; exact .moistureOut safe warm moist
          next dry =>
            rw [Bool.not_eq_true] at dry
            split at opens
            next stale =>
              simp only [safe, warm, dry, stale, if_true]
              exact .co2 safe warm dry stale
            next => cases opens

/-! ### The hysteresis only widens a running airing -/

section Widening

variable {vcfg : VentConfig} {x : VentilationInput}

theorem any_of_le {o : Option ℚ} {on off : ℚ} (lower : off ≤ on) (held : o.any (on ≤ ·)) :
    o.any (off ≤ ·) := by
  cases o with
  | none => cases held
  | some v => exact decide_eq_true (lower.trans (of_decide_eq_true held))

theorem moistureReasonValid_running (lower : vcfg.deltaOffGm3 ≤ vcfg.deltaOnGm3)
    (valid : x.moistureReasonValid vcfg false) : x.moistureReasonValid vcfg true := by
  simp only [moistureReasonValid, Bool.false_eq_true, if_false, if_true, Bool.and_eq_true]
    at valid ⊢
  obtain ⟨⟨⟨⟨occupied, gain⟩, moist⟩, humid⟩, unprotected⟩ := valid
  exact ⟨⟨⟨⟨occupied, any_of_le lower gain⟩, moist⟩, humid⟩, unprotected⟩

theorem protectReasonValid_running (lower : vcfg.deltaOffGm3 ≤ vcfg.deltaOnGm3)
    (valid : x.protectReasonValid vcfg false) : x.protectReasonValid vcfg true := by
  simp only [protectReasonValid, Bool.false_eq_true, if_false, if_true, Bool.and_eq_true]
    at valid ⊢
  exact ⟨⟨valid.1.1, any_of_le lower valid.1.2⟩, valid.2⟩

theorem freeCooling_running (lower : vcfg.heatOutDtOffK ≤ vcfg.heatOutDtOnK)
    (valid : x.freeCooling vcfg false) : x.freeCooling vcfg true := by
  simp only [freeCooling, Bool.false_eq_true, if_false, if_true] at valid ⊢
  split at valid
  next delta room edge tOut _ _ _ _ =>
    simp only [Bool.and_eq_true, decide_eq_true_eq] at valid ⊢
    obtain ⟨⟨guards, drop⟩, humid⟩ := valid
    exact ⟨⟨guards, by linarith⟩, humid⟩
  next => cases valid

end Widening

/-! ### The table behind an open window -/

theorem advice_open_iff {vcfg : VentConfig} {x : VentilationInput} {flags : OracleFlags} :
    (ventilationAdvise vcfg x true flags).action = .openWindow ↔
      x.moldRisk vcfg ∨
        (!x.ownAiringRunning vcfg flags && x.surfaceNeedsWarmer && x.overSafe) = false ∧
        (x.tooDry vcfg && x.outsideDrier) = false ∧ x.roomAtThermalFloor = false ∧
        (x.protectReasonValid vcfg flags.prevMoistureProtect ∨
          (flags.prevMoistureProtect &&
            !x.moistureReasonValid vcfg flags.prevAdviceActive) = false ∧
          (x.freeCooling vcfg flags.prevHeatOut ∨
            x.moistureReasonValid vcfg flags.prevAdviceActive ∨ x.co2Due vcfg)) := by
  unfold ventilationAdvise
  -- one rule of the table after the other
  by_cases mould : x.moldRisk vcfg
  · simp only [mould, if_true, true_or]
  · rw [Bool.not_eq_true] at mould
    simp only [mould, Bool.true_and, Bool.false_eq_true, if_false, if_true, false_or]
    cases guard : (!x.ownAiringRunning vcfg flags && x.surfaceNeedsWarmer && x.overSafe) with
    | true => simp
    | false =>
      cases dry : (x.tooDry vcfg && x.outsideDrier) with
      | true => simp
      | false =>
        cases cold : x.roomAtThermalFloor with
        | true => simp
        | false =>
          simp only [Bool.false_eq_true, if_false, true_and]
          cases x.protectReasonValid vcfg flags.prevMoistureProtect with
          | true => simp
          | false =>
            cases (flags.prevMoistureProtect &&
                !x.moistureReasonValid vcfg flags.prevAdviceActive) with
            | true => simp
            | false =>
              cases x.freeCooling vcfg flags.prevHeatOut with
              | true => simp
              | false =>
                cases x.moistureReasonValid vcfg flags.prevAdviceActive with
                | true => simp
                | false =>
                  cases x.co2Due vcfg with
                  | true => simp
                  | false =>
                    simp only [Bool.false_eq_true, if_false, or_self, and_false, iff_false]
                    split
                    next => exact fun opens => by cases opens
                    next => split <;> exact fun opens => by cases opens

/-- The flags of a request that `r` owns. -/
def requestFlags (r : VentReason) : OracleFlags where
  prevAdviceActive := true
  prevMoistureAiring := decide (r ∈ [.moistureOut, .moldRisk])
  prevMoistureProtect := decide (r = .moistureProtect)
  prevHeatOut := decide (r = .heatOut)

theorem oracleFlags_requested {s : EpisodeState} (requested : s.phase = .requested) :
    oracleFlags s = requestFlags s.owner := by
  simp [oracleFlags, requestFlags, requested]

theorem advice_stays_open_iff {vcfg : VentConfig} {x : VentilationInput} {r : VentReason}
    (moistureBand : vcfg.deltaOffGm3 ≤ vcfg.deltaOnGm3)
    (heatBand : vcfg.heatOutDtOffK ≤ vcfg.heatOutDtOnK) (rule : OpensFor vcfg x r)
    (moistAir : x.moldRisk vcfg ∨ (x.tooDry vcfg && x.outsideDrier) = false) :
    (ventilationAdvise vcfg x true (requestFlags r)).action = .openWindow ↔
      Uninverted vcfg x := by
  rw [advice_open_iff, Uninverted]
  rcases moistAir with mould | notDry
  · simp only [mould, true_or]
  · simp only [notDry, true_and]
    cases rule with
    | moldRisk mould => simp only [mould, true_or]
    | moistureProtect protect =>
      -- its own airing runs, so the mould guard stands down
      have running := protectReasonValid_running moistureBand protect
      simp [requestFlags, ownAiringRunning, running, protect]
    | heatOut safe free =>
      have running := freeCooling_running heatBand free
      simp [requestFlags, ownAiringRunning, running, safe, free, and_comm]
    | moistureOut safe warm moist =>
      have running := moistureReasonValid_running moistureBand moist
      simp [requestFlags, ownAiringRunning, running, safe, warm, moist]
    | co2 safe warm dry stale =>
      simp [requestFlags, ownAiringRunning, safe, warm, dry, stale, and_comm]

/-! ### The published action -/

theorem requested_close_iff {cfg : EpisodeConfig} {tick : EpisodeInput} {stored : EpisodeState}
    (requested : stored.phase = .requested) (isOpen : tick.openish cfg) :
    (episodeStep cfg tick stored).action ≠ .closeWindow ↔ tick.action = .openWindow := by
  have phase : (stored.advance cfg tick).phase = .requested := requested
  simp only [episodeStep, phase, requestedStep, isOpen, if_true, EpisodeInput.wantsOpen,
    decide_eq_true_eq]
  by_cases wants : tick.action = .openWindow
  · simp [wants]
  · by_cases closes : tick.action = .closeWindow
    · simp [closes, asked]
    · simp [wants, closes, airingDone, asked]

theorem freshOpenContact_openish {cfg : EpisodeConfig} {tick : EpisodeInput}
    (isOpen : FreshOpenContact cfg tick) : tick.openish cfg := by
  obtain ⟨reads, contact, young⟩ := isOpen
  simp only [EpisodeInput.openish, EpisodeInput.seen, effectiveWindow, reads, young]
  rfl

/-- With the inputs of a standing request and a contact that freshly measures an open
window, the machine publishes no close exactly when the inputs are `Uninverted`. -/
theorem advice_inverted_iff {cfg : EpisodeConfig} {vcfg : VentConfig} {x : VentilationInput}
    {idle : EpisodeState} {asks tick : EpisodeInput} {later : List EpisodeInput}
    {r : VentReason} (moistureBand : vcfg.deltaOffGm3 ≤ vcfg.deltaOnGm3)
    (heatBand : vcfg.heatOutDtOffK ≤ vcfg.heatOutDtOnK)
    (request : StandingRequest cfg vcfg x idle asks later r)
    (isOpen : FreshOpenContact cfg tick)
    (answers : tick.Answers (ventilationAdvise vcfg x (oracleWindowOpen (tick.seen cfg))
      (oracleFlags (Trace.final (episodeTick cfg) idle (asks :: later))))) :
    (episodeStep cfg tick (Trace.final (episodeTick cfg) idle (asks :: later))).action ≠
        .closeWindow ↔
      Uninverted vcfg x := by
  have isOpenish := freshOpenContact_openish isOpen
  have seen : oracleWindowOpen (tick.seen cfg) = true := isOpenish
  -- the table before the request had no flags, the one behind it has the owner's
  have noFlags : oracleFlags idle = {} := by simp [oracleFlags, request.phase]
  have opens := request.opens
  have reason := request.reason
  simp only [restingAdvice, noFlags, show oracleWindowOpen .closed = false from rfl]
    at opens reason
  obtain ⟨rule, moistAir⟩ := opensFor_of_advice opens
  rw [reason] at rule
  rw [requested_close_iff request.stands isOpenish, answers.1, seen,
    oracleFlags_requested request.stands, request.owner]
  exact advice_stays_open_iff moistureBand heatBand rule moistAir

/-! ### A damp room at its thermal floor -/

/-- Air above what its fabric tolerates, a drier outside, the room at its floor. -/
def dampColdRoom : VentilationInput where
  wInGm3 := some 10
  wOutGm3 := some 5
  surfaceRhMeanPct := some 60
  moldFloorBinding := false
  moldCapped := false
  roomAtThermalFloor := true
  co2Ppm := none
  occupied := true
  rhPct := some 70
  rhMaxSafePct := some 63

def dampAdvice (windowOpen : Bool) (s : EpisodeState) : VentilationAdvice :=
  ventilationAdvise {} dampColdRoom windowOpen (oracleFlags s)

/-- A tick that carries the verdict on the damp room for this contact reading. -/
def dampTick (window : WindowState) (s : EpisodeState) : EpisodeInput where
  action := (dampAdvice window.openish s).action
  reason := (dampAdvice window.openish s).reason
  level := (dampAdvice window.openish s).level
  window := window
  dtMin := 1

/-- The request of the damp room, after its first tick. -/
def dampRequested : EpisodeState := (episodeStep {} (dampTick .closed {}) {}).state

theorem dampRoom_inverted :
    (dampAdvice false {}).action = .openWindow ∧ dampRequested.phase = .requested ∧
      dampRequested.owner = (dampAdvice false {}).reason ∧
      FreshOpenContact {} (dampTick .opened dampRequested) ∧
      (episodeStep {} (dampTick .opened dampRequested) dampRequested).action = .closeWindow := by
  unfold FreshOpenContact
  decide +kernel

theorem dampRoom_requests :
    StandingRequest {} {} dampColdRoom {} (dampTick .closed {}) [] .moistureProtect where
  phase := rfl
  opens := by decide +kernel
  reason := by decide +kernel
  answers := ⟨rfl, rfl, rfl⟩
  requested := by decide +kernel
  owned := by decide +kernel
  stands := by decide +kernel
  owner := by decide +kernel

theorem dampRoom_advice :
    (episodeStep {} (dampTick .opened dampRequested) dampRequested).action ≠ .closeWindow ↔
      Uninverted {} dampColdRoom :=
  advice_inverted_iff (by decide +kernel) (by decide +kernel) dampRoom_requests ⟨rfl, rfl, rfl⟩
    ⟨rfl, rfl, rfl⟩

end Poise
