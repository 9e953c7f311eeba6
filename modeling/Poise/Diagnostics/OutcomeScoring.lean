import Poise.Foundation.Rounding

/-!
# Outcome scoring

`control/outcome_scoring.py`: a heating session locks its target when it opens, follows peak and
minutes, and is scored when it ends; the scores of the controlled and of the observed sessions are
averaged apart.
-/
namespace Poise

open Rounding

structure ScoreConfig where
  wReached : ℚ := 0.40
  wSpeed : ℚ := 0.35
  wAccuracy : ℚ := 0.25
  overshootScale : ℚ := 2.0
  -- Free heat makes a result less reliable.
  solarFloor : ℚ := 0.60
  solarKnee : ℚ := 0.4
  solarRange : ℚ := 2.0
  warmFloor : ℚ := 0.70
  warmKnee : ℚ := 15.0
  warmRange : ℚ := 25.0
  -- Hard weather makes the speed score lenient.
  coldOutdoor : ℚ := -5.0
  coldFactor : ℚ := 1.40
  windThr : ℚ := 10.0
  windFactor : ℚ := 1.25
  humidThr : ℚ := 80.0
  humidFactor : ℚ := 1.10
  rainFactor : ℚ := 1.10
  neutralSpeed : ℚ := 0.6
  minExpected : ℚ := 5.0
  reachDelta : ℚ := 0.5
  startDelta : ℚ := 0.5
  timeoutMin : ℚ := 90.0
  minSessionMin : ℚ := 3.0

/-- Why a session ended. -/
inductive EndReason where
  | reached
  | timeout
  | interrupt
  deriving DecidableEq, Repr

/-- Who heated: Poise, or the device on its own. -/
inductive ScoreTag where
  | ts
  | obs
  deriving DecidableEq, Repr

/-! ### The score of a session -/

/-- `_clamp01` -/
def scoreClamp01 (x : ℚ) : ℚ := min 1 (max 0 x)

def reachedScore (reason : EndReason) (startTemp endTemp peakTemp target : ℚ) : ℚ :=
  let deltaTotal := target - startTemp
  if deltaTotal ≤ 0 ∨ reason = .reached then 1
  else
    let ref := if reason = .interrupt then peakTemp else endTemp
    scoreClamp01 ((ref - startTemp) / deltaTotal)

/-- The weather of a session. -/
structure ScoreWeather where
  outdoor : ℚ := 10.0
  wind : ℚ := 0
  humidity : ℚ := 0
  rain : Bool := false

def ScoreWeather.difficulty (cfg : ScoreConfig) (w : ScoreWeather) : ℚ :=
  (if w.outdoor < cfg.coldOutdoor then cfg.coldFactor else 1) *
    (if cfg.windThr < w.wind then cfg.windFactor else 1) *
    (if cfg.humidThr < w.humidity then cfg.humidFactor else 1) *
    (if w.rain then cfg.rainFactor else 1)

def speedScore (cfg : ScoreConfig) (minutesTaken expectedMinutes : ℚ) (w : ScoreWeather) : ℚ :=
  if expectedMinutes ≤ cfg.minExpected then cfg.neutralSpeed
  else
    let ratio := minutesTaken / (expectedMinutes * w.difficulty cfg)
    if ratio ≤ 1 then 1
    else if ratio ≤ 2 then 1 - (ratio - 1) * 0.7
    else max 0.05 (0.3 - (ratio - 2) * 0.1)

def accuracyScore (cfg : ScoreConfig) (peakTemp target : ℚ) : ℚ :=
  let overshoot := max 0 (peakTemp - target)
  max 0 (1 - overshoot / cfg.overshootScale)

def envDiscount (cfg : ScoreConfig) (qSolar outdoor : ℚ) : ℚ :=
  let sd := if cfg.solarKnee < qSolar then
      max cfg.solarFloor (1 - (qSolar - cfg.solarKnee) / cfg.solarRange)
    else 1
  let wd := if cfg.warmKnee < outdoor then
      max cfg.warmFloor (1 - (outdoor - cfg.warmKnee) / cfg.warmRange)
    else 1
  sd * wd

/-- What a score is made of. -/
structure ScoreInput where
  reason : EndReason
  startTemp : ℚ
  endTemp : ℚ
  peakTemp : ℚ
  target : ℚ
  minutesTaken : ℚ
  expectedMinutes : ℚ
  qSolar : ℚ := 0
  weather : ScoreWeather := {}

def ScoreInput.raw (cfg : ScoreConfig) (i : ScoreInput) : ℚ :=
  cfg.wReached * reachedScore i.reason i.startTemp i.endTemp i.peakTemp i.target +
    cfg.wSpeed * speedScore cfg i.minutesTaken i.expectedMinutes i.weather +
    cfg.wAccuracy * accuracyScore cfg i.peakTemp i.target

def outcomeScore (cfg : ScoreConfig) (i : ScoreInput) : ℚ :=
  roundTo (scoreClamp01 (i.raw cfg * envDiscount cfg i.qSolar i.weather.outdoor)) 3

def sessionEndReason (cfg : ScoreConfig) (temp target elapsedMin : ℚ) (heating : Bool) :
    Option EndReason :=
  if target - temp ≤ cfg.reachDelta then some .reached
  else if cfg.timeoutMin ≤ elapsedMin then some .timeout
  else if heating = false then some .interrupt
  else none

/-! ### The averages -/

structure OutcomeStats where
  tsSum : ℚ := 0
  tsN : ℕ := 0
  obsSum : ℚ := 0
  obsN : ℕ := 0
  lastScore : Option ℚ := none
  deriving DecidableEq, Repr

namespace OutcomeStats

def observe (s : OutcomeStats) (score : ℚ) : ScoreTag → OutcomeStats
  | .obs => { s with obsSum := s.obsSum + score, obsN := s.obsN + 1, lastScore := some score }
  | .ts => { s with tsSum := s.tsSum + score, tsN := s.tsN + 1, lastScore := some score }

def tsAvg (s : OutcomeStats) : Option ℚ :=
  if s.tsN = 0 then none else some (roundTo (s.tsSum / s.tsN) 3)

def obsAvg (s : OutcomeStats) : Option ℚ :=
  if s.obsN = 0 then none else some (roundTo (s.obsSum / s.obsN) 3)

end OutcomeStats

/-! ### The open session -/

structure FinishedSession where
  score : ℚ
  controller : ScoreTag
  deriving DecidableEq, Repr

structure OutcomeSession where
  active : Bool := false
  startTemp : ℚ := 0
  peakTemp : ℚ := 0
  target : ℚ := 0
  elapsedMin : ℚ := 0
  expectedMinutes : ℚ := 0
  controller : ScoreTag := .ts
  deriving DecidableEq, Repr

structure SessionTick where
  temp : ℚ
  target : ℚ
  heating : Bool
  controlling : Bool
  dtMin : ℚ
  expectedMinutes : ℚ
  qSolar : ℚ := 0
  outdoor : ℚ := 10.0

def OutcomeSession.started (t : SessionTick) : OutcomeSession where
  active := true
  startTemp := t.temp
  peakTemp := t.temp
  target := t.target
  expectedMinutes := max 0 t.expectedMinutes
  controller := if t.controlling then .ts else .obs

/-- `observe_session` -/
def observeSession (cfg : ScoreConfig) (session : OutcomeSession) (t : SessionTick) :
    OutcomeSession × Option FinishedSession :=
  if session.active = false then
    if t.heating ∧ cfg.startDelta < t.target - t.temp then (.started t, none)
    else (session, none)
  else
    let elapsed := session.elapsedMin + t.dtMin
    let peak := max session.peakTemp t.temp
    match sessionEndReason cfg t.temp session.target elapsed t.heating with
    | none => ({ session with peakTemp := peak, elapsedMin := elapsed }, none)
    | some reason =>
      if elapsed < cfg.minSessionMin then ({}, none)
      else
        let score := outcomeScore cfg
          { reason
            startTemp := session.startTemp
            endTemp := t.temp
            peakTemp := peak
            target := session.target
            minutesTaken := elapsed
            expectedMinutes := session.expectedMinutes
            qSolar := t.qSolar
            weather := { outdoor := t.outdoor } }
        ({}, some { score, controller := session.controller })

end Poise
