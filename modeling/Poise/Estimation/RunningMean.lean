import Mathlib.Algebra.Field.Defs
import Mathlib.Data.Rat.Cast.OfScientific

/-!
# The running mean outdoor temperature

`estimation/running_mean.py`: the tracker accumulates the samples of a calendar day and folds the
day's mean into the running mean when the day changes. Days are ordinals; nothing assumes that
they grow.
-/
namespace Poise

variable {K : Type*} [Field K]

/-- The decay of the norm. -/
def runningMeanAlpha : K := 0.8

/-- One-day recursive update. -/
def runningMeanRecursive (prevTRm tOdYesterday alpha : K) : K :=
  (1 - alpha) * tOdYesterday + alpha * prevTRm

def recentDaysCap : ℕ := 7

structure RunningMeanTracker (K : Type*) [Field K] where
  alpha : K := runningMeanAlpha
  tRm : Option K := none
  -- The day that is being accumulated.
  day : Option ℤ := none
  daySum : K := 0
  dayCount : ℕ := 0
  recentDays : List K := []

namespace RunningMeanTracker

def finalizeDay (t : RunningMeanTracker K) (dailyMean : K) : RunningMeanTracker K :=
  { t with
    tRm := some <| match t.tRm with
      | none => dailyMean
      | some prev => runningMeanRecursive prev dailyMean t.alpha
    recentDays := (dailyMean :: t.recentDays).take recentDaysCap }

/-- The first sample seeds the mean; a sample of another day closes the day before it. -/
def rollOver (t : RunningMeanTracker K) (tOut : K) (day : ℤ) : RunningMeanTracker K :=
  match t.day with
  | none => { t with day := some day, tRm := some (t.tRm.getD tOut) }
  | some current =>
    if day ≠ current then
      let t := if 0 < t.dayCount then t.finalizeDay (t.daySum / t.dayCount) else t
      { t with day := some day, daySum := 0, dayCount := 0 }
    else t

def observe (t : RunningMeanTracker K) (tOut : K) (day : ℤ) : RunningMeanTracker K :=
  let t := t.rollOver tOut day
  { t with daySum := t.daySum + tOut, dayCount := t.dayCount + 1 }

end RunningMeanTracker

end Poise
