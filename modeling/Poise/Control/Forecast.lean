import Mathlib.Data.List.Sort
import Mathlib.Data.Prod.Lex
import Poise.Foundation.PiecewiseLinear

/-!
# The outdoor forecast

`mean_forecast_outdoor` and `forecast_samples_from_response` of
`control/optimal_start.py`, and the cache of `ha/forecast_provider.py`. Instants are
seconds of one clock, the sample offsets are minutes.
-/
namespace Poise

open PiecewiseLinear

variable {K : Type*} [Field K] [LinearOrder K]

/-! ### The mean -/

def sortSamples (samples : List (K × K)) : List (K × K) :=
  samples.insertionSort fun a b => toLex a ≤ toLex b

/-- The temperature `m` minutes ahead, from the sorted samples. -/
def tempAt (pts : List (K × K)) (m : K) : K :=
  match pts.head?, pts.getLast? with
  | some first, some last =>
    if m ≤ first.1 then first.2
    else if last.1 ≤ m then last.2
    else
      match (pts.zip pts.tail).find? fun pair => pair.1.1 ≤ m && m ≤ pair.2.1 with
      | some (a, b) =>
        if b.1 = a.1 then a.2
        else
          let frac := (m - a.1) / (b.1 - a.1)
          a.2 + frac * (b.2 - a.2)
      | none => last.2
  -- not reached: the mean asks a curve that has samples
  | _, _ => 0

def breaks (pts : List (K × K)) (horizonMin : K) : List K :=
  (0 :: horizonMin :: (pts.map (·.1)).filter fun m => 0 < m && m < horizonMin).dedup.insertionSort
    (· ≤ ·)

/-- The mean of the curve over the next `horizonMin` minutes. -/
def meanForecastOutdoor (samples : List (K × K)) (horizonMin fallback : K) : K :=
  if horizonMin ≤ 0 ∨ samples = [] then fallback
  else
    let pts := sortSamples samples
    trapezoid (tempAt pts) (breaks pts horizonMin) / horizonMin

/-! ### The response -/

/-- One entry of the service response: its instant and its temperature, where they can be
read and are finite. -/
structure ForecastEntry (K : Type*) where
  ts : Option K
  temperature : Option K

def ForecastEntry.sample (base : K) (entry : ForecastEntry K) : Option (K × K) :=
  match entry.ts, entry.temperature with
  | some ts, some temperature =>
    let offset := (ts - base) / 60.0
    -- entries of the past are dropped
    if 0 ≤ offset then some (offset, temperature) else none
  | _, _ => none

/-- `forecast_samples_from_response`: minutes from `base`, entries that say nothing skipped. -/
def forecastSamplesFromResponse (entries : List (ForecastEntry K)) (base : K) : List (K × K) :=
  entries.filterMap (ForecastEntry.sample base)

/-! ### The provider -/

def forecastTtlS : K := 900.0

structure ForecastProvider (K : Type*) where
  forecast : List (K × K) := []
  forecastAt : Option K := none
  failAt : Option K := none
  -- The instant at which the refresh in flight became due.
  refresh : Option K := none

/-- How a round trip ends: when, and with which entries, unless it fails. -/
structure FetchAnswer (K : Type*) where
  finished : K
  entries : Option (List (ForecastEntry K))

namespace ForecastProvider

variable (p : ForecastProvider K)

def due (now : K) : Bool :=
  let stale := p.forecastAt.all fun forecastAt => forecastTtlS ≤ now - forecastAt
  let backedOff := p.failAt.any fun failAt => now - failAt < forecastTtlS
  stale && !backedOff

/-- One round trip that became due at `now`. -/
def fetch (now : K) (answer : FetchAnswer K) : ForecastProvider K :=
  match answer.entries with
  | some entries =>
    -- the offsets count from the end of the round trip, the cache ages from its start
    { p with
      forecast := forecastSamplesFromResponse entries answer.finished
      forecastAt := some now
      failAt := none }
  | none => { p with failAt := some now }

def startRefresh (now : K) : ForecastProvider K :=
  if p.refresh.isSome then p else { p with refresh := some now }

/-- `mean_outdoor`: the provider after the call, the value, and the instant of its return.
Only a cold cache waits for the answer. -/
def meanOutdoor (now : K) (weather : Bool) (horizonMin fallback : K) (answer : FetchAnswer K) :
    ForecastProvider K × K × K :=
  if ¬ weather then (p, fallback, now)
  else
    let cold := p.due now && p.forecast.isEmpty
    let after :=
      if cold then p.fetch now answer
      else if p.due now then p.startRefresh now
      else p
    (after, meanForecastOutdoor after.forecast horizonMin fallback,
      if cold then answer.finished else now)

end ForecastProvider

/-! ### Runs -/

inductive ForecastEvent (K : Type*) where
  | call (now : K) (weather : Bool) (horizonMin fallback : K) (answer : FetchAnswer K)
  -- The refresh in flight, if any, ends.
  | refreshed (answer : FetchAnswer K)
  | closed

/-- The provider, and the instant from which the offsets of its forecast count, which the
code does not keep. -/
structure ForecastRun (K : Type*) where
  provider : ForecastProvider K := {}
  sampledAt : Option K := none

def FetchAnswer.sampledAt (answer : FetchAnswer K) (before : Option K) : Option K :=
  if answer.entries.isSome then some answer.finished else before

/-- What a call answered, and when. -/
structure ForecastReply (K : Type*) where
  value : K
  returned : K

def forecastStep (run : ForecastRun K) :
    ForecastEvent K → ForecastRun K × Option (ForecastReply K)
  | .call now weather horizonMin fallback answer =>
    let p := run.provider
    let (after, value, returned) := p.meanOutdoor now weather horizonMin fallback answer
    let fetched := weather && p.due now && p.forecast.isEmpty
    (⟨after, if fetched then answer.sampledAt run.sampledAt else run.sampledAt⟩,
      some ⟨value, returned⟩)
  | .refreshed answer =>
    match run.provider.refresh with
    | some now =>
      (⟨{ run.provider.fetch now answer with refresh := none }, answer.sampledAt run.sampledAt⟩,
        none)
    | none => (run, none)
  | .closed => ({ run with provider := { run.provider with refresh := none } }, none)

end Poise
