import Mathlib.Data.List.Basic
import Mathlib.Data.Nat.Cast.Defs
import Mathlib.Order.Lattice

/-!
# Trust in the time constant

`estimation/tau_trust.py`: hourly minima and maxima of the learned τ since the last
reset. A τ that is not finite is `none`. The numbers are of any type with an order, a sum and a
quotient, so that the sums may round as the program's do.
-/
namespace Poise

variable {K : Type*} [LinearOrder K] [Zero K] [One K] [Add K] [Div K] [NatCast K]

def trustWindowH : K := ((24 : ℕ) : K)

def trustMaxRatio : K := ((2 : ℕ) : K)

def nearBoundTauHighH : K := ((150 : ℕ) : K)

def nearBoundTauLowH : K := 1

def tauBucketH : K := 1

def maxBuckets : ℕ := 24

-- A longer gap is not observed time.
def maxTauStepH : K := 1 / ((6 : ℕ) : K)

/-- τ at or near the clamp, or not finite. -/
def nearBound (tauH : Option K) : Bool :=
  match tauH with
  | none => true
  | some tau => decide (nearBoundTauHighH ≤ tau) || decide (tau ≤ nearBoundTauLowH)

/-- The rolling record; a bucket is its least and its largest τ, the newest last. -/
structure TauTrust (K : Type*) [Zero K] where
  cleanH : K := 0
  bucketH : K := 0
  window : List (K × K) := []
  deriving DecidableEq

namespace TauTrust

/-- The largest over the least τ of the window; `none` is infinite. -/
def spreadRatio (t : TauTrust K) : Option K :=
  match t.window with
  | [] => none
  | first :: rest =>
    let lo := rest.foldl (fun m b => min m b.1) first.1
    let hi := rest.foldl (fun m b => max m b.2) first.2
    if 0 < lo then some (hi / lo) else none

def trusted (t : TauTrust K) : Bool :=
  decide (trustWindowH ≤ t.cleanH) && t.spreadRatio.any (· ≤ trustMaxRatio)

def keepBuckets (window : List (K × K)) : List (K × K) :=
  window.drop (window.length - maxBuckets)

/-! ### Storage -/

/-- The stored record; `none` is an absent key. -/
structure Payload (K : Type*) where
  cleanH : Option K := none
  bucketH : Option K := none
  window : Option (List (List K)) := none

def toDict (t : TauTrust K) : Payload K where
  cleanH := some t.cleanH
  bucketH := some t.bucketH
  window := some (t.window.map fun b => [b.1, b.2])

def bucketOfRow (row : List K) : Option (K × K) :=
  match row with
  | lo :: hi :: _ => some (lo, hi)
  | _ => none

/-- Restore; `none` is data that is no mapping of finite numbers. -/
def fromDict (data : Option (Payload K)) : TauTrust K :=
  match data with
  | none => {}
  | some data =>
    match (data.window.getD []).mapM bucketOfRow with
    | none => {}
    | some window =>
      let cleanH := data.cleanH.getD 0
      if cleanH < 0 then {}
      else ⟨cleanH, max 0 (data.bucketH.getD 0), keepBuckets window⟩

end TauTrust

/-- The observed part of a time step. -/
def tauStep (dtH : K) : K := min (max 0 dtH) maxTauStepH

/-- Fold a τ into the newest bucket, or open the next one. -/
def foldBucket (window : List (K × K)) (opens : Bool) (tau : K) : List (K × K) :=
  match window.getLast? with
  | some (lo, hi) =>
    if opens then window ++ [(tau, tau)] else window.dropLast ++ [(min lo tau, max hi tau)]
  | none => [(tau, tau)]

/-- Fold one τ after an update into the record. -/
def observeTau (prev : TauTrust K) (tauH : Option K) (dtH : K) (reset : Bool) : TauTrust K :=
  match tauH with
  | none => {}
  | some tau =>
    if reset || nearBound (some tau) then {}
    else
      let opens := prev.window.isEmpty || decide (tauBucketH ≤ prev.bucketH)
      { cleanH := prev.cleanH + tauStep dtH
        bucketH := (if opens then 0 else prev.bucketH) + tauStep dtH
        window := TauTrust.keepBuckets (foldBucket prev.window opens tau) }

end Poise
