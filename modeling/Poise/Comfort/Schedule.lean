import Poise.Foundation.Intervals
import Mathlib.Data.Int.Bitwise
import Mathlib.Data.Rat.Defs

/-!
# Comfort schedule

The per-zone comfort windows on a cyclic week and the night setback
(`comfort/schedule.py`). Minutes and day masks are unbounded integers, as in the
source; a schedule is built by `ComfortSchedule.fromWindows` and read by
`ComfortSchedule.stateAt`.
-/
namespace Poise

open Intervals

def dayMinutes : ℤ := 1440
def weekMinutes : ℤ := 7 * dayMinutes
-- Bit 0 is Monday, bit 6 is Sunday.
def allDays : ℤ := 0b1111111

/-- A daily half-open interval `[startMin, endMin)` on the masked days. -/
structure ComfortWindow where
  startMin : ℤ
  endMin : ℤ
  days : ℤ := allDays
  deriving DecidableEq, Repr

/-- The schedule's verdict for one instant; `none` is a transition that does not exist. -/
structure ScheduleState where
  isComfort : Bool
  minutesToComfort : Option ℤ
  setbackOffset : ℚ
  minutesToSetback : Option ℤ
  deriving DecidableEq, Repr

def clampMinute (minute : ℤ) : ℤ := max 0 (min minute dayMinutes)

def ComfortWindow.clamped (w : ComfortWindow) : ComfortWindow :=
  -- Clamp to one day and keep the seven day bits.
  ⟨clampMinute w.startMin, clampMinute w.endMin, Int.land w.days allDays⟩

/-- One iteration of the merge in `_normalize`; the newest window heads the list. -/
def mergeWindow (merged : List ComfortWindow) (w : ComfortWindow) : List ComfortWindow :=
  match merged with
  | [] => [w]
  | prev :: rest =>
    if w.days = prev.days ∧ w.startMin ≤ prev.endMin then
      ⟨prev.startMin, max prev.endMin w.endMin, prev.days⟩ :: rest
    else w :: prev :: rest

/-- `_normalize`: clamp, drop empty windows, merge same-mask overlaps, keep
overnight windows last. -/
def normalize (windows : List ComfortWindow) : List ComfortWindow :=
  let clean := (windows.map ComfortWindow.clamped).filter fun w => w.endMin ≠ w.startMin
  let nonwrap := (clean.filter fun w => w.endMin > w.startMin).insertionSort
    fun a b => a.startMin ≤ b.startMin
  let wrap := clean.filter fun w => w.endMin < w.startMin
  (nonwrap.foldl mergeWindow []).reverse ++ wrap

/-- The intervals one window puts on day `d` of the week axis; a Sunday night
that spills into Monday is split at the end of the week. -/
def dayIntervals (w : ComfortWindow) (d : ℕ) : List (ℤ × ℤ) :=
  let overnight := w.endMin < w.startMin
  if ¬ w.days.testBit d then []
  else
    let s := d * dayMinutes + w.startMin
    let e := (d + if overnight then 1 else 0) * dayMinutes + w.endMin
    if e > weekMinutes then [(s, weekMinutes), (0, e - weekMinutes)] else [(s, e)]

def rawIntervals (windows : List ComfortWindow) : List (ℤ × ℤ) :=
  -- The `raw` list of `_expand`, before empty intervals are dropped.
  windows.flatMap fun w => (List.range 7).flatMap (dayIntervals w)

/-- `_expand`: the sorted, merged week union with the cyclic seam closed. -/
def expand (windows : List ComfortWindow) : List (ℤ × ℤ) :=
  let raw := (rawIntervals windows).filter fun p => decide (p.1 < p.2)
  let sorted := raw.insertionSort fun a b => a.1 < b.1 ∨ a.1 = b.1 ∧ a.2 ≤ b.2
  joinSeam weekMinutes (mergeTouching sorted)

structure ComfortSchedule where
  windows : List ComfortWindow
  setbackDelta : ℚ
  intervals : List (ℤ × ℤ) := expand windows

def ComfortSchedule.fromWindows (windows : List ComfortWindow) (setbackDelta : ℚ) :
    ComfortSchedule :=
  { windows := normalize windows, setbackDelta }

def comfortEnd (intervals : List (ℤ × ℤ)) (wm : ℤ) : Option ℤ :=
  -- The distance to the end of the interval that contains `wm`, probing the closing wrap
  -- interval a second time one week later.
  intervals.findSome? fun p =>
    [wm, wm + weekMinutes].findSome? fun probe =>
      if p.1 ≤ probe ∧ probe < p.2 then some (p.2 - probe) else none

/-- `ComfortSchedule.state_at`: the verdict plus the minutes to the next comfort
start and end. A weekday outside `0..6` is refused. -/
def ComfortSchedule.stateAt (schedule : ComfortSchedule) (minute weekday : ℤ) :
    Except String ScheduleState :=
  if ¬ (0 ≤ weekday ∧ weekday ≤ 6) then
    .error s!"weekday must be 0..6 (Monday=0), got {weekday}"
  else if schedule.windows = [] then .ok ⟨true, none, 0, none⟩
  else if schedule.intervals = [] then .ok ⟨false, none, -schedule.setbackDelta, none⟩
  else if schedule.intervals = [(0, weekMinutes)] then .ok ⟨true, none, 0, none⟩
  else
    let wm := weekday * dayMinutes + minute % dayMinutes
    match comfortEnd schedule.intervals wm with
    | some toSetback => .ok ⟨true, some 0, 0, some toSetback⟩
    | none =>
      let toNext := (schedule.intervals.map fun p => (p.1 - wm) % weekMinutes).min?
      .ok ⟨false, toNext, -schedule.setbackDelta, some 0⟩

-- Saturday and Sunday 22:00-06:00 meet across the week's end: Sunday 23:00 is 420 minutes
-- from the Monday 06:00 end, not 60 from midnight.
example : (ComfortSchedule.fromWindows [⟨1320, 360, 0b1100000⟩, ⟨0, 360, 1⟩] 3).stateAt 1380 6 =
    .ok ⟨true, some 0, 0, some 420⟩ := by decide +kernel

end Poise
