import Mathlib.Algebra.Order.Field.Rat

/-!
# Presence

`comfort/presence.py` and its stage in `ha/phase_prepare.py`: the house gate on the outside, the
room's occupancy inside the comfort window. An entity that does not resolve counts as present.
-/
namespace Poise

inductive PresenceLevel where
  | comfort
  | roomEco
  | away
  deriving DecidableEq, Repr

structure PresenceConfig where
  absenceAfterMin : ℚ := 30
  ecoDelta : ℚ := 2
  deriving DecidableEq, Repr

/-- When the room became absent; anything but a sure absence is presence. -/
def stepRoomAbsence (absentSince : Option ℚ) (present : Option Bool) (now : ℚ) (accrue : Bool) :
    Option ℚ :=
  if present ≠ some false then none
  else if accrue = false then some now
  else
    match absentSince with
    | none => some now
    | some since => some since

def resolvePresence (cfg : PresenceConfig) (home : Option Bool) (roomAbsentMin : ℚ)
    (isComfort preheating : Bool) : PresenceLevel :=
  if home = some false then .away
  else if preheating then .comfort
  else if isComfort ∧ cfg.absenceAfterMin ≤ roomAbsentMin then .roomEco
  else .comfort

def anyPresent (values : List (Option Bool)) : Option Bool :=
  if values.any (· == some true) then some true
  else if ¬ values.isEmpty ∧ values.all (· == some false) then some false
  else none

/-! ### The stage -/

structure PresenceBand where
  awayOffset : ℚ
  deviceMax : ℚ
  coolHardCap : ℚ
  deriving DecidableEq, Repr

structure PresenceTick where
  -- The wall clock, in seconds.
  now : ℚ
  home : List (Option Bool) := []
  occupancy : List (Option Bool) := []
  isComfort : Bool
  preheating : Bool := false
  deriving DecidableEq, Repr

structure PresenceLevelResult where
  level : PresenceLevel
  absentMin : ℚ
  occupied : Bool
  ecoWiden : ℚ
  coolCeiling : Option ℚ
  deriving DecidableEq, Repr

/-- `_stage_presence_level`; the state is the absence anchor. -/
def stagePresenceLevel (cfg : PresenceConfig) (band : PresenceBand) (absentSince : Option ℚ)
    (t : PresenceTick) : Option ℚ × PresenceLevelResult :=
  let since := stepRoomAbsence absentSince (anyPresent t.occupancy) t.now
    (t.isComfort && !t.preheating)
  let absentMin := match since with
    | none => 0
    | some since => (t.now - since) / 60
  let level := resolvePresence cfg (anyPresent t.home) absentMin t.isComfort t.preheating
  (since, match level with
    | .away => ⟨level, absentMin, false, band.awayOffset, some band.deviceMax⟩
    | .roomEco => ⟨level, absentMin, false, cfg.ecoDelta, some band.coolHardCap⟩
    | .comfort => ⟨level, absentMin, t.isComfort || t.preheating, 0, none⟩)

end Poise
