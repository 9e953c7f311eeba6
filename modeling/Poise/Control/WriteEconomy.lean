import Poise.Control.Override

/-!
# Write economy

`control/write_economy.py`: where the device's reading came from, and when an
identical re-assert is not sent. The two setpoint gates ask different questions
about the command in force: `reassertIdempotent`, whether sending it again can
change anything; `reassertThrottled`, whether it was sent too recently. The mode
channel has the rate limit only.
-/
namespace Poise

-- The device must have had this long to react before its stillness counts.
def episodeSettleMinS : ℚ := 90

-- At most this long without a write of the command in force.
def reassertLivenessS : ℚ := 3600

def minSetpointReassertIntervalS : ℚ := 600

def minModeReassertIntervalS : ℚ := 600

def sameValueEps : ℚ := 0.05

def sameValue (a b : Option ℚ) : Bool :=
  -- `_same`: both known and one value.
  match a, b with
  | some a, some b => |a - b| ≤ sameValueEps
  | _, _ => false

def sameTarget (target : PyFloat) (command : Option ℚ) : Bool :=
  -- `_same` where the first value may be not finite; such a value equals nothing.
  match target with
  | .finite target => sameValue (some target) command
  | _ => false

@[simp] theorem sameValue_self (value : ℚ) : sameValue (some value) (some value) := by
  norm_num [sameValue, sameValueEps]

@[simp] theorem sameTarget_self (target : ℚ) : sameTarget (.finite target) (some target) :=
  sameValue_self target

/-- Where the current reading came from, ordered by evidence strength. -/
inductive Provenance where
  | provenOwnEcho
  | currentCommandMatch
  | acceptedSettle
  | staleOwnEcho
  | foreign
  | unknown
  deriving DecidableEq, Repr

def Provenance.releasing : Provenance → Bool
  -- The classes that may release the idempotence gate.
  | .provenOwnEcho | .currentCommandMatch | .acceptedSettle => true
  | .staleOwnEcho | .foreign | .unknown => false

/-- The detector ran and found no foreign change. -/
def AdoptReason.detectorRan : AdoptReason → Bool
  | .commandEcho | .echoWindow | .stableOffset => true
  | _ => false

theorem setpointAdoptReason_ran {device written writtenAt now echoWindow deadband floor : ℚ}
    {prevDeviceSp preWriteSp : Option ℚ} (above : 0 < Rounding.roundTo (device - floor) 3)
    (declined : setpointAdoptReason (some device) (some written) (some writtenAt) now echoWindow
      deadband prevDeviceSp preWriteSp (some floor) ≠ .adopt) :
    (setpointAdoptReason (some device) (some written) (some writtenAt) now echoWindow
      deadband prevDeviceSp preWriteSp (some floor)).detectorRan := by
  -- the frost branch is closed, and every other branch adopts or is a judged reading
  simp only [setpointAdoptReason, Option.any_some, decide_eq_true_eq, not_le.mpr above,
    if_false] at declined ⊢
  grind [AdoptReason.detectorRan]

def classifySettle (ownChange staleOwnEcho : Bool) (actualSp lastCmdSp prevDeviceSp : Option ℚ)
    (matchTolerance : ℚ) (adoptReason : AdoptReason) : Provenance :=
  if ownChange && staleOwnEcho then .staleOwnEcho
  else if ownChange then .provenOwnEcho
  else if adoptReason = .adopt then .foreign
  else if ¬ adoptReason.detectorRan then .unknown
  else if (actualSp.any fun actual => lastCmdSp.any fun command =>
      distance actual command ≤ matchTolerance) then .currentCommandMatch
  else if sameValue actualSp prevDeviceSp then .acceptedSettle
  else .unknown

/-- What releases the idempotence gate: a fresh own echo, or a foreign-context
reading the detector judged and that matches the command or has come to rest. -/
theorem classifySettle_releasing {ownChange stale : Bool}
    {actualSp lastCmdSp prevDeviceSp : Option ℚ} {tolerance : ℚ} {reason : AdoptReason} :
    (classifySettle ownChange stale actualSp lastCmdSp prevDeviceSp tolerance reason).releasing ↔
      (ownChange ∧ ¬ stale) ∨ (¬ ownChange ∧ reason.detectorRan ∧
        ((∃ actual command, actualSp = some actual ∧ lastCmdSp = some command ∧
          distance actual command ≤ tolerance) ∨ sameValue actualSp prevDeviceSp)) := by
  cases ownChange with
  | true => cases stale <;> simp [classifySettle, Provenance.releasing]
  | false =>
    by_cases ran : reason.detectorRan
    · have quiet : reason ≠ .adopt := by
        intro adopting
        simp [adopting, AdoptReason.detectorRan] at ran
      cases actualSp <;> cases lastCmdSp <;> grind [classifySettle, Provenance.releasing]
    · grind [classifySettle, Provenance.releasing]

/-- Sending the command in force again cannot change anything. -/
def reassertIdempotent (targetSnapped : PyFloat) (lastCmdSp actualSp prevDeviceSp : Option ℚ)
    (provenance : Provenance) (cmdEpisodeTs lastSpWriteTs : Option ℚ) (now : ℚ)
    (modeChanged : Bool) : Bool :=
  if modeChanged then false
  else if ¬ sameTarget targetSnapped lastCmdSp then false
  else if cmdEpisodeTs.all fun episode => now - episode < episodeSettleMinS then false
  else if ¬ sameValue actualSp prevDeviceSp then false
  else if ¬ provenance.releasing then false
  else
    match lastSpWriteTs with
    | none => true
    -- a stamp from another clock justifies no silence
    | some written => written ≤ now && now - written < reassertLivenessS

theorem reassertIdempotent_iff {targetSnapped : PyFloat}
    {lastCmdSp actualSp prevDeviceSp cmdEpisodeTs lastSpWriteTs : Option ℚ}
    {provenance : Provenance} {now : ℚ} {modeChanged : Bool} :
    reassertIdempotent targetSnapped lastCmdSp actualSp prevDeviceSp provenance cmdEpisodeTs
      lastSpWriteTs now modeChanged ↔
    modeChanged = false ∧ sameTarget targetSnapped lastCmdSp ∧
      (∃ episode, cmdEpisodeTs = some episode ∧ episodeSettleMinS ≤ now - episode) ∧
      sameValue actualSp prevDeviceSp ∧ provenance.releasing ∧
      ∀ written, lastSpWriteTs = some written →
        written ≤ now ∧ now - written < reassertLivenessS := by
  simp only [reassertIdempotent]
  cases cmdEpisodeTs <;> cases lastSpWriteTs <;> grind

-- Suppressed re-asserts of one episode before its resting distance is reported.
def quantMinSuppressed : ℕ := 5

/-- The resting distance worth reporting: beyond what the declared step explains. -/
def quantizationSettleDelta (declaredStep lastCmdSp actualSp : Option ℚ) (suppressed : ℕ) :
    Option ℚ :=
  if suppressed < quantMinSuppressed then none
  else
    match declaredStep, lastCmdSp, actualSp with
    | some declared, some command, some actual =>
      if declared ≤ 0 then none
      else
        let delta := distance actual command
        if declared / 2 < delta then some delta else none
    -- without a declared step there is no claim about one
    | _, _, _ => none

theorem quantizationSettleDelta_eq_some {declaredStep lastCmdSp actualSp : Option ℚ}
    {suppressed : ℕ} {delta : ℚ} :
    quantizationSettleDelta declaredStep lastCmdSp actualSp suppressed = some delta ↔
      quantMinSuppressed ≤ suppressed ∧ ∃ declared command actual, declaredStep = some declared ∧
        lastCmdSp = some command ∧ actualSp = some actual ∧ 0 < declared ∧
        declared / 2 < delta ∧ delta = distance actual command := by
  simp only [quantizationSettleDelta]
  cases declaredStep <;> cases lastCmdSp <;> cases actualSp <;> grind

/-- The command in force was sent less than the re-assert interval ago. -/
def reassertThrottled (targetSnapped : PyFloat) (lastCmdSp cmdEpisodeTs lastSpWriteTs : Option ℚ)
    (now : ℚ) (modeChanged : Bool) : Bool :=
  if modeChanged then false
  else if ¬ sameTarget targetSnapped lastCmdSp then false
  else
    match cmdEpisodeTs, lastSpWriteTs with
    | some _, some written => written ≤ now && now - written < minSetpointReassertIntervalS
    | _, _ => false

theorem reassertThrottled_iff {targetSnapped : PyFloat}
    {lastCmdSp cmdEpisodeTs lastSpWriteTs : Option ℚ} {now : ℚ} {modeChanged : Bool} :
    reassertThrottled targetSnapped lastCmdSp cmdEpisodeTs lastSpWriteTs now modeChanged ↔
    modeChanged = false ∧ sameTarget targetSnapped lastCmdSp ∧ cmdEpisodeTs.isSome ∧
      ∃ written, lastSpWriteTs = some written ∧ written ≤ now ∧
        now - written < minSetpointReassertIntervalS := by
  simp only [reassertThrottled]
  cases cmdEpisodeTs <;> cases lastSpWriteTs <;> grind

def modeReassertThrottled (desiredMode : String) (lastCommandedHvac : Option String)
    (lastModeNudgeTs : Option ℚ) (now : ℚ) : Bool :=
  if lastCommandedHvac ≠ some desiredMode then false
  else lastModeNudgeTs.any fun nudged => nudged ≤ now && now - nudged < minModeReassertIntervalS

end Poise
