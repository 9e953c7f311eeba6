import Poise.Comfort.Ventilation

/-!
# The ventilation episode

`comfort/vent_episode.py`: what the rule table's answer means in the stored phase of
an airing. One tick takes the verbatim verdict, the window reading and the elapsed
minutes to the next state and the published advice. The prompt caps are counts.

`EpisodeMove` lists what a tick can do; `episodeStep_move` is the inversion.
-/
namespace Poise

/-! ### Reason classes and the window signal -/

def protectionOpen : List VentReason := [.moldRisk, .moistureProtect]

def protectionClose : List VentReason := [.moldGuard, .thermalFloor]

/-- Building protection: exempt from the time limit and from the cooldown. -/
def isProtection (reason : VentReason) : Bool :=
  decide (reason ∈ protectionOpen) || decide (reason ∈ protectionClose)

inductive WindowState where
  | opened
  | closed
  | likelyOpen
  | likelyClosed
  | unknown
  deriving DecidableEq, Repr

inductive WindowSource where
  | contact
  | slope
  | bypass
  | none
  deriving DecidableEq, Repr

def WindowState.openish : WindowState → Bool
  | .opened | .likelyOpen => true
  | _ => false

def WindowState.closedish : WindowState → Bool
  | .closed | .likelyClosed => true
  | _ => false

-- A closed-ish reading is evidence only from a contact.
def WindowSource.provesClosed : WindowSource → Bool
  | .contact => true
  | _ => false

inductive VentPhase where
  | idle
  | requested
  | ventilating
  | stopRequested
  | cooldown
  deriving DecidableEq, Repr

inductive IdleCause where
  | blank
  | allGood
  | outsideNotDrier
  | fabricHeated
  | noData
  | cooldown
  deriving DecidableEq, Repr

structure EpisodeConfig where
  requestTtlMin : ℚ := 15
  reminderEveryMin : ℚ := 7
  maxPromptsPerPhase : ℕ := 2
  maxPromptsPerPhaseProtection : ℕ := 6
  maxPromptsPerEpisode : ℕ := 4
  maxPromptsPerEpisodeProtection : ℕ := 10
  windowStaleAfterMin : ℚ := 30
  cooldownMin : ℚ := 10
  cooldownManualMin : ℚ := 10
  cooldownExpiredMin : ℚ := 20
  cooldownEmergencyMin : ℚ := 45
  unknownStopReleaseMin : ℚ := 5
  maxTickMin : ℚ := 10
  deriving DecidableEq, Repr

/-- What a reading is worth, as opposed to what it says. -/
def effectiveWindow (cfg : EpisodeConfig) (state : WindowState) (source : WindowSource)
    (ageMin : Option ℚ) : WindowState :=
  if state = .unknown then .unknown
  else if ageMin.any (cfg.windowStaleAfterMin < ·) then .unknown
  else if state.closedish && !source.provesClosed then .unknown
  else state

/-- The boolean the rule table takes. -/
def oracleWindowOpen (window : WindowState) : Bool := window.openish

/-! ### State and input -/

structure EpisodeState where
  phase : VentPhase := .idle
  reason : VentReason := .blank
  level : VentLevel := .ok
  episodeId : ℕ := 0
  episodePrompts : ℕ := 0
  -- `protected`: sticky once building protection has spoken.
  isProtected : Bool := false
  openedSeen : Bool := false
  escalations : ℕ := 0
  owner : VentReason := .blank
  phaseMin : ℚ := 0
  prompts : ℕ := 0
  unknownDwellMin : ℚ := 0
  entryInferred : Bool := false
  emergency : Bool := false
  cooldownForMin : ℚ := 0
  cooldownScope : VentReason := .blank
  pendingReason : VentReason := .blank
  deriving DecidableEq, Repr

structure EpisodeInput where
  action : VentAction
  reason : VentReason
  level : VentLevel
  window : WindowState
  dtMin : ℚ
  windowSource : WindowSource := .contact
  windowAgeMin : Option ℚ := none
  coolEdgeProtected : Bool := false
  roomOverSafe : Bool := false
  outsideDrier : Bool := false
  deriving DecidableEq, Repr

structure EpisodeResult where
  state : EpisodeState
  action : VentAction
  reason : VentReason
  level : VentLevel
  prompt : Bool
  idleCause : IdleCause
  windowSeen : WindowState
  pendingReason : VentReason
  deriving DecidableEq, Repr

/-- The `prev_*` inputs of the rule table, one read of the stored phase. -/
def oracleFlags (state : EpisodeState) : OracleFlags :=
  let running := decide (state.phase = .requested) || decide (state.phase = .ventilating)
  { prevAdviceActive := running
    prevMoistureAiring := running && decide (state.owner ∈ [.moistureOut, .moldRisk])
    prevMoistureProtect := running && decide (state.owner = .moistureProtect)
    prevHeatOut := running && decide (state.owner = .heatOut) }

def idleCause (reason : VentReason) (coolEdgeProtected roomOverSafe outsideDrier : Bool) :
    IdleCause :=
  if reason = .noData then .noData
  else if roomOverSafe && coolEdgeProtected then .fabricHeated
  else if roomOverSafe && !outsideDrier then .outsideNotDrier
  else .allGood

inductive CooldownCause where
  | emergency
  | expired
  | manual
  | regular
  deriving DecidableEq, Repr

def cooldownLen (cfg : EpisodeConfig) : CooldownCause → ℚ
  | .emergency => cfg.cooldownEmergencyMin
  | .expired => cfg.cooldownExpiredMin
  | .manual => cfg.cooldownManualMin
  | .regular => cfg.cooldownMin

/-! ### Prompt budgets -/

/-- Whether the episode draws on the protection budget. -/
def episodeProtected (s : EpisodeState) : Bool :=
  s.isProtected || s.emergency || isProtection s.reason || isProtection s.owner

def promptCap (cfg : EpisodeConfig) (s : EpisodeState) : ℕ :=
  if episodeProtected s then cfg.maxPromptsPerPhaseProtection else cfg.maxPromptsPerPhase

def episodeCap (cfg : EpisodeConfig) (s : EpisodeState) : ℕ :=
  if episodeProtected s then cfg.maxPromptsPerEpisodeProtection else cfg.maxPromptsPerEpisode

def promptDue (cfg : EpisodeConfig) (s : EpisodeState) : Bool :=
  if episodeCap cfg s ≤ s.episodePrompts then false
  else if promptCap cfg s ≤ s.prompts then false
  else decide (s.prompts * cfg.reminderEveryMin ≤ s.phaseMin)

/-- One prompt leaves the phase quota and the episode ceiling. -/
def spend (s : EpisodeState) : EpisodeState :=
  { s with prompts := s.prompts + 1, episodePrompts := s.episodePrompts + 1 }

def EpisodeState.enter (s : EpisodeState) (phase : VentPhase) : EpisodeState :=
  { s with phase, phaseMin := 0, unknownDwellMin := 0, entryInferred := false }

/-- The opening prompt of a phase counts in both budgets, when there is one left. -/
def ask (cfg : EpisodeConfig) (s : EpisodeState) : EpisodeState × Bool :=
  if episodeCap cfg s ≤ s.episodePrompts ∨ promptCap cfg s < 1 then (s, false)
  else ({ s with prompts := 1, episodePrompts := s.episodePrompts + 1 }, true)

def remind (cfg : EpisodeConfig) (s : EpisodeState) : EpisodeState × Bool :=
  let due := promptDue cfg s
  (if due then spend s else s, due)

section Tick

variable (cfg : EpisodeConfig) (i : EpisodeInput) (s : EpisodeState)

/-! ### What a tick reads -/

namespace EpisodeInput

/-- The elapsed minutes, capped. -/
def step : ℚ := min (max i.dtMin 0) cfg.maxTickMin

def seen : WindowState := effectiveWindow cfg i.window i.windowSource i.windowAgeMin

def openish : Bool := (i.seen cfg).openish

def closedish : Bool := (i.seen cfg).closedish

def inferredOpen : Bool := decide (i.seen cfg = .likelyOpen)

def wantsOpen : Bool := decide (i.action = .openWindow)

def protectionAbort : Bool :=
  decide (i.action = .closeWindow) && decide (i.reason ∈ protectionClose)

/-- Unobservable, not absent: no single verdict proves both protection closes absent. -/
def resolverQuiet : Bool :=
  decide (i.action ∈ [.idle, .discourage]) || (i.wantsOpen && decide (i.reason ≠ .moldRisk))

def pending : VentReason := if i.wantsOpen then i.reason else .blank

end EpisodeInput

/-- Time, evidence and the protection latch, before the phase is looked at. -/
def EpisodeState.advance : EpisodeState :=
  { s with
    phaseMin := s.phaseMin + i.step cfg
    openedSeen := s.openedSeen || i.openish cfg
    isProtected :=
      s.isProtected || (decide (s.phase ≠ .idle) && (isProtection i.reason || s.emergency)) }

/-! ### What a tick publishes -/

def out (a : VentAction) (r : VentReason) (lv : VentLevel) (prompt : Bool) : EpisodeResult where
  state := s
  action := a
  reason := r
  level := lv
  prompt := prompt
  idleCause :=
    if a = .idle then
      if s.phase = .cooldown then .cooldown
      else idleCause r i.coolEdgeProtected i.roomOverSafe i.outsideDrier
    else .blank
  windowSeen := i.seen cfg
  pendingReason := s.pendingReason

/-- The verdict outside an episode, verbatim. -/
def quiet : EpisodeResult :=
  if i.action = .discourage then out cfg i s .discourage i.reason i.level false
  else out cfg i s .idle i.reason .ok false

def asked (a : VentAction) (r : VentReason) (lv : VentLevel) : EpisodeResult :=
  out cfg i (ask cfg s).1 a r lv (ask cfg s).2

def reminded (a : VentAction) : EpisodeResult :=
  out cfg i (remind cfg s).1 a s.reason s.level (remind cfg s).2

/-! ### Entering a phase -/

/-- The fields `begin` sets: a fresh identity, fresh counters, no evidence. -/
def fresh : EpisodeState :=
  { s with
    episodeId := s.episodeId + 1
    episodePrompts := 0
    escalations := 0
    isProtected := isProtection i.reason
    openedSeen := i.openish cfg
    pendingReason := .blank }

/-- The verdict's reason carries the episode. -/
def carried : EpisodeState := { s with reason := i.reason, owner := i.reason, level := i.level }

def ventilates : EpisodeState :=
  { carried i (s.enter .ventilating) with entryInferred := i.inferredOpen cfg, prompts := 0 }

def requests : EpisodeState := carried i (s.enter .requested)

/-- Ask for the airing to end, inside the same episode. -/
def stop (why : VentReason) (emergency : Bool) (lv : VentLevel) : EpisodeState :=
  { s.enter .stopRequested with
    reason := why, level := lv, emergency, entryInferred := i.inferredOpen cfg }

/-- End the episode into the quiet time, carrying what is left over. -/
def settle (cause : CooldownCause) (scope : VentReason) : EpisodeState :=
  { s.enter .cooldown with
    prompts := 0
    emergency := false
    cooldownForMin := cooldownLen cfg cause
    cooldownScope := scope
    pendingReason := i.pending }

/-! ### Cooldown and idle -/

def idleStep : EpisodeResult :=
  if i.wantsOpen then
    -- A window that is already open needs no request.
    if i.openish cfg then
      out cfg i (ventilates cfg i (fresh cfg i s)) .openWindow i.reason i.level false
    else asked cfg i (requests i (fresh cfg i s)) .openWindow i.reason i.level
  else if i.action = .closeWindow ∧ i.openish cfg then
    asked cfg i { stop cfg i (fresh cfg i s) i.reason i.protectionAbort i.level with owner := .blank }
      .closeWindow i.reason i.level
  else quiet cfg i s

def breaksOut : Bool :=
  (i.wantsOpen && decide (i.reason ∈ protectionOpen)) || i.protectionAbort ||
    (i.wantsOpen && decide (s.cooldownScope ≠ .blank) && decide (i.reason ≠ s.cooldownScope)) ||
    decide (s.cooldownForMin ≤ s.phaseMin)

/-- The state a cooldown leaves behind. -/
def rested : EpisodeState :=
  { s.enter .idle with
    reason := .blank
    owner := .blank
    level := .ok
    prompts := 0
    episodePrompts := 0
    isProtected := false
    emergency := false
    cooldownScope := .blank
    cooldownForMin := 0
    pendingReason := .blank }

def cooldownStep : EpisodeResult :=
  let st := { s with pendingReason := i.pending }
  if breaksOut i s then idleStep cfg i (rested st)
  -- A cooldown silences the doorbell, never the truth.
  else if i.action = .closeWindow then out cfg i st .closeWindow i.reason i.level false
  else quiet cfg i st

/-! ### Requested, ventilating and stop requested -/

/-- A request nobody acted on, against a window known to be shut. -/
def shutRequest : EpisodeState :=
  { s.enter .idle with reason := .blank, owner := .blank, level := .ok, prompts := 0 }

/-- A comfort request expires against a window known to be shut. -/
def expires : Bool :=
  i.closedish cfg && decide (cfg.requestTtlMin ≤ s.phaseMin) && !isProtection s.owner

def airingDone : EpisodeResult :=
  asked cfg i (stop cfg i s .airingDone false .ok) .closeWindow .airingDone .ok

def requestedStep : EpisodeResult :=
  if i.openish cfg then
    -- The current answer decides, not the request that is being acted on.
    if i.wantsOpen then out cfg i (ventilates cfg i s) .openWindow i.reason i.level false
    else if i.action = .closeWindow then
      asked cfg i (stop cfg i s i.reason i.protectionAbort i.level) .closeWindow i.reason i.level
    else airingDone cfg i s
  else if !i.wantsOpen then
    if i.closedish cfg then quiet cfg i (shutRequest s) else airingDone cfg i s
  else
    let st := carried i s
    if expires cfg i st then quiet cfg i (settle cfg i st .expired .blank)
    else reminded cfg i st .openWindow

def ventilatingStep : EpisodeResult :=
  if i.closedish cfg then quiet cfg i (settle cfg i s .manual .blank)
  else if i.wantsOpen then out cfg i (carried i s) .openWindow i.reason i.level false
  else
    let why := if i.action = .closeWindow then i.reason else .airingDone
    let lv := if i.action = .closeWindow then i.level else .ok
    asked cfg i (stop cfg i s why i.protectionAbort lv) .closeWindow why lv

def EpisodeState.dwell : EpisodeState :=
  { s with unknownDwellMin := s.unknownDwellMin + i.step cfg }

/-- The stop stands: a protection close may step it up, everything else reminds. -/
def stopStands : EpisodeResult :=
  if i.action = .closeWindow then
    -- A latched protection stop keeps its own reason against an ordinary close.
    let spoken :=
      if i.protectionAbort || !s.emergency then { s with reason := i.reason, level := i.level }
      else s
    let st := { spoken with emergency := s.emergency || i.protectionAbort }
    if i.protectionAbort && !s.emergency then
      out cfg i { st with escalations := st.escalations + 1 } .closeWindow st.reason st.level true
    else reminded cfg i st .closeWindow
  else reminded cfg i s .closeWindow

def stopRequestedStep : EpisodeResult :=
  if i.closedish cfg then
    quiet cfg i (settle cfg i s (if s.emergency then .emergency else .regular)
      (if s.emergency then .blank else s.owner))
  else if i.wantsOpen && !s.emergency then
    if i.openish cfg then out cfg i (ventilates cfg i s) .openWindow i.reason i.level false
    else asked cfg i (requests i s) .openWindow i.reason i.level
  else if i.seen cfg = .unknown ∧ i.resolverQuiet then
    -- Only here: a standing "please close" must not expire against knowledge.
    let st := s.dwell cfg i
    if cfg.unknownStopReleaseMin ≤ st.unknownDwellMin then
      quiet cfg i (settle cfg i st (if s.emergency then .emergency else .expired) .blank)
    else stopStands cfg i st
  else stopStands cfg i { s with unknownDwellMin := 0 }

def episodeStep : EpisodeResult :=
  let st := s.advance cfg i
  match st.phase with
  | .cooldown => cooldownStep cfg i st
  | .idle => idleStep cfg i st
  | .requested => requestedStep cfg i st
  | .ventilating => ventilatingStep cfg i st
  | .stopRequested => stopRequestedStep cfg i st

/-! ### What the publications keep -/

@[simp] theorem ask_state : (ask cfg s).1 =
    { s with
      prompts := if (ask cfg s).2 then 1 else s.prompts
      episodePrompts := s.episodePrompts + (ask cfg s).2.toNat } := by
  unfold ask
  split <;> simp

@[simp] theorem remind_state : (remind cfg s).1 =
    { s with
      prompts := s.prompts + (remind cfg s).2.toNat
      episodePrompts := s.episodePrompts + (remind cfg s).2.toNat } := by
  cases due : promptDue cfg s <;> simp [remind, due, spend]

theorem ask_within (rings : (ask cfg s).2) : s.episodePrompts < episodeCap cfg s := by
  unfold ask at rings
  split at rings
  next => cases rings
  next room => exact not_le.mp fun spent => room (.inl spent)

theorem remind_within (rings : (remind cfg s).2) : s.episodePrompts < episodeCap cfg s := by
  simp only [remind, promptDue] at rings
  split at rings
  next => cases rings
  next room => exact not_le.mp room

@[simp] theorem out_state (a : VentAction) (r : VentReason) (lv : VentLevel) (prompt : Bool) :
    (out cfg i s a r lv prompt).state = s := rfl

@[simp] theorem out_action (a : VentAction) (r : VentReason) (lv : VentLevel) (prompt : Bool) :
    (out cfg i s a r lv prompt).action = a := rfl

@[simp] theorem out_reason (a : VentAction) (r : VentReason) (lv : VentLevel) (prompt : Bool) :
    (out cfg i s a r lv prompt).reason = r := rfl

@[simp] theorem out_prompt (a : VentAction) (r : VentReason) (lv : VentLevel) (prompt : Bool) :
    (out cfg i s a r lv prompt).prompt = prompt := rfl

@[simp] theorem quiet_state : (quiet cfg i s).state = s := by
  unfold quiet
  split <;> rfl

@[simp] theorem quiet_prompt : (quiet cfg i s).prompt = false := by
  unfold quiet
  split <;> rfl

/-! ### What a tick can do -/

/-- The moves of a zone without an episode. -/
inductive IdleMove : EpisodeResult → Prop
  | airs (wants : i.wantsOpen) (isOpen : i.openish cfg) :
      IdleMove (out cfg i (ventilates cfg i (fresh cfg i s)) .openWindow i.reason i.level false)
  | requests (wants : i.wantsOpen) (notOpen : i.openish cfg = false) :
      IdleMove (asked cfg i (requests i (fresh cfg i s)) .openWindow i.reason i.level)
  | stops (closes : i.action = .closeWindow) (isOpen : i.openish cfg) :
      IdleMove (asked cfg i
        { stop cfg i (fresh cfg i s) i.reason i.protectionAbort i.level with owner := .blank }
        .closeWindow i.reason i.level)
  | watches (noWish : i.wantsOpen = false) (shut : i.action = .closeWindow → i.openish cfg = false) :
      IdleMove (quiet cfg i s)

/-- The moves of a stop request that stands. -/
inductive StandMove : EpisodeResult → Prop
  | escalates (aborts : i.protectionAbort) (calm : s.emergency = false) :
      StandMove (out cfg i
        { s with
          reason := i.reason
          level := i.level
          emergency := true
          escalations := s.escalations + 1 }
        .closeWindow i.reason i.level true)
  | latched (aborts : i.protectionAbort) (was : s.emergency = true) :
      StandMove (reminded cfg i { s with reason := i.reason, level := i.level } .closeWindow)
  | closes (closes : i.action = .closeWindow) (plain : i.protectionAbort = false)
      (calm : s.emergency = false) :
      StandMove (reminded cfg i { s with reason := i.reason, level := i.level } .closeWindow)
  | keeps : StandMove (reminded cfg i s .closeWindow)

inductive CooldownMove : EpisodeResult → Prop
  | wakes {r : EpisodeResult} (breaks : breaksOut i s) (move : IdleMove cfg i (rested s) r) :
      CooldownMove r
  | restsClosing (rests : breaksOut i s = false) (closes : i.action = .closeWindow) :
      CooldownMove (out cfg i { s with pendingReason := i.pending } .closeWindow i.reason i.level
        false)
  | rests (rests : breaksOut i s = false) (other : i.action ≠ .closeWindow) :
      CooldownMove (quiet cfg i { s with pendingReason := i.pending })

inductive RequestedMove : EpisodeResult → Prop
  | airs (wants : i.wantsOpen) (isOpen : i.openish cfg) :
      RequestedMove (out cfg i (ventilates cfg i s) .openWindow i.reason i.level false)
  | stops (closes : i.action = .closeWindow) (isOpen : i.openish cfg) :
      RequestedMove (asked cfg i (stop cfg i s i.reason i.protectionAbort i.level) .closeWindow
        i.reason i.level)
  | ends (noWish : i.wantsOpen = false) (notShut : i.closedish cfg = false) :
      RequestedMove (airingDone cfg i s)
  | drops (noWish : i.wantsOpen = false) (shut : i.closedish cfg) :
      RequestedMove (quiet cfg i (shutRequest s))
  | expires (wants : i.wantsOpen) (shut : i.closedish cfg)
      (comfort : isProtection i.reason = false) :
      RequestedMove (quiet cfg i (settle cfg i (carried i s) .expired .blank))
  | waits (wants : i.wantsOpen) (notOpen : i.openish cfg = false) :
      RequestedMove (reminded cfg i (carried i s) .openWindow)

inductive VentilatingMove : EpisodeResult → Prop
  | shut (shut : i.closedish cfg) :
      VentilatingMove (quiet cfg i (settle cfg i s .manual .blank))
  | airs (wants : i.wantsOpen) (notShut : i.closedish cfg = false) :
      VentilatingMove (out cfg i (carried i s) .openWindow i.reason i.level false)
  | stops (closes : i.action = .closeWindow) (notShut : i.closedish cfg = false) :
      VentilatingMove (asked cfg i (stop cfg i s i.reason i.protectionAbort i.level) .closeWindow
        i.reason i.level)
  | ends (noWish : i.wantsOpen = false) (notShut : i.closedish cfg = false) :
      VentilatingMove (airingDone cfg i s)

inductive StopMove : EpisodeResult → Prop
  | shut (shut : i.closedish cfg) (cause : CooldownCause) (scope : VentReason) :
      StopMove (quiet cfg i (settle cfg i s cause scope))
  | airs (calm : s.emergency = false) (wants : i.wantsOpen) (isOpen : i.openish cfg) :
      StopMove (out cfg i (ventilates cfg i s) .openWindow i.reason i.level false)
  | asksAgain (calm : s.emergency = false) (wants : i.wantsOpen)
      (notOpen : i.openish cfg = false) :
      StopMove (asked cfg i (requests i s) .openWindow i.reason i.level)
  | releases (blind : i.seen cfg = .unknown) (silent : i.resolverQuiet)
      (dwelt : cfg.unknownStopReleaseMin ≤ s.unknownDwellMin + i.step cfg)
      (cause : CooldownCause) :
      StopMove (quiet cfg i (settle cfg i (s.dwell cfg i) cause .blank))
  | dwells {r : EpisodeResult} (blind : i.seen cfg = .unknown) (silent : i.resolverQuiet)
      (move : StandMove cfg i (s.dwell cfg i) r) : StopMove r
  | stands {r : EpisodeResult} (move : StandMove cfg i { s with unknownDwellMin := 0 } r) :
      StopMove r

/-- The moves of a tick, from the advanced state. -/
inductive EpisodeMove : EpisodeResult → Prop
  | idle {r : EpisodeResult} (phase : s.phase = .idle) (move : IdleMove cfg i s r) : EpisodeMove r
  | cooldown {r : EpisodeResult} (phase : s.phase = .cooldown) (move : CooldownMove cfg i s r) :
      EpisodeMove r
  | requested {r : EpisodeResult} (phase : s.phase = .requested) (move : RequestedMove cfg i s r) :
      EpisodeMove r
  | ventilating {r : EpisodeResult} (phase : s.phase = .ventilating)
      (move : VentilatingMove cfg i s r) : EpisodeMove r
  | stopRequested {r : EpisodeResult} (phase : s.phase = .stopRequested)
      (move : StopMove cfg i s r) : EpisodeMove r

variable {cfg i s}

theorem not_closedish_of_openish (isOpen : i.openish cfg) : i.closedish cfg = false := by
  unfold EpisodeInput.openish at isOpen
  unfold EpisodeInput.closedish
  cases seen : i.seen cfg <;> simp_all [WindowState.openish, WindowState.closedish]

theorem idleStep_move : IdleMove cfg i s (idleStep cfg i s) := by
  unfold idleStep
  split
  next wants =>
    split
    next isOpen => exact .airs wants isOpen
    next notOpen => exact .requests wants (by simpa using notOpen)
  next noWish =>
    split
    next closes => exact .stops closes.1 closes.2
    next other => exact .watches (by simpa using noWish) (by simpa using other)

theorem stopStands_move : StandMove cfg i s (stopStands cfg i s) := by
  unfold stopStands
  split
  next closes =>
    cases aborts : i.protectionAbort with
    | true =>
      cases calm : s.emergency with
      | true =>
        have move : StandMove cfg i s _ := .latched aborts calm
        simpa [calm] using move
      | false => simpa using StandMove.escalates aborts calm
    | false =>
      cases calm : s.emergency with
      | true =>
        have same : { s with emergency := true } = s := by rw [← calm]
        simpa [same] using StandMove.keeps
      | false =>
        have move : StandMove cfg i s _ := .closes closes aborts calm
        simpa [calm] using move
  next => exact .keeps

theorem cooldownStep_move : CooldownMove cfg i s (cooldownStep cfg i s) := by
  unfold cooldownStep
  dsimp only
  split
  next breaks => exact .wakes breaks idleStep_move
  next rests =>
    split
    next closes => exact .restsClosing (by simpa using rests) closes
    next other => exact .rests (by simpa using rests) other

theorem requestedStep_move : RequestedMove cfg i s (requestedStep cfg i s) := by
  unfold requestedStep
  split
  next isOpen =>
    split
    next wants => exact .airs wants isOpen
    next noWish =>
      split
      next closes => exact .stops closes isOpen
      next => exact .ends (by simpa using noWish) (not_closedish_of_openish isOpen)
  next notOpen =>
    split
    next noWish =>
      split
      next shut => exact .drops (by simpa using noWish) shut
      next notShut => exact .ends (by simpa using noWish) (by simpa using notShut)
    next wants =>
      simp only [Bool.not_eq_true', Bool.not_eq_false] at wants
      dsimp only
      split
      next expired =>
        simp only [Poise.expires, Bool.and_eq_true, Bool.not_eq_true'] at expired
        exact .expires wants expired.1.1 expired.2
      next => exact .waits wants (by simpa using notOpen)

theorem ventilatingStep_move : VentilatingMove cfg i s (ventilatingStep cfg i s) := by
  unfold ventilatingStep
  split
  next shut => exact .shut shut
  next notShut =>
    rw [Bool.not_eq_true] at notShut
    split
    next wants => exact .airs wants notShut
    next noWish =>
      by_cases closes : i.action = .closeWindow
      · simpa only [closes, if_true] using VentilatingMove.stops closes notShut
      · have calm : i.protectionAbort = false := by simp [EpisodeInput.protectionAbort, closes]
        simp only [closes, if_false, calm]
        exact .ends (by simpa using noWish) notShut

theorem stopRequestedStep_move : StopMove cfg i s (stopRequestedStep cfg i s) := by
  unfold stopRequestedStep
  split
  next shut => exact .shut shut _ _
  next notShut =>
    split
    next wish =>
      simp only [Bool.and_eq_true, Bool.not_eq_true'] at wish
      split
      next isOpen => exact .airs wish.2 wish.1 isOpen
      next notOpen => exact .asksAgain wish.2 wish.1 (by simpa using notOpen)
    next =>
      split
      next blind =>
        by_cases dwelt : cfg.unknownStopReleaseMin ≤ (s.dwell cfg i).unknownDwellMin
        · simp only [dwelt, if_true]
          exact .releases blind.1 blind.2 dwelt _
        · simp only [dwelt, if_false]
          exact .dwells blind.1 blind.2 stopStands_move
      next => exact .stands stopStands_move

theorem episodeStep_move (cfg : EpisodeConfig) (i : EpisodeInput) (s : EpisodeState) :
    EpisodeMove cfg i (s.advance cfg i) (episodeStep cfg i s) := by
  unfold episodeStep
  generalize s.advance cfg i = st
  cases phase : st.phase with
  | cooldown =>
    simp only [phase]
    exact .cooldown phase cooldownStep_move
  | idle =>
    simp only [phase]
    exact .idle phase idleStep_move
  | requested =>
    simp only [phase]
    exact .requested phase requestedStep_move
  | ventilating =>
    simp only [phase]
    exact .ventilating phase ventilatingStep_move
  | stopRequested =>
    simp only [phase]
    exact .stopRequested phase stopRequestedStep_move

theorem episodeStep_requested (phase : s.phase = .requested) :
    RequestedMove cfg i (s.advance cfg i) (episodeStep cfg i s) := by
  have same : (s.advance cfg i).phase = .requested := phase
  simp only [episodeStep, same]
  exact requestedStep_move

theorem episodeStep_stopRequested (phase : s.phase = .stopRequested) :
    StopMove cfg i (s.advance cfg i) (episodeStep cfg i s) := by
  have same : (s.advance cfg i).phase = .stopRequested := phase
  simp only [episodeStep, same]
  exact stopRequestedStep_move

end Tick

end Poise
