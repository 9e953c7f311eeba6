import Poise.Properties.EpisodeProtection
import Mathlib.Data.List.Count

/-!
# The prompt budget of an episode

Over whole runs: the doorbell rings at most `max_prompts_per_episode` times under one
identity while no protection reason was given in it, at most the protection ceiling
plus its escalation ever, and one episode escalates at most once.
-/
namespace Poise

/-! ### Counting -/

def promptsUnder (steps : List EpisodeTrace) (id : ℕ) : ℕ :=
  steps.countP fun d => d.output.prompt && decide (d.post.episodeId = id)

def Escalates (d : EpisodeTrace) : Prop := d.pre.escalations < d.post.escalations

instance (d : EpisodeTrace) : Decidable (Escalates d) := inferInstanceAs (Decidable (_ < _))

def escalationsUnder (steps : List EpisodeTrace) (id : ℕ) : ℕ :=
  steps.countP fun d => decide (Escalates d) && decide (d.post.episodeId = id)

/-- A protection reason was given while the episode was on. -/
def ProtectionSpoke (steps : List EpisodeTrace) (id : ℕ) : Prop :=
  ∃ d ∈ steps, d.post.episodeId = id ∧ d.post.phase ≠ .idle ∧ isProtection d.input.reason

/-- The budget of one episode identity. -/
structure WithinBudget (cfg : EpisodeConfig) (steps : List EpisodeTrace) (id : ℕ) : Prop where
  comfort : ¬ProtectionSpoke steps id → promptsUnder steps id ≤ cfg.maxPromptsPerEpisode
  total : promptsUnder steps id ≤
    cfg.maxPromptsPerEpisodeProtection + escalationsUnder steps id
  escalations : escalationsUnder steps id ≤ 1

/-! ### What a tick spends -/

section Step

variable {cfg : EpisodeConfig} {i : EpisodeInput} {s : EpisodeState} {r : EpisodeResult}

/-- A ring outside an escalation stays under the ceiling. -/
def Capped (cfg : EpisodeConfig) (r : EpisodeResult) : Prop :=
  r.prompt = true → r.state.episodePrompts ≤ episodeCap cfg r.state

inductive Spends (cfg : EpisodeConfig) (i : EpisodeInput) (s : EpisodeState)
    (r : EpisodeResult) : Prop
  | begins (id : r.state.episodeId = s.episodeId + 1) (entered : r.state.phase ≠ .idle)
      (spent : r.state.episodePrompts = r.prompt.toNat) (none : r.state.escalations = 0)
      (capped : Capped cfg r)
      (spoke : episodeProtected r.state = true → isProtection i.reason = true)
  | goesOn (id : r.state.episodeId = s.episodeId) (was : s.phase ≠ .idle)
      (entered : r.state.phase ≠ .idle)
      (cools : s.phase = .cooldown → r.state.phase = .cooldown)
      (spent : r.state.episodePrompts = s.episodePrompts + r.prompt.toNat)
      (same : r.state.escalations = s.escalations) (capped : Capped cfg r)
      (spoke : episodeProtected r.state = true →
        episodeProtected s = true ∨ isProtection i.reason = true)
  | escalates (id : r.state.episodeId = s.episodeId) (was : s.phase = .stopRequested)
      (calm : s.emergency = false) (entered : r.state.phase = .stopRequested)
      (latched : r.state.emergency = true) (rings : r.prompt = true)
      (same : r.state.episodePrompts = s.episodePrompts)
      (counted : r.state.escalations = s.escalations + 1)
      (spoke : isProtection i.reason = true)
  | rests (id : r.state.episodeId = s.episodeId) (ended : r.state.phase = .idle)
      (silent : r.prompt = false) (same : r.state.escalations = s.escalations)

theorem asked_capped (a : VentAction) (why : VentReason) (lv : VentLevel) :
    Capped cfg (asked cfg i s a why lv) := by
  intro rings
  have room := ask_within _ _ rings
  have rings : (ask cfg s).2 = true := rings
  simp only [asked, out_state, ask_state, rings, Bool.toNat_true]
  exact room

theorem reminded_capped (a : VentAction) : Capped cfg (reminded cfg i s a) := by
  intro rings
  have room := remind_within _ _ rings
  have rings : (remind cfg s).2 = true := rings
  simp only [reminded, out_state, remind_state, rings, Bool.toNat_true]
  exact room

theorem silent_capped (silent : r.prompt = false) : Capped cfg r := by
  intro rings
  rw [silent] at rings
  cases rings

theorem isProtection_of_abort (aborts : i.protectionAbort) : isProtection i.reason = true := by
  have member := protectionAbort_reason aborts
  simp [isProtection, member]

/-- What the advance can add to the protection of an episode. -/
theorem advance_protected (guarded : episodeProtected (s.advance cfg i) = true) :
    episodeProtected s = true ∨ isProtection i.reason = true := by
  simp only [episodeProtected, EpisodeState.advance, Bool.or_eq_true, Bool.and_eq_true]
    at guarded ⊢
  tauto

variable {s' : EpisodeState}

theorem idleMove_spends (move : IdleMove cfg i s' r) (phase : s'.phase = .idle)
    (calm : s'.emergency = false) (id : s'.episodeId = s.episodeId)
    (same : s'.escalations = s.escalations) : Spends cfg i s r := by
  cases move with
  | airs =>
    refine .begins (congrArg (· + 1) id) (by simp [ventilates, carried, EpisodeState.enter]) rfl
      rfl (silent_capped rfl) ?_
    simp [episodeProtected, ventilates, carried, EpisodeState.enter, fresh, calm]
  | requests =>
    refine .begins (by simp [asked, requests, carried, EpisodeState.enter, fresh, id])
      (by simp [asked, requests, carried, EpisodeState.enter])
      (by simp [asked, requests, carried, EpisodeState.enter, fresh])
      (by simp [asked, requests, carried, EpisodeState.enter, fresh]) (asked_capped _ _ _) ?_
    simp [episodeProtected, asked, requests, carried, EpisodeState.enter, fresh, calm]
  | stops =>
    refine .begins (by simp [asked, stop, EpisodeState.enter, fresh, id])
      (by simp [asked, stop, EpisodeState.enter])
      (by simp [asked, stop, EpisodeState.enter, fresh])
      (by simp [asked, stop, EpisodeState.enter, fresh]) (asked_capped _ _ _) ?_
    simp only [episodeProtected, asked, stop, EpisodeState.enter, fresh, out_state, ask_state,
      Bool.or_eq_true]
    rintro (((given | aborts) | given) | blank)
    · exact given
    · exact isProtection_of_abort aborts
    · exact given
    · exact absurd blank (by decide)
  | watches => exact .rests (by simpa using id) (by simpa using phase) (by simp) (by simpa using same)

/-- What a state inside an episode may change without ringing. -/
structure Carries (i : EpisodeInput) (s s' : EpisodeState) : Prop where
  id : s'.episodeId = s.episodeId
  was : s.phase ≠ .idle
  entered : s'.phase ≠ .idle
  cools : s.phase = .cooldown → s'.phase = .cooldown
  prompts : s'.episodePrompts = s.episodePrompts
  escalations : s'.escalations = s.escalations
  spoke : episodeProtected s' = true → episodeProtected s = true ∨ isProtection i.reason = true

theorem Carries.trans {s'' : EpisodeState} (first : Carries i s s') (later : Carries i s' s'') :
    Carries i s s'' where
  id := later.id.trans first.id
  was := first.was
  entered := later.entered
  cools cooling := later.cools (first.cools cooling)
  prompts := later.prompts.trans first.prompts
  escalations := later.escalations.trans first.escalations
  spoke guarded := (later.spoke guarded).elim first.spoke .inr

theorem spends_out (carries : Carries i s s') (a : VentAction) (why : VentReason)
    (lv : VentLevel) : Spends cfg i s (out cfg i s' a why lv false) :=
  .goesOn carries.id carries.was carries.entered carries.cools carries.prompts
    carries.escalations (silent_capped rfl) carries.spoke

theorem spends_quiet (carries : Carries i s s') : Spends cfg i s (quiet cfg i s') := by
  unfold quiet
  split
  next => exact spends_out carries _ _ _
  next => exact spends_out carries _ _ _

theorem spends_asked (carries : Carries i s s') (a : VentAction) (why : VentReason)
    (lv : VentLevel) : Spends cfg i s (asked cfg i s' a why lv) := by
  refine .goesOn (by simpa [asked] using carries.id) carries.was
    (by simpa [asked] using carries.entered) (by simpa [asked] using carries.cools) ?_
    (by simpa [asked] using carries.escalations) (asked_capped _ _ _)
    (by simpa [asked, episodeProtected] using carries.spoke)
  simp only [asked, out_state, out_prompt, ask_state, carries.prompts]

theorem spends_reminded (carries : Carries i s s') (a : VentAction) :
    Spends cfg i s (reminded cfg i s' a) := by
  refine .goesOn (by simpa [reminded] using carries.id) carries.was
    (by simpa [reminded] using carries.entered) (by simpa [reminded] using carries.cools) ?_
    (by simpa [reminded] using carries.escalations) (reminded_capped _)
    (by simpa [reminded, episodeProtected] using carries.spoke)
  simp only [reminded, out_state, out_prompt, remind_state, carries.prompts]

theorem carries_ventilates (was : s.phase ≠ .idle) (warm : s.phase ≠ .cooldown) :
    Carries i s (ventilates cfg i s) where
  id := rfl
  was := was
  entered := by simp [ventilates, carried, EpisodeState.enter]
  cools cooling := absurd cooling warm
  prompts := rfl
  escalations := rfl
  spoke := by simp [episodeProtected, ventilates, carried, EpisodeState.enter]; tauto

theorem carries_requests (was : s.phase ≠ .idle) (warm : s.phase ≠ .cooldown) :
    Carries i s (requests i s) where
  id := rfl
  was := was
  entered := by simp [requests, carried, EpisodeState.enter]
  cools cooling := absurd cooling warm
  prompts := rfl
  escalations := rfl
  spoke := by simp [episodeProtected, requests, carried, EpisodeState.enter]; tauto

theorem carries_stop (was : s.phase ≠ .idle) (warm : s.phase ≠ .cooldown) (why : VentReason)
    (emergency : Bool) (lv : VentLevel)
    (given : isProtection why = true → isProtection i.reason = true)
    (aborts : emergency = true → isProtection i.reason = true) :
    Carries i s (stop cfg i s why emergency lv) where
  id := rfl
  was := was
  entered := by simp [stop, EpisodeState.enter]
  cools cooling := absurd cooling warm
  prompts := rfl
  escalations := rfl
  spoke := by simp [episodeProtected, stop, EpisodeState.enter]; tauto

theorem spends_airingDone (was : s.phase ≠ .idle) (warm : s.phase ≠ .cooldown) :
    Spends cfg i s (airingDone cfg i s) :=
  spends_asked (carries_stop was warm _ _ _ (fun given => absurd given (by decide))
    (fun aborts => by cases aborts)) _ _ _

theorem carries_settle (was : s.phase ≠ .idle) (cause : CooldownCause) (scope : VentReason) :
    Carries i s (settle cfg i s cause scope) where
  id := rfl
  was := was
  entered := by simp [settle, EpisodeState.enter]
  cools _ := rfl
  prompts := rfl
  escalations := rfl
  spoke := by simp [episodeProtected, settle, EpisodeState.enter]; tauto

theorem carries_carried (was : s.phase ≠ .idle) : Carries i s (carried i s) where
  id := rfl
  was := was
  entered := was
  cools cooling := cooling
  prompts := rfl
  escalations := rfl
  spoke := by simp [episodeProtected, carried]; tauto

theorem standMove_spends (move : StandMove cfg i s' r) (phase : s.phase = .stopRequested)
    (same : s' = { s with unknownDwellMin := s'.unknownDwellMin }) : Spends cfg i s r := by
  have base : Carries i s s' := by
    rw [same]
    exact ⟨rfl, by simp [phase], by simp [phase], by simp [phase], rfl, rfl, .inl⟩
  have worded : Carries i s { s' with reason := i.reason, level := i.level } := by
    refine ⟨base.id, base.was, base.entered, base.cools, base.prompts, base.escalations, ?_⟩
    have spoke := base.spoke
    simp only [episodeProtected, Bool.or_eq_true] at spoke ⊢
    tauto
  cases move with
  | escalates aborts calm =>
    rw [same] at calm ⊢
    exact .escalates rfl phase calm phase rfl rfl rfl rfl (isProtection_of_abort aborts)
  | latched => exact spends_reminded worded _
  | closes => exact spends_reminded worded _
  | keeps => exact spends_reminded base _

theorem episodeMove_spends (move : EpisodeMove cfg i s r) (sound : LatchSound s) :
    Spends cfg i s r := by
  cases move with
  | idle phase move => exact idleMove_spends move phase (calm_of_phase sound (by simp [phase])) rfl rfl
  | cooldown phase move =>
    have kept : Carries i s { s with pendingReason := i.pending } :=
      ⟨rfl, by simp [phase], by simp [phase], by simp [phase], rfl, rfl, .inl⟩
    cases move with
    | wakes breaks move => exact idleMove_spends move rfl rfl rfl rfl
    | restsClosing => exact spends_out kept _ _ _
    | rests => exact spends_quiet kept
  | requested phase move =>
    have was : s.phase ≠ .idle := by simp [phase]
    have warm : s.phase ≠ .cooldown := by simp [phase]
    cases move with
    | airs => exact spends_out (carries_ventilates was warm) _ _ _
    | stops =>
      exact spends_asked (carries_stop was warm _ _ _ id isProtection_of_abort) _ _ _
    | ends => exact spends_airingDone was warm
    | drops =>
      exact .rests (by simp [shutRequest, EpisodeState.enter])
        (by simp [shutRequest, EpisodeState.enter]) (quiet_prompt _ _ _)
        (by simp [shutRequest, EpisodeState.enter])
    | expires =>
      have kept : Carries i s (carried i s) := carries_carried was
      exact spends_quiet (kept.trans (carries_settle kept.entered _ _))
    | waits => exact spends_reminded (carries_carried was) _
  | ventilating phase move =>
    have was : s.phase ≠ .idle := by simp [phase]
    have warm : s.phase ≠ .cooldown := by simp [phase]
    cases move with
    | shut => exact spends_quiet (carries_settle was _ _)
    | airs => exact spends_out (carries_carried was) _ _ _
    | stops =>
      exact spends_asked (carries_stop was warm _ _ _ id isProtection_of_abort) _ _ _
    | ends => exact spends_airingDone was warm
  | stopRequested phase move =>
    have was : s.phase ≠ .idle := by simp [phase]
    have warm : s.phase ≠ .cooldown := by simp [phase]
    cases move with
    | shut => exact spends_quiet (carries_settle was _ _)
    | airs => exact spends_out (carries_ventilates was warm) _ _ _
    | asksAgain => exact spends_asked (carries_requests was warm) _ _ _
    | releases =>
      have kept : Carries i s (s.dwell cfg i) := ⟨rfl, was, was, id, rfl, rfl, .inl⟩
      exact spends_quiet (kept.trans (carries_settle kept.entered _ _))
    | dwells _ _ move => exact standMove_spends move phase rfl
    | stands move => exact standMove_spends move phase rfl

theorem episodeStep_spends (sound : LatchSound s) : Spends cfg i s (episodeStep cfg i s) := by
  have spends := episodeMove_spends (episodeStep_move cfg i s) sound
  cases spends with
  | begins id entered spent none capped spoke =>
    exact .begins id entered spent none capped spoke
  | goesOn id was entered cools spent same capped spoke =>
    exact .goesOn id was entered cools spent same capped fun guarded =>
      (spoke guarded).elim advance_protected .inr
  | escalates id was calm entered latched rings same counted spoke =>
    exact .escalates id was calm entered latched rings same counted spoke
  | rests id ended silent same => exact .rests id ended silent same

end Step

/-! ### Counting one more tick -/

section Append

variable {cfg : EpisodeConfig} {steps : List EpisodeTrace} {e : EpisodeTrace} {id : ℕ}

theorem promptsUnder_append (steps : List EpisodeTrace) (e : EpisodeTrace) (id : ℕ) :
    promptsUnder (steps ++ [e]) id =
    promptsUnder steps id + if e.post.episodeId = id then e.output.prompt.toNat else 0 := by
  cases rings : e.output.prompt <;> simp [promptsUnder, rings, List.countP_singleton]

theorem escalationsUnder_append (steps : List EpisodeTrace) (e : EpisodeTrace) (id : ℕ) :
    escalationsUnder (steps ++ [e]) id =
    escalationsUnder steps id + if e.post.episodeId = id ∧ Escalates e then 1 else 0 := by
  simp [escalationsUnder, List.countP_singleton, and_comm]

theorem protectionSpoke_append : ProtectionSpoke (steps ++ [e]) id ↔
    ProtectionSpoke steps id ∨
      e.post.episodeId = id ∧ e.post.phase ≠ .idle ∧ isProtection e.input.reason := by
  constructor
  · rintro ⟨d, member, spoke⟩
    rw [List.mem_append, List.mem_singleton] at member
    rcases member with earlier | rfl
    · exact .inl ⟨d, earlier, spoke⟩
    · exact .inr spoke
  · rintro (⟨d, member, spoke⟩ | spoke)
    · exact ⟨d, List.mem_append_left _ member, spoke⟩
    · exact ⟨e, by simp, spoke⟩

theorem withinBudget_other (other : e.post.episodeId ≠ id) (within : WithinBudget cfg steps id) :
    WithinBudget cfg (steps ++ [e]) id where
  comfort unspoken := by
    rw [promptsUnder_append, if_neg other]
    exact within.comfort fun spoke => unspoken (protectionSpoke_append.mpr (.inl spoke))
  total := by
    rw [promptsUnder_append, escalationsUnder_append, if_neg other, if_neg fun both => other both.1]
    exact within.total
  escalations := by
    rw [escalationsUnder_append, if_neg fun both => other both.1]
    exact within.escalations

end Append

/-! ### The budget over a run -/

/-- The counters of the state against the rings of the past. -/
structure BudgetKept (cfg : EpisodeConfig) (past : List EpisodeTrace) (s : EpisodeState) :
    Prop where
  sound : LatchSound s
  unused : ∀ id, s.episodeId < id → promptsUnder past id = 0 ∧ escalationsUnder past id = 0
  prompts : s.phase ≠ .idle → promptsUnder past s.episodeId = s.episodePrompts + s.escalations
  escalated : s.phase ≠ .idle → escalationsUnder past s.episodeId = s.escalations
  latch : s.phase ≠ .idle → s.escalations = 0 ∨ s.emergency = true ∨ s.phase = .cooldown
  guarded : s.phase ≠ .idle → episodeProtected s = true ∨ s.escalations ≠ 0 →
    ProtectionSpoke past s.episodeId
  within : ∀ id, WithinBudget cfg past id

theorem budgetKept_initial (cfg : EpisodeConfig) : BudgetKept cfg [] {} where
  sound := latchSound_initial
  unused _ _ := ⟨rfl, rfl⟩
  prompts awake := absurd rfl awake
  escalated awake := absurd rfl awake
  latch awake := absurd rfl awake
  guarded awake := absurd rfl awake
  within _ := ⟨fun _ => Nat.zero_le _, Nat.zero_le _, Nat.zero_le _⟩

section Keep

variable {cfg : EpisodeConfig} {past : List EpisodeTrace} {s : EpisodeState} {i : EpisodeInput}

theorem episodeCap_le (cheap : cfg.maxPromptsPerEpisode ≤ cfg.maxPromptsPerEpisodeProtection)
    (s : EpisodeState) : episodeCap cfg s ≤ cfg.maxPromptsPerEpisodeProtection := by
  unfold episodeCap
  split
  next => exact le_rfl
  next => exact cheap

theorem episodeCap_comfort {s : EpisodeState} (unguarded : episodeProtected s = false) :
    episodeCap cfg s = cfg.maxPromptsPerEpisode := by
  simp [episodeCap, unguarded]

/-- The budget of an identity from the counters of its state. -/
theorem withinBudget_of_counters {steps : List EpisodeTrace} {s : EpisodeState} {id : ℕ}
    (counted : promptsUnder steps id = s.episodePrompts + s.escalations)
    (escalated : escalationsUnder steps id = s.escalations) (once : s.escalations ≤ 1)
    (capped : s.episodePrompts ≤ cfg.maxPromptsPerEpisodeProtection)
    (comfort : ¬ProtectionSpoke steps id →
      s.episodePrompts ≤ cfg.maxPromptsPerEpisode ∧ s.escalations = 0) :
    WithinBudget cfg steps id where
  comfort unspoken := by
    have := comfort unspoken
    omega
  total := by omega
  escalations := by omega

theorem BudgetKept.prompts_le (kept : BudgetKept cfg past s) (awake : s.phase ≠ .idle) :
    s.episodePrompts ≤ cfg.maxPromptsPerEpisodeProtection ∧
      (¬ProtectionSpoke past s.episodeId → s.episodePrompts ≤ cfg.maxPromptsPerEpisode) := by
  have counted := kept.prompts awake
  have escalated := kept.escalated awake
  have within := kept.within s.episodeId
  constructor
  · have := within.total
    omega
  · intro unspoken
    have := within.comfort unspoken
    omega

/-- A ring under its cap, or silence under the old count. -/
theorem capped_le (cheap : cfg.maxPromptsPerEpisode ≤ cfg.maxPromptsPerEpisodeProtection)
    {r : EpisodeResult} {before : ℕ} {spoken : Prop} (capped : Capped cfg r)
    (spent : r.state.episodePrompts = before + r.prompt.toNat)
    (guarded : episodeProtected r.state = true → spoken)
    (old : before ≤ cfg.maxPromptsPerEpisodeProtection ∧
      (¬spoken → before ≤ cfg.maxPromptsPerEpisode)) :
    r.state.episodePrompts ≤ cfg.maxPromptsPerEpisodeProtection ∧
      (¬spoken → r.state.episodePrompts ≤ cfg.maxPromptsPerEpisode) := by
  cases rings : r.prompt with
  | false =>
    rw [rings, Bool.toNat_false, Nat.add_zero] at spent
    exact spent ▸ old
  | true =>
    refine ⟨(capped rings).trans (episodeCap_le cheap _), fun unspoken => ?_⟩
    cases protection : episodeProtected r.state with
    | true => exact absurd (guarded protection) unspoken
    | false => exact episodeCap_comfort protection ▸ capped rings

theorem unused_append (kept : BudgetKept cfg past s) {e : EpisodeTrace}
    (grows : s.episodeId ≤ e.post.episodeId) (id : ℕ) (later : e.post.episodeId < id) :
    promptsUnder (past ++ [e]) id = 0 ∧ escalationsUnder (past ++ [e]) id = 0 := by
  have other : e.post.episodeId ≠ id := by omega
  rw [promptsUnder_append, escalationsUnder_append, if_neg other, if_neg fun both => other both.1]
  exact kept.unused id (by omega)

/-- The invariant after a tick that leaves an episode on, from its counters. -/
theorem budgetKept_of_counters (kept : BudgetKept cfg past s) {e : EpisodeTrace}
    (sound : LatchSound e.post) (grows : s.episodeId ≤ e.post.episodeId)
    (counted : promptsUnder (past ++ [e]) e.post.episodeId =
      e.post.episodePrompts + e.post.escalations)
    (escalated : escalationsUnder (past ++ [e]) e.post.episodeId = e.post.escalations)
    (once : e.post.escalations ≤ 1)
    (capped : e.post.episodePrompts ≤ cfg.maxPromptsPerEpisodeProtection ∧
      (¬ProtectionSpoke (past ++ [e]) e.post.episodeId →
        e.post.episodePrompts ≤ cfg.maxPromptsPerEpisode))
    (latch : e.post.escalations = 0 ∨ e.post.emergency = true ∨ e.post.phase = .cooldown)
    (guarded : episodeProtected e.post = true ∨ e.post.escalations ≠ 0 →
      ProtectionSpoke (past ++ [e]) e.post.episodeId) : BudgetKept cfg (past ++ [e]) e.post where
  sound := sound
  unused := unused_append kept grows
  prompts _ := counted
  escalated _ := escalated
  latch _ := latch
  guarded _ := guarded
  within id := by
    by_cases same : e.post.episodeId = id
    · refine same ▸ withinBudget_of_counters counted escalated once capped.1 fun unspoken => ?_
      exact ⟨capped.2 unspoken, by_contra fun some => unspoken (guarded (.inr some))⟩
    · exact withinBudget_other same (kept.within id)

/-- A silent tick back to idle closes the account. -/
theorem budgetKept_rests (kept : BudgetKept cfg past s) {e : EpisodeTrace}
    (sound : LatchSound e.post) (id : e.post.episodeId = s.episodeId)
    (ended : e.post.phase = .idle) (silent : e.output.prompt = false) (calm : ¬Escalates e) :
    BudgetKept cfg (past ++ [e]) e.post where
  sound := sound
  unused := unused_append kept id.ge
  prompts awake := absurd ended awake
  escalated awake := absurd ended awake
  latch awake := absurd ended awake
  guarded awake := absurd ended awake
  within id := by
    have same := kept.within id
    refine ⟨fun unspoken => ?_, ?_, ?_⟩
    · have unspoken : ¬ProtectionSpoke past id :=
        fun spoke => unspoken (protectionSpoke_append.mpr (.inl spoke))
      simpa [promptsUnder_append, silent] using same.comfort unspoken
    · simpa [promptsUnder_append, escalationsUnder_append, silent, calm] using same.total
    · simpa [escalationsUnder_append, calm] using same.escalations

theorem budgetKept_step (cheap : cfg.maxPromptsPerEpisode ≤ cfg.maxPromptsPerEpisodeProtection)
    (kept : BudgetKept cfg past s) :
    BudgetKept cfg (past ++ [Trace.Step.of (episodeTick cfg) s i]) (episodeTick cfg s i).1 := by
  have sound : LatchSound (episodeStep cfg i s).state := fun latched =>
    ⟨(episodeStep_latch kept.sound latched).1, (episodeStep_latch kept.sound latched).2.1⟩
  have keeps : s.emergency = true → (episodeStep cfg i s).state.emergency = true ∨
      (episodeStep cfg i s).state.phase = .cooldown := episodeStep_keeps_latch kept.sound
  have spends : Spends cfg i s (episodeStep cfg i s) := episodeStep_spends kept.sound
  have post : (Trace.Step.of (episodeTick cfg) s i).post = (episodeStep cfg i s).state := rfl
  have output : (Trace.Step.of (episodeTick cfg) s i).output = episodeStep cfg i s := rfl
  have pre : (Trace.Step.of (episodeTick cfg) s i).pre = s := rfl
  have input : (Trace.Step.of (episodeTick cfg) s i).input = i := rfl
  change BudgetKept cfg _ (Trace.Step.of (episodeTick cfg) s i).post
  generalize Trace.Step.of (episodeTick cfg) s i = e at post output pre input
  generalize episodeStep cfg i s = r at sound keeps spends post output
  rw [← post] at sound keeps
  have rings := promptsUnder_append past e e.post.episodeId
  have steps := escalationsUnder_append past e e.post.episodeId
  simp only [output, pre, Escalates, if_true, true_and] at rings steps
  cases spends with
  | begins id entered spent none capped spoke =>
    rw [← post] at id entered none
    have unused := kept.unused e.post.episodeId (by omega)
    rw [unused.1] at rings
    rw [unused.2, if_neg (by omega)] at steps
    have guarded : episodeProtected r.state = true → ProtectionSpoke (past ++ [e])
        e.post.episodeId := fun protection =>
      protectionSpoke_append.mpr (.inr ⟨rfl, entered, by rw [input]; exact spoke protection⟩)
    have bounds := capped_le cheap capped (spent.trans (Nat.zero_add _).symm) guarded
      ⟨Nat.zero_le _, fun _ => Nat.zero_le _⟩
    rw [← post] at spent guarded bounds
    exact budgetKept_of_counters kept sound (by omega) (by omega) (by omega) (by omega) bounds
      (.inl none) fun spoken => spoken.elim guarded fun some => absurd none some
  | goesOn id was entered cools spent same capped spoke =>
    rw [← post] at id entered cools same
    rw [id, kept.prompts was] at rings
    rw [id, kept.escalated was, if_neg (by omega)] at steps
    have once := kept.escalated was ▸ (kept.within s.episodeId).escalations
    have earlier : ProtectionSpoke past s.episodeId → ProtectionSpoke (past ++ [e])
        e.post.episodeId := fun spoken => protectionSpoke_append.mpr (.inl (id ▸ spoken))
    have guarded : episodeProtected r.state = true → ProtectionSpoke (past ++ [e])
        e.post.episodeId := fun protection => (spoke protection).elim
      (fun before => earlier (kept.guarded was (.inl before)))
      (fun now => protectionSpoke_append.mpr (.inr ⟨rfl, entered, by rwa [input]⟩))
    have old := kept.prompts_le was
    have bounds := capped_le cheap capped spent guarded
      ⟨old.1, fun unspoken => old.2 fun spoken => unspoken (earlier spoken)⟩
    rw [← post] at spent guarded bounds
    refine budgetKept_of_counters kept sound (by omega) (by rw [id]; omega) (by rw [id]; omega)
      (by omega) bounds ?_ ?_
    · rcases kept.latch was with none | latched | cooling
      · exact .inl (same.trans none)
      · exact .inr (keeps latched)
      · exact .inr (.inr (cools cooling))
    · rintro (protection | some)
      · exact guarded protection
      · exact earlier (kept.guarded was (.inr (same ▸ some)))
  | escalates id was calm entered latched ring same counted spoke =>
    rw [← post] at id entered latched same counted
    have awake : s.phase ≠ .idle := by simp [was]
    -- an unlatched stop request has not escalated yet
    have none : s.escalations = 0 := by simpa [calm, was] using kept.latch awake
    rw [id, kept.prompts awake, ring, Bool.toNat_true] at rings
    rw [id, kept.escalated awake, if_pos (by omega)] at steps
    have spoken : ProtectionSpoke (past ++ [e]) e.post.episodeId :=
      protectionSpoke_append.mpr (.inr ⟨rfl, by simp [entered], by rwa [input]⟩)
    have old := (kept.prompts_le awake).1
    exact budgetKept_of_counters kept sound (by omega) (by rw [id]; omega) (by rw [id]; omega)
      (by omega) ⟨by omega, fun unspoken => absurd spoken unspoken⟩ (.inr (.inl latched))
      fun _ => spoken
  | rests id ended silent same =>
    rw [← post] at id ended same
    exact budgetKept_rests kept sound id ended (by rw [output]; exact silent)
      (by unfold Escalates; rw [pre]; omega)

end Keep

/-- Every identity of every run stays within its budget. -/
theorem prompt_budget (cfg : EpisodeConfig)
    (cheap : cfg.maxPromptsPerEpisode ≤ cfg.maxPromptsPerEpisodeProtection)
    (ticks : List EpisodeInput) (id : ℕ) : WithinBudget cfg (episodeRun cfg ticks) id :=
  (Trace.history_invariant (episodeTick cfg) (BudgetKept cfg) (fun _ _ => True)
    (budgetKept_initial cfg) (fun _ _ _ kept _ => budgetKept_step cheap kept)
    (fun _ _ _ => trivial)).within id

/-- A standing CO2 request against a closed contact, seven minutes a tick. -/
def staleAirTick : EpisodeInput where
  action := .openWindow
  reason := .co2
  level := .ok
  window := .closed
  dtMin := 7

theorem prompt_budget_staleAir :
    promptsUnder (episodeRun {} (List.replicate 3 staleAirTick)) 1 = 2 ∧
      WithinBudget {} (episodeRun {} (List.replicate 3 staleAirTick)) 1 :=
  ⟨by decide +kernel, prompt_budget {} (by decide) _ 1⟩

end Poise
