import Poise.Safety.WriteConvergence
import Mathlib.Data.List.Chain

/-!
# Laws of the write-convergence watchdog

The three fields of an episode stay consistent under any clock. Under a clock that
never goes back they are exactly what the history says: how many diverged
observations there were since the channel last ended its episode, and when the
first and the latest of them were.
-/
namespace Poise

/-! ### Consistency under any clock -/

/-- An episode has a count exactly when it has both of its instants, in order. -/
structure Episode.Consistent (episode : Episode) : Prop where
  since : episode.diverged = 0 ↔ episode.since = none
  lastEvidence : episode.diverged = 0 ↔ episode.lastEvidence = none
  ordered : ∀ since ∈ episode.since, ∀ last ∈ episode.lastEvidence, since ≤ last

theorem Episode.consistent_empty : Episode.Consistent {} where
  since := by simp
  lastEvidence := by simp
  ordered := by simp

theorem reanchor_le {now t : ℚ} {anchor : Option ℚ} (anchored : t ∈ reanchor now anchor) :
    t ≤ now := by
  simp only [reanchor, Option.mem_def, Option.map_eq_some_iff] at anchored
  obtain ⟨a, _, rfl⟩ := anchored
  split
  · exact le_refl now
  · next later => exact not_lt.mp later

@[simp] theorem reanchor_eq_none {now : ℚ} {anchor : Option ℚ} :
    reanchor now anchor = none ↔ anchor = none := by
  simp [reanchor]

theorem Episode.Consistent.expire {episode : Episode} (consistent : episode.Consistent)
    (now : ℚ) :
    (episode.expire now).Consistent ∧ ∀ since ∈ (episode.expire now).since, since ≤ now := by
  simp only [Episode.expire]
  split
  · exact ⟨Episode.consistent_empty, by simp⟩
  · refine ⟨⟨by simpa using consistent.since, by simpa using consistent.lastEvidence, ?_⟩,
      fun since anchored => reanchor_le anchored⟩
    intro since anchoredSince last anchoredLast
    simp only [reanchor, Option.mem_def, Option.map_eq_some_iff] at anchoredSince anchoredLast
    obtain ⟨s, sinceEq, rfl⟩ := anchoredSince
    obtain ⟨l, lastEq, rfl⟩ := anchoredLast
    have order := consistent.ordered s sinceEq l lastEq
    split <;> split <;> linarith

theorem Episode.Consistent.observe {episode : Episode} (consistent : episode.Consistent)
    (reading : Reading) (now : ℚ) : (episode.observe reading now).Consistent := by
  obtain ⟨expired, bounded⟩ := consistent.expire now
  cases reading with
  | noEvidence => exact expired
  | ended => exact Episode.consistent_empty
  | diverged =>
    constructor
    · simp [Episode.observe, Episode.count]
    · simp [Episode.observe, Episode.count]
    · -- the re-anchored start is not after the new evidence
      intro since started last evidence
      simp only [Episode.observe, Episode.count, Option.mem_def, Option.some.injEq]
        at started evidence
      subst last
      cases anchor : (episode.expire now).since with
      | none => simp_all
      | some s =>
        have bound := bounded s anchor
        simp_all

/-! ### What the history says -/

inductive Channel where
  | setpoint
  | mode
  deriving DecidableEq, Repr

def WriteConvergenceWatchdog.episode (watchdog : WriteConvergenceWatchdog) : Channel → Episode
  | .setpoint => watchdog.sp
  | .mode => watchdog.mode

def Channel.failCount : Channel → ℕ
  | .setpoint => convFailWrites
  | .mode => convFailNudges

/-- What a call means for a channel: nothing, the end of every episode, or a
reading at an instant. -/
inductive Effect where
  | untouched
  | reset
  | read (reading : Reading) (now : ℚ)

def WatchdogCall.on : WatchdogCall → Channel → Effect
  | .observeSetpoint o, .setpoint => .read o.reading o.now
  | .observeMode o, .mode => .read o.reading o.now
  | .reset, _ => .reset
  | _, _ => .untouched

def Effect.apply (episode : Episode) : Effect → Episode
  | .untouched => episode
  | .reset => {}
  | .read reading now => episode.observe reading now

theorem WatchdogCall.apply_episode (watchdog : WriteConvergenceWatchdog) (call : WatchdogCall)
    (channel : Channel) :
    (call.apply watchdog).episode channel = (call.on channel).apply (watchdog.episode channel) := by
  cases call <;> cases channel <;> rfl

theorem WatchdogCall.run_append (calls : List WatchdogCall) (call : WatchdogCall) :
    WatchdogCall.run (calls ++ [call]) = call.apply (WatchdogCall.run calls) := by
  simp [WatchdogCall.run]

theorem WatchdogCall.run_consistent (calls : List WatchdogCall) (channel : Channel) :
    ((WatchdogCall.run calls).episode channel).Consistent := by
  induction calls using List.reverseRecOn with
  | nil => cases channel <;> exact Episode.consistent_empty
  | append_singleton calls call ih =>
    rw [WatchdogCall.run_append, WatchdogCall.apply_episode]
    cases call.on channel with
    | untouched => exact ih
    | reset => exact Episode.consistent_empty
    | read reading now => exact ih.observe reading now

/-- The instants of the diverged observations since the channel's last converged
reading, fresh command or reset. -/
def evidenceTimes (channel : Channel) (calls : List WatchdogCall) : List ℚ :=
  calls.foldl (fun times call =>
    match call.on channel with
    | .untouched | .read .noEvidence _ => times
    | .reset | .read .ended _ => []
    | .read .diverged now => times ++ [now]) []

def WatchdogCall.clock : WatchdogCall → Option ℚ
  | .observeSetpoint o => some o.now
  | .observeMode o => some o.now
  | .reset => none

/-- The instants of a run, none of which is before an earlier one. -/
def ClockForward (calls : List WatchdogCall) : Prop :=
  (calls.filterMap WatchdogCall.clock).Pairwise (· ≤ ·)

/-- The episode counts `recent`, the observations since its last expiry; `clock`
are the instants the run may go on at. -/
structure Tracks (episode : Episode) (older recent : List ℚ) (clock : ℚ → Prop) : Prop where
  count : episode.diverged = recent.length
  since : episode.since = recent.head?
  lastEvidence : episode.lastEvidence = recent.getLast?
  gaps : recent.IsChain fun a b => b - a ≤ convEvidenceTtlS
  expired : ∀ last ∈ older.getLast?, ∀ t, clock t ∨ t ∈ recent.head? →
    convEvidenceTtlS < t - last

theorem tracks_empty (clock : ℚ → Prop) : Tracks {} [] [] clock where
  count := rfl
  since := rfl
  lastEvidence := rfl
  gaps := .nil
  expired := by simp

theorem Tracks.later {episode : Episode} {older recent : List ℚ} {clock after : ℚ → Prop}
    (tracks : Tracks episode older recent clock) (later : ∀ t, after t → clock t) :
    Tracks episode older recent after :=
  { tracks with
    expired := fun last member t reached =>
      tracks.expired last member t (reached.imp_left (later t)) }

-- A clock that has not gone back re-anchors nothing.
theorem reanchor_eq {now : ℚ} {anchor : Option ℚ} (past : ∀ t ∈ anchor, t ≤ now) :
    reanchor now anchor = anchor := by
  cases anchor with
  | none => rfl
  | some t => simp [reanchor, not_lt.mpr (past t rfl)]

theorem Tracks.expire {episode : Episode} {older recent : List ℚ} {clock : ℚ → Prop} {now : ℚ}
    (tracks : Tracks episode older recent clock) (reached : clock now)
    (past : ∀ t ∈ recent, t ≤ now) :
    ∃ before after, before ++ after = older ++ recent ∧
      Tracks (episode.expire now) before after (now ≤ ·) ∧
      ∀ last ∈ after.getLast?, now - last ≤ convEvidenceTtlS := by
  have sinceEq : reanchor now episode.since = recent.head? := by
    rw [tracks.since]
    exact reanchor_eq fun t member => past t (List.mem_of_mem_head? member)
  have lastEq : reanchor now episode.lastEvidence = recent.getLast? := by
    rw [tracks.lastEvidence]
    exact reanchor_eq fun t member => past t (List.mem_of_mem_getLast? member)
  simp only [Episode.expire, sinceEq, lastEq]
  split
  · next gap =>
    -- everything counted so far becomes older
    simp only [Option.any_eq_true, decide_eq_true_eq] at gap
    obtain ⟨last, latest, wide⟩ := gap
    refine ⟨older ++ recent, [], by simp, ⟨rfl, rfl, rfl, .nil, ?_⟩, by simp⟩
    intro other member t at_or_after
    have same : other = last := by
      rw [List.getLast?_append, latest] at member
      simpa using member.symm
    have order : now ≤ t := by simpa using at_or_after
    rw [same]
    linarith
  · next narrow =>
    refine ⟨older, recent, rfl, ⟨tracks.count, rfl, rfl, tracks.gaps, ?_⟩, ?_⟩
    · intro last member t at_or_after
      cases at_or_after with
      | inl after =>
        have gap := tracks.expired last member now (.inl reached)
        linarith
      | inr first => exact tracks.expired last member t (.inr first)
    · intro last latest
      rw [Option.mem_def.mp latest] at narrow
      simpa using narrow

theorem Tracks.counted {episode : Episode} {older recent : List ℚ} {now : ℚ}
    (tracks : Tracks episode older recent (now ≤ ·))
    (narrow : ∀ last ∈ recent.getLast?, now - last ≤ convEvidenceTtlS) :
    Tracks (episode.count now) older (recent ++ [now]) (now ≤ ·) where
  count := by simp [Episode.count, tracks.count]
  since := by
    rw [Episode.count, tracks.since]
    cases recent <;> rfl
  lastEvidence := by simp [Episode.count]
  gaps := by
    apply List.isChain_append.mpr
    exact ⟨tracks.gaps, .singleton _, fun last latest next first => by simp_all⟩
  expired := by
    intro last member t at_or_after
    cases at_or_after with
    | inl after => exact tracks.expired last member t (.inl after)
    | inr first =>
      cases recent with
      | nil =>
        have same : now = t := by simpa using first
        exact tracks.expired last member t (.inl same.le)
      | cons head rest => exact tracks.expired last member t (.inr (by simpa using first))

theorem evidenceTimes_append (channel : Channel) (calls : List WatchdogCall)
    (call : WatchdogCall) :
    evidenceTimes channel (calls ++ [call]) =
      match call.on channel with
      | .untouched | .read .noEvidence _ => evidenceTimes channel calls
      | .reset | .read .ended _ => []
      | .read .diverged now => evidenceTimes channel calls ++ [now] := by
  rw [evidenceTimes, List.foldl_append]
  rfl

theorem WatchdogCall.clock_of_read {call : WatchdogCall} {channel : Channel} {reading : Reading}
    {now : ℚ} (read : call.on channel = .read reading now) : call.clock = some now := by
  cases call <;> cases channel <;> simp_all [WatchdogCall.on, WatchdogCall.clock]

theorem evidenceTimes_subset (channel : Channel) (calls : List WatchdogCall) :
    ∀ t ∈ evidenceTimes channel calls, t ∈ calls.filterMap WatchdogCall.clock := by
  induction calls using List.reverseRecOn with
  | nil => simp [evidenceTimes]
  | append_singleton calls call ih =>
    intro t member
    rw [evidenceTimes_append] at member
    rw [List.filterMap_append, List.mem_append]
    split at member
    · exact .inl (ih t member)
    · exact .inl (ih t member)
    · simp at member
    · simp at member
    · next now read =>
      rw [List.mem_append, List.mem_singleton] at member
      cases member with
      | inl earlier => exact .inl (ih t earlier)
      | inr last => exact .inr (by simp [WatchdogCall.clock_of_read read, last])

theorem ClockForward.of_append {calls : List WatchdogCall} {call : WatchdogCall}
    (forward : ClockForward (calls ++ [call])) :
    ClockForward calls ∧
      ∀ now ∈ call.clock, ∀ t ∈ calls.filterMap WatchdogCall.clock, t ≤ now := by
  simp only [ClockForward, List.filterMap_append, List.pairwise_append] at forward
  refine ⟨forward.1, fun now clock t member => forward.2.2 t member now ?_⟩
  simp [Option.mem_def.mp clock]

/-- Under a clock that never goes back the episode is what the history says. -/
theorem WatchdogCall.run_tracks {calls : List WatchdogCall} (channel : Channel)
    (forward : ClockForward calls) :
    ∃ older recent, evidenceTimes channel calls = older ++ recent ∧
      Tracks ((WatchdogCall.run calls).episode channel) older recent
        (fun t => ∀ n ∈ calls.filterMap WatchdogCall.clock, n ≤ t) := by
  induction calls using List.reverseRecOn with
  | nil =>
    refine ⟨[], [], rfl, ?_⟩
    cases channel <;> exact tracks_empty _
  | append_singleton calls call ih =>
    obtain ⟨before, ordered⟩ := forward.of_append
    obtain ⟨older, recent, times, tracks⟩ := ih before
    have onward : ∀ t, (∀ n ∈ (calls ++ [call]).filterMap WatchdogCall.clock, n ≤ t) →
        ∀ n ∈ calls.filterMap WatchdogCall.clock, n ≤ t := by
      intro t bound n member
      exact bound n (by simp only [List.filterMap_append, List.mem_append]; exact .inl member)
    rw [WatchdogCall.run_append, WatchdogCall.apply_episode, evidenceTimes_append]
    cases effect : call.on channel with
    | untouched => exact ⟨older, recent, times, tracks.later onward⟩
    | reset => exact ⟨[], [], rfl, tracks_empty _⟩
    | read reading now =>
      have clock := WatchdogCall.clock_of_read effect
      have reached := ordered now clock
      have past : ∀ t ∈ recent, t ≤ now := by
        intro t member
        exact reached t (evidenceTimes_subset channel calls t (by simp [times, member]))
      have after : ∀ t, (∀ n ∈ (calls ++ [call]).filterMap WatchdogCall.clock, n ≤ t) →
          now ≤ t := by
        intro t bound
        exact bound now (by simp [clock])
      obtain ⟨stale, fresh, split, expired, narrow⟩ := tracks.expire reached past
      cases reading with
      | noEvidence => exact ⟨stale, fresh, times.trans split.symm, expired.later after⟩
      | ended => exact ⟨[], [], rfl, tracks_empty _⟩
      | diverged =>
        refine ⟨stale, fresh ++ [now], ?_, (expired.counted narrow).later after⟩
        simp [times, ← split]

/-! ### An episode that goes on -/

def Episode.observeAll (episode : Episode) (readings : List (Reading × ℚ)) : Episode :=
  readings.foldl (fun episode read => episode.observe read.1 read.2) episode

/-- The instants of the diverged readings. -/
def divergedTimes (readings : List (Reading × ℚ)) : List ℚ :=
  (readings.filter fun read => read.1 = .diverged).map Prod.snd

/-- The episode counts at least the evidence of these instants, and is as old. -/
structure Counts (episode : Episode) (times : List ℚ) : Prop where
  count : times.length ≤ episode.diverged
  since : ∀ first ∈ times.head?, ∃ since ∈ episode.since, since ≤ first
  lastEvidence : ∀ last ∈ times.getLast?, episode.lastEvidence = some last

theorem counts_nothing (episode : Episode) : Counts episode [] where
  count := Nat.zero_le _
  since := by simp
  lastEvidence := by simp

theorem Episode.expire_since_le (episode : Episode) (now : ℚ) :
    ∀ since ∈ (episode.expire now).since, since ≤ now := by
  intro since anchored
  simp only [Episode.expire] at anchored
  split at anchored
  · cases anchored
  · exact reanchor_le anchored

theorem Counts.expire {episode : Episode} {times : List ℚ} {now : ℚ} (counts : Counts episode times)
    (past : ∀ t ∈ times, t ≤ now) (alive : ∀ last ∈ times.getLast?, now - last ≤ convEvidenceTtlS) :
    Counts (episode.expire now) times := by
  cases latest : times.getLast? with
  | none =>
    rw [List.getLast?_eq_none_iff.mp latest]
    exact counts_nothing _
  | some last =>
    have evidence := counts.lastEvidence last latest
    have kept : reanchor now episode.lastEvidence = some last := by
      rw [evidence]
      exact reanchor_eq (by simpa using past last (List.mem_of_getLast? latest))
    have within : ¬ convEvidenceTtlS < now - last := not_lt.mpr (alive last latest)
    simp only [Episode.expire, kept, Option.any_some, decide_eq_true_eq, if_neg within]
    refine ⟨counts.count, fun first begins => ?_, fun other ends => ?_⟩
    · obtain ⟨since, anchored, before⟩ := counts.since first begins
      have order : since ≤ now := before.trans (past first (List.mem_of_mem_head? begins))
      have same : reanchor now (some since) = some since := reanchor_eq (by simpa using order)
      exact ⟨since, by rw [Option.mem_def.mp anchored, same]; rfl, before⟩
    · rw [← latest, ends]

theorem Counts.counted {episode : Episode} {times : List ℚ} {now : ℚ}
    (counts : Counts episode times) (past : ∀ since ∈ episode.since, since ≤ now) :
    Counts (episode.count now) (times ++ [now]) := by
  refine ⟨?_, fun first begins => ?_, fun last ends => ?_⟩
  · rw [List.length_append, List.length_singleton, Episode.count]
    exact Nat.succ_le_succ counts.count
  · cases times with
    | nil =>
      obtain rfl : now = first := by simpa using begins
      refine ⟨episode.since.getD now, rfl, ?_⟩
      cases anchor : episode.since with
      | none => exact le_rfl
      | some since => exact past since anchor
    | cons head rest =>
      obtain rfl : head = first := by simpa using begins
      obtain ⟨since, anchored, before⟩ := counts.since head rfl
      exact ⟨since, by simp [Episode.count, Option.mem_def.mp anchored], before⟩
  · obtain rfl : now = last := by simpa using ends
    rfl

/-- Readings that end no episode, whose evidence is never further apart than an episode lives,
are all counted. -/
theorem counts_observeAll (episode : Episode) {readings : List (Reading × ℚ)}
    (forward : readings.Pairwise fun a b => a.2 ≤ b.2)
    (going : ∀ read ∈ readings, read.1 ≠ .ended)
    (gaps : (divergedTimes readings).IsChain fun a b => b - a ≤ convEvidenceTtlS)
    (alive : ∀ last ∈ (divergedTimes readings).getLast?, ∀ read ∈ readings,
      read.2 - last ≤ convEvidenceTtlS) :
    Counts (episode.observeAll readings) (divergedTimes readings) := by
  induction readings using List.reverseRecOn with
  | nil => exact counts_nothing _
  | append_singleton readings read ih =>
    obtain ⟨before, -, order⟩ := List.pairwise_append.mp forward
    have times : divergedTimes (readings ++ [read]) =
        divergedTimes readings ++ divergedTimes [read] := by
      rw [divergedTimes, List.filter_append, List.map_append]
      rfl
    have after : episode.observeAll (readings ++ [read]) =
        (episode.observeAll readings).observe read.1 read.2 := by
      rw [Episode.observeAll, List.foldl_append]
      rfl
    have past : ∀ t ∈ divergedTimes readings, t ≤ read.2 := by
      intro t member
      obtain ⟨earlier, inside, rfl⟩ := List.mem_map.mp member
      exact order earlier (List.mem_of_mem_filter inside) read (List.mem_singleton_self _)
    rw [times] at gaps alive ⊢
    obtain ⟨gapsBefore, -, join⟩ := List.isChain_append.mp gaps
    obtain ⟨reading, now⟩ := read
    have near : ∀ last ∈ (divergedTimes readings).getLast?, now - last ≤ convEvidenceTtlS := by
      intro last latest
      cases reading with
      | noEvidence =>
        exact alive last (by simpa [divergedTimes] using latest) (.noEvidence, now) (by simp)
      | ended => exact absurd rfl (going (.ended, now) (by simp))
      | diverged => exact join last latest now rfl
    have counted := ih before (fun r member => going r (List.mem_append_left _ member)) gapsBefore
      fun last latest r member => by
        have earlier : r.2 ≤ now := order r member (reading, now) (by simp)
        linarith [near last latest]
    rw [after]
    cases reading with
    | noEvidence =>
      have nothing : divergedTimes [(Reading.noEvidence, now)] = [] := rfl
      rw [nothing, List.append_nil]
      exact counted.expire past near
    | ended => exact absurd rfl (going (.ended, now) (by simp))
    | diverged =>
      exact (counted.expire past near).counted (Episode.expire_since_le _ now)

theorem Counts.escalated {episode : Episode} {times : List ℚ} {failCount : ℕ} {now : ℚ}
    (counts : Counts episode times) (known : times ≠ []) (enough : failCount ≤ times.length)
    (old : ∀ first ∈ times.head?, convFailMinS ≤ now - first) :
    episode.escalated failCount now = true := by
  obtain ⟨first, begins⟩ := Option.ne_none_iff_exists'.mp (List.head?_eq_none_iff.not.mpr known)
  obtain ⟨since, anchored, before⟩ := counts.since first begins
  have elapsed := old first begins
  rw [Episode.escalated, Bool.and_eq_true, decide_eq_true_eq]
  refine ⟨enough.trans counts.count, ?_⟩
  rw [Option.mem_def.mp anchored]
  apply decide_eq_true
  linarith

/-! ### Escalation -/

/-- Since the channel last ended its episode or let it expire there were enough
diverged observations (`recent`), the first of them long enough ago, and no two
consecutive ones further apart than an episode lives. -/
def SustainedDivergence (channel : Channel) (calls : List WatchdogCall) (now : ℚ) : Prop :=
  ∃ expired recent, evidenceTimes channel calls = expired ++ recent ∧
    (∀ last ∈ expired.getLast?, ∀ first ∈ recent.head?, convEvidenceTtlS < first - last) ∧
    channel.failCount ≤ recent.length ∧
    (∀ first ∈ recent.head?, convFailMinS ≤ now - first) ∧
    recent.IsChain fun a b => b - a ≤ convEvidenceTtlS

theorem Tracks.sustained {channel : Channel} {calls : List WatchdogCall}
    {older recent : List ℚ} {clock : ℚ → Prop} {episode : Episode} {now : ℚ}
    (times : evidenceTimes channel calls = older ++ recent)
    (tracks : Tracks episode older recent clock)
    (escalated : episode.escalated channel.failCount now = true) :
    SustainedDivergence channel calls now := by
  simp only [Episode.escalated, Bool.and_eq_true, decide_eq_true_eq, tracks.count, tracks.since]
    at escalated
  refine ⟨older, recent, times, fun last latest first earliest => ?_, escalated.1, ?_,
    tracks.gaps⟩
  · exact tracks.expired last latest first (.inr earliest)
  · intro first earliest
    have elapsed := escalated.2
    rw [Option.mem_def.mp earliest] at elapsed
    simpa using elapsed

/-- For every sequence of calls the two episodes are consistent, and under a clock
that never goes back an escalation, whenever it is asked for, rests on a sustained
divergence of one channel. -/
theorem convergence_watchdog (calls : List WatchdogCall) :
    (∀ channel, ((WatchdogCall.run calls).episode channel).Consistent) ∧
      (ClockForward calls → ∀ now, (WatchdogCall.run calls).escalated now = true →
        ∃ channel, SustainedDivergence channel calls now) := by
  refine ⟨WatchdogCall.run_consistent calls, fun forward now escalated => ?_⟩
  simp only [WriteConvergenceWatchdog.escalated, Bool.or_eq_true] at escalated
  cases escalated with
  | inl setpoint =>
    obtain ⟨older, recent, times, tracks⟩ := WatchdogCall.run_tracks .setpoint forward
    exact ⟨.setpoint, tracks.sustained times setpoint⟩
  | inr mode =>
    obtain ⟨older, recent, times, tracks⟩ := WatchdogCall.run_tracks .mode forward
    exact ⟨.mode, tracks.sustained times mode⟩

-- Five re-asserts of 21 degrees against a device that stays at 18, 200 s apart.
def ignoredWrites : List WatchdogCall :=
  [0, 200, 400, 600, 800].map fun now => .observeSetpoint
    { actualSp := some 18
      lastWrittenSp := some 21
      tolerance := 0.5
      wrote := true
      evidenceFresh := true
      now := now }

theorem convergence_watchdog_ignored :
    ∃ channel, SustainedDivergence channel ignoredWrites 800 :=
  (convergence_watchdog ignoredWrites).2 (by unfold ClockForward; decide +kernel) 800
    (by decide +kernel)

end Poise
