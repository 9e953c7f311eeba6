import Poise.Properties.TraceOrder

/-!
# The rotating trace file

Of everything ever written the two generations keep an unbroken end. It is at least one full
generation long once a line is gone, and neither generation outgrows the cap by more than a line.
-/
namespace Poise

open Trace

def TraceFiles.kept (files : TraceFiles) : List String :=
  files.previous.getD [] ++ files.current.getD []

@[simp] theorem fileBytes_nil : fileBytes [] = 0 := rfl

@[simp] theorem fileBytes_append (front back : List String) :
    fileBytes (front ++ back) = fileBytes front + fileBytes back := by
  induction front with
  | nil => simp [fileBytes]
  | cons line front ih =>
    simp only [List.cons_append, fileBytes, ih]
    omega

/-- What is left of all lines is an end of them, and something is gone only when a full generation
is left. -/
def KeepsEnd (maxBytes : Nat) (all : List String) (files : TraceFiles) : Prop :=
  ∃ gone, gone ++ files.kept = all ∧ (gone ≠ [] → maxBytes ≤ fileBytes files.kept)

def TraceFiles.Within (files : TraceFiles) (limit : Nat) : Prop :=
  fileBytes (files.previous.getD []) ≤ limit ∧ fileBytes (files.current.getD []) ≤ limit

theorem full_iff (files : TraceFiles) (maxBytes : Nat) :
    files.full maxBytes = true ↔
      ∃ lines, files.current = some lines ∧ maxBytes ≤ fileBytes lines := by
  unfold TraceFiles.full
  cases files.current <;> simp

theorem kept_makeRoom {maxBytes : Nat} {all : List String} {files : TraceFiles}
    (kept : KeepsEnd maxBytes all files) : KeepsEnd maxBytes all (files.makeRoom maxBytes) := by
  unfold TraceFiles.makeRoom
  split
  next full =>
    obtain ⟨lines, current, size⟩ := (full_iff _ _).mp full
    obtain ⟨gone, whole, -⟩ := kept
    -- the older generation goes, a full one stays
    refine ⟨gone ++ files.previous.getD [], ?_, fun _ => ?_⟩
    · rw [← whole]
      simp [TraceFiles.kept, TraceFiles.rotate]
    · simpa [TraceFiles.kept, TraceFiles.rotate, current] using size
  next => exact kept

theorem kept_append {maxBytes : Nat} {all : List String} {files : TraceFiles}
    (kept : KeepsEnd maxBytes all files) (line : String) :
    KeepsEnd maxBytes (all ++ [line]) (files.append maxBytes line) := by
  obtain ⟨gone, whole, enough⟩ := kept_makeRoom kept
  have grown : (files.append maxBytes line).kept = (files.makeRoom maxBytes).kept ++ [line] := by
    simp [TraceFiles.append, TraceFiles.kept]
  refine ⟨gone, ?_, fun some => ?_⟩
  · rw [grown, ← List.append_assoc, whole]
  · rw [grown, fileBytes_append]
    exact Nat.le_trans (enough some) (Nat.le_add_right _ _)

theorem within_makeRoom {maxBytes limit : Nat} {files : TraceFiles} (within : files.Within limit) :
    (files.makeRoom maxBytes).Within limit := by
  unfold TraceFiles.makeRoom
  split
  · exact ⟨within.2, by simp [TraceFiles.rotate]⟩
  · exact within

theorem within_append {maxBytes longest : Nat} {files : TraceFiles} {line : String}
    (within : files.Within (maxBytes + longest)) (short : lineBytes line ≤ longest) :
    (files.append maxBytes line).Within (maxBytes + longest) := by
  refine ⟨(within_makeRoom within).1, ?_⟩
  have room : fileBytes ((files.makeRoom maxBytes).current.getD []) ≤ maxBytes := by
    unfold TraceFiles.makeRoom
    split
    next => simp [TraceFiles.rotate]
    next notFull =>
      cases current : files.current with
      | none => simp
      | some lines =>
        simp only [Bool.not_eq_true, TraceFiles.full, current, Option.any_some,
          decide_eq_false_iff_not] at notFull
        simp only [Option.getD_some]
        omega
  simp only [TraceFiles.append, Option.getD_some, fileBytes_append]
  have one : fileBytes [line] = lineBytes line := by simp [fileBytes]
  omega

/-- What a turn does to the file: it appends the written line, or at most makes room. -/
theorem step_files (maxBytes : Nat) (r : TraceRecorder) (i : RecorderEvent) :
    (∃ line, (r.step maxBytes i).2.appended = [line] ∧
      (r.step maxBytes i).1.files = r.files.append maxBytes line) ∨
    ((r.step maxBytes i).2.appended = [] ∧
      ((r.step maxBytes i).1.files = r.files ∨
        (r.step maxBytes i).1.files = r.files.makeRoom maxBytes)) := by
  have headed : ∀ (s : TraceRecorder) k, (s.loopHead k).files = s.files := by
    intro s k
    simp only [TraceRecorder.loopHead, TraceRecorder.setBody]
    by_cases empty : s.queue = []
    · by_cases inside : s.flush = .draining k
      · simp [empty, inside]
      · simp [empty, inside]
    · simp [empty]
  cases i with
  | enqueue line =>
    refine Or.inr ⟨?_, Or.inl (enqueue_frame r line).2⟩
    simp only [TraceRecorder.step, TraceRecorder.enqueue, TraceRecorder.dropOldest]
    split
    · cases r.queue <;> rfl
    · rfl
  | resume k =>
    refine Or.inr ?_
    simp only [TraceRecorder.step]
    split
    · exact ⟨rfl, Or.inl (headed r k)⟩
    · exact ⟨rfl, Or.inl (headed r k)⟩
    · exact ⟨rfl, Or.inl rfl⟩
  | write k =>
    simp only [TraceRecorder.step]
    split
    · exact Or.inl ⟨_, rfl, rfl⟩
    · exact Or.inr ⟨rfl, Or.inl rfl⟩
  | writeFails k rotated =>
    refine Or.inr ?_
    simp only [TraceRecorder.step]
    split
    · refine ⟨rfl, ?_⟩
      cases rotated
      · exact Or.inl rfl
      · exact Or.inr rfl
    · exact ⟨rfl, Or.inl rfl⟩
  | flush =>
    refine Or.inr ?_
    simp only [TraceRecorder.step, TraceRecorder.startFlush, TraceRecorder.drainInline]
    split
    · refine ⟨rfl, Or.inl ?_⟩
      cases r.drain with
      | none => exact headed _ _
      | some k =>
        simp only
        split
        · exact headed _ _
        · rfl
    · exact ⟨rfl, Or.inl rfl⟩
  | flushResumes =>
    refine Or.inr ?_
    simp only [TraceRecorder.step, TraceRecorder.drainInline]
    split
    · split
      · exact ⟨rfl, Or.inl (headed _ _)⟩
      · exact ⟨rfl, Or.inl rfl⟩
    · exact ⟨rfl, Or.inl rfl⟩

end Poise
