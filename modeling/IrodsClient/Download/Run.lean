import IrodsClient.Download.Task
import IrodsClient.Partition

/-! The goroutines of a parallel download run together, with `DownloadDataObjectParallel` around them. -/
namespace IrodsClient

/-- A write puts the bytes of `S` at their own offsets inside `[lo, hi)`. -/
def DownloadEffect.WriteIn (S : List UInt8) (lo hi : Nat) : DownloadEffect → Prop
  | .writeAt off data => data = chunk S off data.length ∧ lo ≤ off ∧ off + data.length ≤ hi
  | _ => True

/-- What the download tasks share, and the tasks. -/
structure Download where
  file : List UInt8
  tasks : List DownloadTask
  errChan : List String
  totalBytesDownloaded : Nat
  journal : List DataObjectTransferStatusEntry
  deriving DecidableEq, Repr

namespace Download

/-- The shared state after an effect. A send to `errChan` of capacity `cap` blocks when it is
full. -/
def apply (cap : Nat) (d : Download) : DownloadEffect → Option Download
  | .none => some d
  | .writeAt off data => some { d with file := writeAt d.file off data }
  | .add n => some { d with totalBytesDownloaded := d.totalBytesDownloaded + n }
  | .writeStatus e => some { d with journal := d.journal ++ [e] }
  | .send err => if d.errChan.length < cap then some { d with errChan := d.errChan ++ [err] } else none

/-- Task `i` takes the move `m`. -/
def step (S : List UInt8) (B : Nat) (resumable : Bool) (cap : Nat) (d : Download) (i : Nat)
    (m : Move) : Option (Download × DownloadEffect) :=
  match d.tasks[i]? with
  | none => none
  | some t => match t.step S B resumable d.errChan.length m with
    | none => none
    | some (t', e) => (d.apply cap e).map fun d' => ({ d' with tasks := d.tasks.set i t' }, e)

/-- Every task has returned, so `taskWaitGroup.Wait()` returns. -/
def Finished (d : Download) : Prop := ∀ t ∈ d.tasks, t.pc = .done ∨ t.pc = .exited

instance (d : Download) : Decidable d.Finished :=
  inferInstanceAs (Decidable (∀ t ∈ d.tasks, t.pc = .done ∨ t.pc = .exited))

/-- What `Wait` is followed by: `if len(errChan) > 0 { return <-errChan }; return nil`. -/
def result (d : Download) : Outcome (List UInt8) :=
  match d.errChan with
  | [] => .nil d.file
  | err :: _ => .error err d.file

theorem apply_fields {cap : Nat} {d d' : Download} {e : DownloadEffect} (h : d.apply cap e = some d') :
    d'.file = e.onFile d.file ∧ d'.tasks = d.tasks ∧
      d'.errChan.length = d.errChan.length + (if e.isSend then 1 else 0) ∧
      (∀ en ∈ d'.journal, en ∈ d.journal ∨ e = .writeStatus en) := by
  cases e <;> simp only [apply, Option.some.injEq] at h
  case send err =>
    split_ifs at h
    cases h; simp [DownloadEffect.onFile, DownloadEffect.isSend]
  case writeStatus en =>
    cases h; simp only [DownloadEffect.onFile, DownloadEffect.isSend, List.mem_append, List.mem_singleton]
    exact ⟨trivial, trivial, rfl, fun x hx => hx.imp_right (congrArg _ ·.symm)⟩
  all_goals cases h; simp [DownloadEffect.onFile, DownloadEffect.isSend]

end Download

/-- `downloadTask(taskID, taskOffset, taskLength)` about to run, resuming at `lastOffset`:
`taskRemain := taskLength - (lastOffset - taskOffset)`. -/
def DownloadTask.init (taskID taskOffset taskLength lastOffset : Nat) : DownloadTask :=
  { taskID, taskOffset, taskLength, taskRemain := taskLength - (lastOffset - taskOffset),
    lastOffset, pos := 0, pc := .start }

/-- The tasks the launch loop starts for `numTasks` tasks over `fileLength` bytes; task `i`
resumes at `lastOffsetOf taskOffset`. -/
def launchTasks (fileLength numTasks : Nat) (lastOffsetOf : Nat → Nat) : List DownloadTask :=
  (launchLoop (lengthPerThread fileLength numTasks) numTasks 0 0).map fun p =>
    DownloadTask.init p.1 p.2 (lengthPerThread fileLength numTasks) (lastOffsetOf p.2)

theorem mem_launchTasks {N T : Nat} {lo : Nat → Nat} {u : DownloadTask} :
    u ∈ launchTasks N T lo ↔ ∃ j < T,
      u = DownloadTask.init j (j * lengthPerThread N T) (lengthPerThread N T) (lo (j * lengthPerThread N T)) := by
  simp [launchTasks, launchLoop_eq, eq_comm]

theorem getElem?_launchTasks (N T : Nat) (lo : Nat → Nat) (j : Nat) :
    (launchTasks N T lo)[j]? = if j < T then
      some (DownloadTask.init j (j * lengthPerThread N T) (lengthPerThread N T)
        (lo (j * lengthPerThread N T))) else none := by
  simp only [launchTasks, launchLoop_eq, List.map_map, List.getElem?_map, List.getElem?_range']
  split_ifs <;> simp_all [Function.comp, List.getElem?_range]

namespace Download

/-- The run invariant: each task keeps its range and its own invariant, the file is `P` past the
ranges, every journal entry records a held prefix, and `errChan` holds one error per sender. -/
structure Inv (S P : List UInt8) (T L : Nat) (d : Download) : Prop where
  length : d.tasks.length = T
  shape : ∀ j t, d.tasks[j]? = some t → t.taskID = j ∧ t.taskOffset = j * L ∧ t.taskLength = L
  tasks : ∀ t ∈ d.tasks, t.Inv S d.file
  beyond : ∀ o, min S.length (T * L) ≤ o → d.file[o]? = P[o]?
  journal : ∀ en ∈ d.journal, en.Length = L ∧ en.CompletedLength ≤ L ∧
    Covers S d.file en.StartOffset (en.StartOffset + en.CompletedLength)
  errChan : d.errChan.length = d.tasks.countP (·.pc = .exited)

theorem step_eq_some {S : List UInt8} {B cap : Nat} {r : Bool} {d d' : Download} {i : Nat}
    {m : Move} {e : DownloadEffect} (h : d.step S B r cap i m = some (d', e)) :
    ∃ t t' d'', d.tasks[i]? = some t ∧ t.step S B r d.errChan.length m = some (t', e) ∧
      d.apply cap e = some d'' ∧ d' = { d'' with tasks := d.tasks.set i t' } := by
  unfold step at h
  cases ht : d.tasks[i]? with
  | none => simp [ht] at h
  | some t =>
  cases hs : t.step S B r d.errChan.length m with
  | none => simp [ht, hs] at h
  | some p =>
  obtain ⟨t', e'⟩ := p
  simp only [ht, hs, Option.map_eq_some'] at h
  obtain ⟨d'', ha, hd⟩ := h
  cases hd
  exact ⟨t, t', d'', rfl, hs, ha, rfl⟩

theorem step_inv {S P : List UInt8} {B T L cap : Nat} {r : Bool} {d d' : Download} {i : Nat}
    {m : Move} {e : DownloadEffect} (hI : d.Inv S P T L) (h : d.step S B r cap i m = some (d', e)) :
    d'.Inv S P T L := by
  obtain ⟨t, t', d'', ht, hs, ha, rfl⟩ := step_eq_some h
  obtain ⟨hi, hti⟩ := List.getElem?_eq_some_iff.mp ht
  have hmem : t ∈ d.tasks := hti ▸ List.getElem_mem hi
  have ok := DownloadTask.step_ok hs (hI.tasks t hmem)
  obtain ⟨hfile, htasks, hchan, hjournal⟩ := apply_fields ha
  obtain ⟨hid, hoff, hlen⟩ := hI.shape i t ht
  have hiT : i < T := hI.length ▸ hi
  have hfile' : d''.file = d.file ∨
      ∃ off k, d''.file = writeAt d.file off (chunk S off k) ∧ off + k ≤ T * L := by
    rw [hfile]
    cases e with
    | writeAt off data =>
      obtain ⟨k, rfl, -, hend⟩ := ok.writeAt off data rfl
      have : (i + 1) * L ≤ T * L := Nat.mul_le_mul_right L hiT
      rw [Nat.succ_mul] at this
      exact .inr ⟨off, k, rfl, by omega⟩
    | _ => exact .inl rfl
  have hcov : ∀ a b, Covers S d.file a b → Covers S d''.file a b := fun a b hc => by
    rcases hfile' with h | ⟨off, k, h, -⟩ <;> rw [h]
    exacts [hc, hc.writeAt_chunk _ _]
  refine ⟨by simp [hI.length], ?_, ?_, ?_, ?_, ?_⟩
  · intro j u hu
    dsimp only at hu
    rw [List.getElem?_set] at hu
    split_ifs at hu with hij
    · cases hu; subst hij
      exact ⟨ok.taskID.trans hid, ok.taskOffset.trans hoff, ok.taskLength.trans hlen⟩
    · exact hI.shape j u hu
  · intro u hu
    dsimp only at hu
    rcases List.mem_or_eq_of_mem_set hu with hu | rfl
    · rcases hfile' with h | ⟨off, k, h, -⟩ <;> rw [h]
      exacts [hI.tasks u hu, (hI.tasks u hu).writeAt_chunk _ _]
    · rw [hfile]; exact ok.inv
  · intro o ho
    rw [← hI.beyond o ho]
    rcases hfile' with h | ⟨off, k, h, hk⟩ <;> rw [h]
    exact getElem?_writeAt_chunk_of_le (by omega)
  · intro en hen
    rcases hjournal en hen with hen | rfl
    · obtain ⟨h1, h2, h3⟩ := hI.journal en hen
      exact ⟨h1, h2, hcov _ _ h3⟩
    · obtain ⟨h1, h2, h3, h4⟩ := ok.writeStatus en rfl
      exact ⟨h2.trans hlen, hlen ▸ h3, hcov _ _ h4⟩
  · have hset := countP_set (fun u : DownloadTask => decide (u.pc = .exited)) d.tasks i t' hi
    have hnot : t.pc ≠ .exited := fun hx => by
      rw [DownloadTask.step_of_done_or_exited (.inr hx)] at hs; cases hs
    have hx : decide (t'.pc = .exited) = e.isSend := by simp [ok.exited]
    rw [← hti] at hnot
    simp only [hnot, decide_False, Bool.false_eq_true, if_false, Nat.add_zero, hx] at hset
    dsimp only
    rw [hchan, hI.errChan, hset]

/-- A task is held up only where its own step is impossible: `errChan` has room for every send. -/
theorem Inv.step_eq_none_iff {S P : List UInt8} {B T L : Nat} {r : Bool} {d : Download} {i : Nat}
    {t : DownloadTask} {m : Move} (hI : d.Inv S P T L) (ht : d.tasks[i]? = some t) :
    d.step S B r T i m = none ↔ t.step S B r d.errChan.length m = none := by
  unfold step
  rw [ht]
  cases hs : t.step S B r d.errChan.length m with
  | none => simp [hs]
  | some p =>
    obtain ⟨t', e⟩ := p
    simp only [hs, Option.map_eq_none', reduceCtorEq, iff_false]
    cases e <;> simp only [apply, reduceCtorEq, not_false_eq_true]
    have hnot : t.pc ≠ .exited := fun hx => by
      rw [DownloadTask.step_of_done_or_exited (.inr hx)] at hs; cases hs
    have hmem : t ∈ d.tasks := by
      obtain ⟨h, rfl⟩ := List.getElem?_eq_some_iff.mp ht; exact List.getElem_mem h
    have hlt : d.errChan.length < T := by
      rw [hI.errChan, ← hI.length]
      exact lt_of_le_of_ne (List.countP_le_length _) fun heq => hnot (by
        simpa using List.countP_eq_length.mp heq t hmem)
    simp [hlt]

theorem run_inv {S P : List UInt8} {B T L cap : Nat} {r : Bool} {d : Download}
    {tr : List (Nat × DownloadEffect)} {sched : List (Nat × Move)}
    {res : Download × List (Nat × DownloadEffect)} (hI : d.Inv S P T L)
    (h : runSchedule (step S B r cap) d tr sched = some res) : res.1.Inv S P T L :=
  runSchedule_invariant (fun d _ => d.Inv S P T L) (fun _ _ _ _ _ _ hs hi => step_inv hi hs)
    sched d tr res h hI

theorem step_writeIn {S P : List UInt8} {B T L cap : Nat} {r : Bool} {d d' : Download} {i : Nat}
    {m : Move} {e : DownloadEffect} (hI : d.Inv S P T L) (h : d.step S B r cap i m = some (d', e)) :
    i < T ∧ e.WriteIn S (i * L) (i * L + L) := by
  obtain ⟨t, t', d'', ht, hs, -, -⟩ := step_eq_some h
  obtain ⟨hi, hti⟩ := List.getElem?_eq_some_iff.mp ht
  have ok := DownloadTask.step_ok hs (hI.tasks t (hti ▸ List.getElem_mem hi))
  obtain ⟨-, hoff, hlen⟩ := hI.shape i t ht
  refine ⟨hI.length ▸ hi, ?_⟩
  cases e with
  | writeAt off data =>
    obtain ⟨k, rfl, h1, h2⟩ := ok.writeAt off data rfl
    refine ⟨chunk_eq_chunk_length S off k, by omega, ?_⟩
    simp only [length_chunk]
    omega
  | _ => trivial

theorem run_writeIn {S P : List UInt8} {B T L cap : Nat} {r : Bool} {d : Download}
    {tr : List (Nat × DownloadEffect)} {sched : List (Nat × Move)}
    {res : Download × List (Nat × DownloadEffect)} (hI : d.Inv S P T L)
    (htr : ∀ p ∈ tr, p.1 < T ∧ p.2.WriteIn S (p.1 * L) (p.1 * L + L))
    (h : runSchedule (step S B r cap) d tr sched = some res) :
    ∀ p ∈ res.2, p.1 < T ∧ p.2.WriteIn S (p.1 * L) (p.1 * L + L) :=
  (runSchedule_invariant (fun d tr => d.Inv S P T L ∧
      ∀ p ∈ tr, p.1 < T ∧ p.2.WriteIn S (p.1 * L) (p.1 * L + L))
    (fun _ _ _ _ _ _ hs hi => ⟨step_inv hi.1 hs, fun p hp => by
      rcases List.mem_append.mp hp with hp | hp
      · exact hi.2 p hp
      · rw [List.mem_singleton.mp hp]; exact step_writeIn hi.1 hs⟩)
    sched d tr res h ⟨hI, htr⟩).2

/-- The shared state when the tasks are launched over the local file `P`. -/
def start (P : List UInt8) (tasks : List DownloadTask) : Download :=
  { file := P, tasks, errChan := [], totalBytesDownloaded := 0, journal := [] }

/-- The launched tasks start the invariant when each resumes at a point the file already holds. -/
theorem start_inv {S P : List UInt8} {N T : Nat} {lo : Nat → Nat}
    (hlo : ∀ j < T, j * lengthPerThread N T ≤ lo (j * lengthPerThread N T) ∧
      lo (j * lengthPerThread N T) ≤ j * lengthPerThread N T + lengthPerThread N T ∧
      Covers S P (j * lengthPerThread N T) (lo (j * lengthPerThread N T))) :
    (start P (launchTasks N T lo)).Inv S P T (lengthPerThread N T) := by
  refine ⟨by simp [start, launchTasks, launchLoop_eq], ?_, ?_, fun _ _ => rfl, by simp [start],
    ?_⟩
  · intro j u hu
    simp only [start, getElem?_launchTasks] at hu
    split_ifs at hu; cases hu
    exact ⟨rfl, rfl, rfl⟩
  · intro u hu
    obtain ⟨j, hj, rfl⟩ := mem_launchTasks.mp hu
    obtain ⟨h1, h2, h3⟩ := hlo j hj
    exact ⟨h1, by simp [DownloadTask.init]; omega, h3, by simp [DownloadTask.PcInv, DownloadTask.init]⟩
  · simp only [start, List.length_nil]
    refine (List.countP_eq_zero.mpr fun u hu => ?_).symm
    obtain ⟨j, -, rfl⟩ := mem_launchTasks.mp hu
    simp [DownloadTask.init]

/-- When every task has returned and none sent an error, the file is the object's first bytes. -/
theorem Inv.file_eq {S P : List UInt8} {T L : Nat} {d : Download} (hI : d.Inv S P T L)
    (hL : 0 < L) (hfin : d.Finished) (hnil : d.errChan = []) :
    d.file = S.take (min S.length (T * L)) ++ P.drop (min S.length (T * L)) := by
  have hnone : ∀ t ∈ d.tasks, t.pc ≠ .exited := by
    have := hI.errChan
    rw [hnil, List.length_nil, eq_comm, List.countP_eq_zero] at this
    simpa using this
  apply List.ext_getElem?
  intro o
  have htake : (S.take (min S.length (T * L))).length = min S.length (T * L) := by simp
  by_cases ho : o < min S.length (T * L)
  · rw [List.getElem?_append_left (by omega), List.getElem?_take_of_lt ho]
    obtain ⟨hj, hlo, hhi⟩ := div_mem_task hL (show o < T * L by omega)
    obtain ⟨t, ht⟩ : ∃ t, d.tasks[o / L]? = some t :=
      ⟨_, List.getElem?_eq_getElem (hI.length ▸ hj)⟩
    have hmem : t ∈ d.tasks := by
      obtain ⟨h, rfl⟩ := List.getElem?_eq_some_iff.mp ht; exact List.getElem_mem h
    obtain ⟨-, hoff, hlen⟩ := hI.shape _ t ht
    obtain ⟨-, hl, hc, hp⟩ := hI.tasks t hmem
    have hdone : t.pc = .done := (hfin t hmem).resolve_right (hnone t hmem)
    simp only [DownloadTask.PcInv, hdone] at hp
    exact hc o (by omega) (by omega) (by omega)
  · rw [List.getElem?_append_right (by omega), List.getElem?_drop, htake,
      Nat.add_sub_cancel' (by omega)]
    exact hI.beyond o (by omega)

end Download

/-- `numTasks := taskNum`, or `util.GetNumTasksForParallelTransfer(fileLength)` when that is not
positive, then at most `session.GetConfig().ConnectionMaxNumber`. -/
def resolveNumTasks (getNumTasks : Nat → Int) (connectionMaxNumber : Int) (fileLength : Nat)
    (taskNum : Int) : Int :=
  let numTasks := if taskNum ≤ 0 then getNumTasks fileLength else taskNum
  if numTasks > connectionMaxNumber then connectionMaxNumber else numTasks

theorem resolveNumTasks_le (getNumTasks : Nat → Int) (connectionMaxNumber : Int) (fileLength : Nat)
    (taskNum : Int) :
    resolveNumTasks getNumTasks connectionMaxNumber fileLength taskNum ≤ connectionMaxNumber := by
  dsimp only [resolveNumTasks]
  split_ifs <;> omega

/-- What `DownloadDataObjectParallel` gets from outside its tasks: whether creating the local
file succeeds, and how many connections `AcquireConnectionsMulti(numTasks)` returns. -/
structure DownloadEnv where
  create : Bool
  connections : Nat
  deriving DecidableEq, Repr

/-- `DownloadDataObjectParallel` of `S` into a file holding `prior`, its tasks under `sched`;
`none` when the schedule does not bring every task to its return. -/
def DownloadDataObjectParallel (S : List UInt8) (B : Nat) (getNumTasks : Nat → Int)
    (connectionMaxNumber : Int) (fileLength : Nat) (taskNum : Int) (env : DownloadEnv)
    (prior : List UInt8) (sched : List (Nat × Move)) : Option (Outcome (List UInt8)) :=
  if fileLength = 0 then
    some (if env.create then .nil [] else .error "failed to create file %q: %w" prior)
  else
    let numTasks := resolveNumTasks getNumTasks connectionMaxNumber fileLength taskNum
    if ¬env.create then some (.error "failed to create file %q: %w" prior)
    -- `make(chan error, numTasks)` panics below zero, `fileLength / int64(numTasks)` at zero
    else if numTasks ≤ 0 then some (.panic [])
    -- `connections[taskID]` is out of range for a task the session gave no connection
    else if env.connections < numTasks.toNat then some (.panic [])
    else
      (runSchedule (Download.step S B false numTasks.toNat)
        (Download.start [] (launchTasks fileLength numTasks.toNat fun off => off)) [] sched).bind
        fun r => if r.1.Finished then some r.1.result else none

/-- `DownloadDataObject`: `DownloadDataObjectParallel` with one task. -/
def DownloadDataObject (S : List UInt8) (B : Nat) (getNumTasks : Nat → Int)
    (connectionMaxNumber : Int) (fileLength : Nat) (env : DownloadEnv) (prior : List UInt8)
    (sched : List (Nat × Move)) : Option (Outcome (List UInt8)) :=
  DownloadDataObjectParallel S B getNumTasks connectionMaxNumber fileLength 1 env prior sched

/-- The number of tasks `DownloadDataObjectParallel` launches, when it launches any. -/
def launchedTasks (getNumTasks : Nat → Int) (connectionMaxNumber : Int) (fileLength : Nat)
    (taskNum : Int) : Nat :=
  (resolveNumTasks getNumTasks connectionMaxNumber fileLength taskNum).toNat

theorem DownloadDataObjectParallel_launched {S : List UInt8} {B : Nat} {getNumTasks : Nat → Int}
    {connectionMaxNumber : Int} {fileLength : Nat} {taskNum : Int} {env : DownloadEnv}
    {prior file : List UInt8} {sched : List (Nat × Move)} (hN : 0 < fileLength)
    (h : DownloadDataObjectParallel S B getNumTasks connectionMaxNumber fileLength taskNum env prior
      sched = some (.nil file)) :
    0 < launchedTasks getNumTasks connectionMaxNumber fileLength taskNum := by
  unfold DownloadDataObjectParallel at h
  simp only [Nat.pos_iff_ne_zero.mp hN, if_false] at h
  split_ifs at h <;> first | cases h | (unfold launchedTasks; omega)

/-- A nil return for a positive `fileLength` leaves the object's first `min |S| (T * L)` bytes,
whatever the interleaving and the retries. -/
theorem DownloadDataObjectParallel_file {S : List UInt8} {B : Nat} {getNumTasks : Nat → Int}
    {connectionMaxNumber : Int} {fileLength : Nat} {taskNum : Int} {env : DownloadEnv}
    {prior file : List UInt8} {sched : List (Nat × Move)} (hN : 0 < fileLength)
    (h : DownloadDataObjectParallel S B getNumTasks connectionMaxNumber fileLength taskNum env prior
      sched = some (.nil file)) :
    file = S.take (min S.length (launchedTasks getNumTasks connectionMaxNumber fileLength taskNum *
      lengthPerThread fileLength (launchedTasks getNumTasks connectionMaxNumber fileLength taskNum))) := by
  unfold DownloadDataObjectParallel at h
  unfold launchedTasks
  set T := (resolveNumTasks getNumTasks connectionMaxNumber fileLength taskNum).toNat
  simp only [Nat.pos_iff_ne_zero.mp hN, if_false] at h
  split_ifs at h with hc hT hconn
  all_goals try cases h
  obtain ⟨r, hr, hfin⟩ := Option.bind_eq_some.mp h
  split_ifs at hfin with hf
  have hT0 : 0 < T := by omega
  have hI := Download.run_inv (@Download.start_inv S [] fileLength T (fun off => off)
    fun _ _ => ⟨le_rfl, Nat.le_add_right _ _, Covers.empty S [] _⟩) hr
  unfold Download.result at hfin
  split at hfin
  · cases hfin
    rw [hI.file_eq (lengthPerThread_pos hN hT0) hf ‹_›]
    simp
  · cases hfin

/-- Two nil downloads of one object with any task counts leave the same file when the object is
no longer than `fileLength`. -/
theorem DownloadDataObjectParallel_task_counts_agree {S : List UInt8} {B : Nat}
    {getNumTasks : Nat → Int} {connectionMaxNumber : Int} {fileLength : Nat} {taskNum₁ taskNum₂ : Int}
    {env₁ env₂ : DownloadEnv} {prior₁ prior₂ file₁ file₂ : List UInt8}
    {sched₁ sched₂ : List (Nat × Move)} (hN : 0 < fileLength)
    (h₁ : DownloadDataObjectParallel S B getNumTasks connectionMaxNumber fileLength taskNum₁ env₁
      prior₁ sched₁ = some (.nil file₁))
    (h₂ : DownloadDataObjectParallel S B getNumTasks connectionMaxNumber fileLength taskNum₂ env₂
      prior₂ sched₂ = some (.nil file₂)) :
    file₁ = S.take (min S.length (launchedTasks getNumTasks connectionMaxNumber fileLength taskNum₁ *
      lengthPerThread fileLength (launchedTasks getNumTasks connectionMaxNumber fileLength taskNum₁))) ∧
    file₂ = S.take (min S.length (launchedTasks getNumTasks connectionMaxNumber fileLength taskNum₂ *
      lengthPerThread fileLength (launchedTasks getNumTasks connectionMaxNumber fileLength taskNum₂))) ∧
    (S.length ≤ fileLength → file₁ = file₂) := by
  have e₁ := DownloadDataObjectParallel_file hN h₁
  have e₂ := DownloadDataObjectParallel_file hN h₂
  refine ⟨e₁, e₂, fun hS => ?_⟩
  rw [e₁, e₂,
    Nat.min_eq_left (hS.trans (le_mul_lengthPerThread _ _ (DownloadDataObjectParallel_launched hN h₁))),
    Nat.min_eq_left (hS.trans (le_mul_lengthPerThread _ _ (DownloadDataObjectParallel_launched hN h₂)))]

/-- A cooperating run of task `i` from `lastOffset`: one read of `k` bytes with `err`, then return. -/
def downloadRangeMoves (resumable : Bool) (i lastOffset k : Nat) (err : ReadErr) :
    List (Nat × Move) :=
  let opens : List Move := [.ok, .ok] ++ (if resumable then [.ok] else []) ++ [.ok] ++
    (if lastOffset = 0 then [] else [.seekTo lastOffset, .ok])
  let read : List Move := if k = 0 then [] else
    [.read k err, .ok, .ok] ++ (if resumable then [.ok] else []) ++ [.ok] ++
      (if err = .eof then [] else [.ok])
  (opens ++ read ++ (if k ≠ 0 ∧ err = .eof then [] else [Move.ok])).map (i, ·)

theorem DownloadDataObjectParallel_task_counts_agree_three_bytes :
    ∃ file₁ file₂,
      DownloadDataObjectParallel [1, 2, 3] 65536 (fun _ => 1) 16 3 1 ⟨true, 1⟩ []
        (downloadRangeMoves false 0 0 3 .none) = some (.nil file₁) ∧
      DownloadDataObjectParallel [1, 2, 3] 65536 (fun _ => 1) 16 3 2 ⟨true, 2⟩ [7]
        (downloadRangeMoves false 0 0 2 .none ++ downloadRangeMoves false 1 2 2 .eof) =
        some (.nil file₂) ∧ file₁ = file₂ :=
  ⟨_, _, rfl, rfl, (@DownloadDataObjectParallel_task_counts_agree [1, 2, 3] 65536 (fun _ => 1) 16 3 1 2
    ⟨true, 1⟩ ⟨true, 2⟩ [] [7] _ _ (downloadRangeMoves false 0 0 3 .none)
    (downloadRangeMoves false 0 0 2 .none ++ downloadRangeMoves false 1 2 2 .eof) (by decide) rfl rfl).2.2
    (by decide)⟩

/-- With an object one byte longer than `fileLength`, one task and two tasks both return nil with
different files. -/
theorem DownloadDataObject_differs_from_two_tasks :
    DownloadDataObject [1, 2, 3, 4, 5, 6] 65536 (fun _ => 1) 16 5 ⟨true, 1⟩ []
      (downloadRangeMoves false 0 0 5 .none) = some (.nil [1, 2, 3, 4, 5]) ∧
    DownloadDataObjectParallel [1, 2, 3, 4, 5, 6] 65536 (fun _ => 1) 16 5 2 ⟨true, 2⟩ []
      (downloadRangeMoves false 0 0 3 .none ++ downloadRangeMoves false 1 3 3 .none) =
      some (.nil [1, 2, 3, 4, 5, 6]) := ⟨by decide, by decide⟩

end IrodsClient
