import IrodsClient.Upload.Run

/-! `UploadDataObjectParallel`: the primary handle it opens on its own connection, the tasks it
launches with the replica token, `taskWaitGroup.Wait()`, and the close of the primary handle. -/
namespace IrodsClient

/-- What a parallel upload does on the server, in order. -/
inductive UploadEvent
  | UploadDataObject
  | OpenDataObjectForPutParallel
  | CloseDataObject (h : Handle)
  | task (i : Nat) (e : UploadEffect)
  deriving DecidableEq, Repr

/-- The event closes the handle `h`, with `CloseDataObject` or `CloseDataObjectReplica`. -/
def UploadEvent.closes (h : Handle) : UploadEvent → Bool
  | .CloseDataObject h' => decide (h' = h)
  | .task _ (.closeReplica _ h') => decide (h' = h)
  | _ => false

/-- The events of an upload whose tasks made the trace `tr`: the primary handle is opened
before the tasks are launched and closed after `Wait` returns. -/
def uploadTrace (tr : List (Nat × UploadEffect)) : List UploadEvent :=
  .OpenDataObjectForPutParallel :: (tr.map fun p => .task p.1 p.2) ++ [.CloseDataObject .primary]

/-- What `UploadDataObjectParallel` gets from outside its tasks: whether the session supports
parallel upload, and whether each call it makes itself succeeds. -/
structure UploadEnv where
  SupportParallelUpload : Bool
  stat : Bool
  acquire : Bool
  connected : Bool
  openForPut : Bool
  replicaInfo : Bool
  close : Bool
  replicate : Bool
  deriving DecidableEq, Repr

/-- `numTasks := taskNum`, or `util.GetNumTasksForParallelTransfer(fileLength)` when that is not
positive. -/
def resolveUploadTasks (getNumTasks : Nat → Int) (fileLength : Nat) (taskNum : Int) : Int :=
  if taskNum ≤ 0 then getNumTasks fileLength else taskNum

/-- What follows `Wait`: close the primary handle and return the first error drained from
`errChan`, or close it, replicate when asked, and return nil. -/
def Upload.finish (env : UploadEnv) (replicate : Bool) (d : Upload)
    (tr : List (Nat × UploadEffect)) : Outcome (List UploadEvent) :=
  match d.errChan with
  | err :: _ => .error err (uploadTrace tr)
  | [] =>
    if ¬env.close then .error "CloseDataObject" (uploadTrace tr)
    else if replicate ∧ ¬env.replicate then .error "ReplicateDataObject" (uploadTrace tr)
    else .nil (uploadTrace tr)

/-- `UploadDataObjectParallel` up to the launch: an early return's outcome, or the task count. -/
def prepareUpload (getNumTasks : Nat → Int) (fileLength : Nat) (taskNum : Int) (env : UploadEnv)
    (serialErr : Option String) : Outcome (List UploadEvent) ⊕ Nat :=
  let serial : Outcome (List UploadEvent) := match serialErr with
    | none => .nil [.UploadDataObject]
    | some err => .error err [.UploadDataObject]
  if ¬env.SupportParallelUpload then .inl serial
  else if ¬env.stat then .inl (.error "failed to stat file %q: %w" [])
  else if fileLength = 0 then .inl serial
  else
    let numTasks := resolveUploadTasks getNumTasks fileLength taskNum
    if numTasks = 1 then .inl serial
    else if ¬env.acquire then .inl (.error "failed to get connection: %w" [])
    else if ¬env.connected then .inl (.error "connection is nil or disconnected" [])
    else if ¬env.openForPut then .inl (.error "OpenDataObjectForPutParallel" [])
    else if ¬env.replicaInfo then .inl (.error "GetReplicaAccessInfo" (uploadTrace []))
    -- `make(chan error, numTasks)` panics below zero, `fileLength / int64(numTasks)` at zero
    else if numTasks ≤ 0 then .inl (.panic [.OpenDataObjectForPutParallel])
    else .inr numTasks.toNat

/-- `UploadDataObjectParallel` of `F` in buffers of `B` bytes, its tasks under `sched`; `none`
when the schedule does not bring every task to its return. -/
def UploadDataObjectParallel (F : List UInt8) (B : Nat) (codes : ErrorCodes)
    (getNumTasks : Nat → Int) (fileLength : Nat) (taskNum : Int) (replicate : Bool)
    (env : UploadEnv) (serialErr : Option String) (sched : List (Nat × Move)) :
    Option (Outcome (List UploadEvent)) :=
  match prepareUpload getNumTasks fileLength taskNum env serialErr with
  | .inl o => some o
  | .inr numTasks =>
    (runSchedule (Upload.step F B codes numTasks) (Upload.start (uploadTasks fileLength numTasks)) []
      sched).bind fun r => if r.1.Finished then some (r.1.finish env replicate r.2) else none

@[simp] theorem mem_uploadTrace_task {tr : List (Nat × UploadEffect)} {i : Nat} {e : UploadEffect} :
    UploadEvent.task i e ∈ uploadTrace tr ↔ (i, e) ∈ tr := by
  simp [uploadTrace]

theorem Upload.finish_obs (env : UploadEnv) (replicate : Bool) (d : Upload)
    (tr : List (Nat × UploadEffect)) : (d.finish env replicate tr).obs = uploadTrace tr := by
  unfold finish
  split
  · rfl
  · split_ifs <;> rfl

theorem Upload.finish_eq_nil {env : UploadEnv} {replicate : Bool} {d : Upload}
    {tr : List (Nat × UploadEffect)} {evs : List UploadEvent}
    (h : d.finish env replicate tr = .nil evs) : d.errChan = [] := by
  unfold finish at h
  split at h
  · cases h
  · assumption

/-- The early returns: the close after a failed `GetReplicaAccessInfo`, or a serial upload. -/
theorem prepareUpload_inl {getNumTasks : Nat → Int} {fileLength : Nat} {taskNum : Int}
    {env : UploadEnv} {serialErr : Option String} {o : Outcome (List UploadEvent)}
    (h : prepareUpload getNumTasks fileLength taskNum env serialErr = .inl o) :
    (o.returned = true → UploadEvent.OpenDataObjectForPutParallel ∈ o.obs →
      o.obs = uploadTrace []) ∧
    (∀ evs, o = .nil evs → env.SupportParallelUpload = true →
      2 ≤ resolveUploadTasks getNumTasks fileLength taskNum →
      fileLength = 0 ∧ evs = [.UploadDataObject]) := by
  simp only [prepareUpload, ite_inl_eq_inl, reduceCtorEq, and_false, or_false] at h
  constructor
  · intro hr ho
    rcases h with ⟨-, rfl⟩ | ⟨-, ⟨-, rfl⟩ | ⟨-, ⟨-, rfl⟩ | ⟨-, ⟨-, rfl⟩ | ⟨-, ⟨-, rfl⟩ |
      ⟨-, ⟨-, rfl⟩ | ⟨-, ⟨-, rfl⟩ | ⟨-, ⟨-, rfl⟩ | ⟨-, -, rfl⟩⟩⟩⟩⟩⟩⟩⟩ <;>
      first | rfl | cases serialErr <;> simp_all [Outcome.obs, Outcome.returned]
  · rintro evs rfl hsup hT
    rcases h with ⟨h1, h⟩ | ⟨-, ⟨-, h⟩ | ⟨-, ⟨h3, h⟩ | ⟨-, ⟨h4, h⟩ | ⟨-, ⟨-, h⟩ |
      ⟨-, ⟨-, h⟩ | ⟨-, ⟨-, h⟩ | ⟨-, ⟨-, h⟩ | ⟨-, -, h⟩⟩⟩⟩⟩⟩⟩⟩ <;>
      cases serialErr <;> simp_all

theorem prepareUpload_inr {getNumTasks : Nat → Int} {fileLength : Nat} {taskNum : Int}
    {env : UploadEnv} {serialErr : Option String} {T : Nat}
    (h : prepareUpload getNumTasks fileLength taskNum env serialErr = .inr T) :
    0 < fileLength ∧ T = (resolveUploadTasks getNumTasks fileLength taskNum).toNat ∧ 0 < T := by
  simp only [prepareUpload, ite_inl_eq_inr, Sum.inr.injEq] at h
  obtain ⟨-, -, h3, -, -, -, -, -, h9, rfl⟩ := h
  exact ⟨Nat.pos_of_ne_zero h3, rfl, by omega⟩

/-- The primary handle is closed once with `CloseDataObject`, and every replica a task opened once
with `CloseDataObjectReplica` on its connection, before the discard and the primary close. -/
def ClosesHandlesOnce (evs : List UploadEvent) : Prop :=
  evs.countP (UploadEvent.closes .primary) = 1 ∧ UploadEvent.CloseDataObject .primary ∈ evs ∧
    (∀ h, UploadEvent.CloseDataObject h ∈ evs → h = .primary) ∧
    ∀ i c h, UploadEvent.task i (.openReplica c h) ∈ evs → c = i ∧ h = .replica i ∧
      evs.countP (UploadEvent.closes h) = 1 ∧
      List.Sublist [UploadEvent.task i (.closeReplica i h), .task i (.discard i)] evs ∧
      List.Sublist [UploadEvent.task i (.closeReplica i h), .CloseDataObject .primary] evs

section trace
variable {F : List UInt8} {T L : Nat} {d : Upload} {tr : List (Nat × UploadEffect)}

theorem countP_closes_primary (hI : d.Inv F T L tr) :
    (tr.map fun p => UploadEvent.task p.1 p.2).countP (UploadEvent.closes .primary) = 0 := by
  refine List.countP_eq_zero.mpr fun ev hev hc => ?_
  obtain ⟨⟨i, e⟩, hp, rfl⟩ := List.mem_map.mp hev
  have hown := (hI.trace _ hp).2.1
  cases e <;> simp [UploadEvent.closes] at hc
  simp only [UploadEffect.Owned, hc] at hown
  cases hown.2

theorem countP_closes_replica (hI : d.Inv F T L tr) (i : Nat) :
    (tr.map fun p => UploadEvent.task p.1 p.2).countP (UploadEvent.closes (.replica i)) =
      (Upload.own i tr).countP UploadEffect.isClose := by
  rw [List.countP_map, Upload.own, List.countP_map, List.countP_filter]
  refine List.countP_congr fun ⟨j, e⟩ hp => ?_
  have hown := (hI.trace _ hp).2.1
  cases e <;> simp [UploadEvent.closes]
  simp only [UploadEffect.Owned] at hown
  obtain ⟨-, rfl⟩ := hown
  simp [eq_comm]

theorem uploadTrace_closes (hI : d.Inv F T L tr) (hfin : d.Finished) :
    ClosesHandlesOnce (uploadTrace tr) := by
  have hmid : ∀ l, List.Sublist l (tr.map fun p => UploadEvent.task p.1 p.2) →
      List.Sublist l (uploadTrace tr) := fun l hl =>
    (hl.trans (List.sublist_append_left _ _)).cons _
  refine ⟨?_, by simp [uploadTrace], fun h hh => by simpa [uploadTrace] using hh, ?_⟩
  · simp [uploadTrace, countP_closes_primary hI, UploadEvent.closes]
  intro i c h ho
  obtain ⟨rfl, rfl, hc, hsub⟩ := hI.replica_closed hfin (mem_uploadTrace_task.mp ho)
  refine ⟨rfl, rfl, ?_, hmid _ (hsub.map fun p : Nat × UploadEffect => UploadEvent.task p.1 p.2), ?_⟩
  · simp [uploadTrace, countP_closes_replica hI, hc, UploadEvent.closes]
  · have hm : UploadEvent.task c (.closeReplica c (.replica c)) ∈ tr.map fun p => .task p.1 p.2 :=
      List.mem_map.mpr ⟨_, hsub.subset (List.mem_cons_self _ _), rfl⟩
    exact ((List.singleton_sublist.mpr hm).append (List.Sublist.refl [_])).cons _

end trace

/-- On every return after `OpenDataObjectForPutParallel` succeeded, the events close each handle
once, as `ClosesHandlesOnce` says. -/
theorem UploadDataObjectParallel_closes_replicas_once {F : List UInt8} {B : Nat}
    {codes : ErrorCodes} {getNumTasks : Nat → Int} {fileLength : Nat} {taskNum : Int}
    {replicate : Bool} {env : UploadEnv} {serialErr : Option String} {sched : List (Nat × Move)}
    {o : Outcome (List UploadEvent)}
    (h : UploadDataObjectParallel F B codes getNumTasks fileLength taskNum replicate env serialErr
      sched = some o)
    (hret : o.returned = true) (hopen : UploadEvent.OpenDataObjectForPutParallel ∈ o.obs) :
    ClosesHandlesOnce o.obs := by
  unfold UploadDataObjectParallel at h
  split at h
  · rename_i hp
    cases h
    rw [(prepareUpload_inl hp).1 hret hopen]
    exact uploadTrace_closes (Upload.start_inv F fileLength 0)
      (by simp [Upload.Finished, Upload.start, uploadTasks, launchLoop])
  · rename_i T hp
    obtain ⟨r, hr, hfin⟩ := Option.bind_eq_some.mp h
    split_ifs at hfin with hf
    cases hfin
    rw [Upload.finish_obs]
    exact uploadTrace_closes (Upload.run_inv (Upload.start_inv F fileLength T) hr) hf

/-- Every call of the upload succeeds and the server supports parallel upload. -/
def UploadEnv.cooperating : UploadEnv := ⟨true, true, true, true, true, true, true, true⟩

/-- The answers of a cooperating server and file to task `i` of an upload in one-byte ranges:
it writes byte `i` of the file through its replica handle and returns. -/
def uploadByteMoves (i : Nat) : List (Nat × Move) :=
  [(i, .ok), (i, .ok), (i, .ok), (i, .ok), (i, .seekTo i), (i, .read 1 .none), (i, .ok), (i, .ok),
    (i, .ok), (i, .ok), (i, .ok), (i, .closeReply true true none), (i, .ok), (i, .ok)]

/-- Two tasks upload the two-byte file `[1, 2]`, one after the other, and nothing fails. -/
theorem UploadDataObjectParallel_two_tasks_nil :
    ∃ evs, UploadDataObjectParallel [1, 2] 65536 ⟨-808000, -817000, -814000⟩ (fun _ => 2) 2 2 false
      .cooperating none (uploadByteMoves 0 ++ uploadByteMoves 1) = some (.nil evs) ∧
      UploadEvent.OpenDataObjectForPutParallel ∈ evs :=
  ⟨_, rfl, by decide⟩

theorem UploadDataObjectParallel_closes_replicas_once_two_tasks :
    ∃ evs, UploadDataObjectParallel [1, 2] 65536 ⟨-808000, -817000, -814000⟩ (fun _ => 2) 2 2 false
      .cooperating none (uploadByteMoves 0 ++ uploadByteMoves 1) = some (.nil evs) ∧
      ClosesHandlesOnce evs :=
  let ⟨evs, h, hopen⟩ := UploadDataObjectParallel_two_tasks_nil
  ⟨evs, h, UploadDataObjectParallel_closes_replicas_once h rfl hopen⟩

/-- A nil parallel upload wrote `F`'s bytes at their own offsets below `fileLength`, each through
the replica of task `o / L`, and reached every offset. -/
theorem UploadDataObjectParallel_writes_file {F : List UInt8} {B : Nat} {codes : ErrorCodes}
    {getNumTasks : Nat → Int} {fileLength : Nat} {taskNum : Int} {replicate : Bool}
    {env : UploadEnv} {serialErr : Option String} {sched : List (Nat × Move)}
    {evs : List UploadEvent} (hF : F.length = fileLength) (hsup : env.SupportParallelUpload = true)
    (hT : 2 ≤ resolveUploadTasks getNumTasks fileLength taskNum)
    (h : UploadDataObjectParallel F B codes getNumTasks fileLength taskNum replicate env serialErr
      sched = some (.nil evs)) :
    (∀ i hd off data, UploadEvent.task i (.write hd off data) ∈ evs → hd = .replica i ∧
      ∀ j < data.length, off + j < fileLength ∧ data[j]? = F[off + j]? ∧
        (off + j) / lengthPerThread fileLength (resolveUploadTasks getNumTasks fileLength taskNum).toNat
          = i) ∧
    ∀ o < fileLength, ∃ i hd off data, UploadEvent.task i (.write hd off data) ∈ evs ∧ off ≤ o ∧
      o < off + data.length := by
  unfold UploadDataObjectParallel at h
  split at h
  · rename_i hp
    cases h
    obtain ⟨rfl, rfl⟩ := (prepareUpload_inl hp).2 evs rfl hsup hT
    simp
  · rename_i T hp
    obtain ⟨hN, rfl, hT0⟩ := prepareUpload_inr hp
    obtain ⟨r, hr, hfin⟩ := Option.bind_eq_some.mp h
    split_ifs at hfin with hf
    have hnil := Upload.finish_eq_nil (Option.some.inj hfin)
    have hevs : evs = uploadTrace r.2 := by
      rw [← Upload.finish_obs env replicate r.1 r.2, Option.some.inj hfin]; rfl
    subst hevs
    have hI := Upload.run_inv (Upload.start_inv F fileLength _) hr
    have hL := lengthPerThread_pos hN hT0
    refine ⟨fun i hd off data hw => ?_, fun o ho => ?_⟩
    · have := hI.write_bytes hL (mem_uploadTrace_task.mp hw)
      rwa [hF] at this
    · have hsend : r.2.countP (·.2.isSend) = 0 := by rw [← hI.errChan, hnil]; rfl
      obtain ⟨i, hd, off, data, hw, h1, h2⟩ :=
        hI.covers hf hsend hL (by rw [hF]; exact le_mul_lengthPerThread _ _ hT0) (hF.symm ▸ ho)
      exact ⟨i, hd, off, data, mem_uploadTrace_task.mpr hw, h1, h2⟩

theorem UploadDataObjectParallel_writes_file_two_tasks :
    ∃ evs, UploadDataObjectParallel [1, 2] 65536 ⟨-808000, -817000, -814000⟩ (fun _ => 2) 2 2 false
      .cooperating none (uploadByteMoves 0 ++ uploadByteMoves 1) = some (.nil evs) ∧
      (∀ i hd off data, UploadEvent.task i (.write hd off data) ∈ evs →
        hd = .replica i ∧ ∀ j < data.length, off + j < 2 ∧ data[j]? = ([1, 2] : List UInt8)[off + j]? ∧
          (off + j) / lengthPerThread 2 2 = i) ∧
      ∀ o < 2, ∃ i hd off data, UploadEvent.task i (.write hd off data) ∈ evs ∧
        off ≤ o ∧ o < off + data.length :=
  let ⟨evs, h, _⟩ := UploadDataObjectParallel_two_tasks_nil
  ⟨evs, h, UploadDataObjectParallel_writes_file rfl rfl (by decide) h⟩

/-- Two tasks each send an error and then a failed close: the first fills `errChan`, and `Wait`
never returns, however the schedule goes on. -/
theorem UploadDataObjectParallel_blocks_on_full_errChan (sched : List (Nat × Move)) :
    UploadDataObjectParallel [1, 2] 65536 ⟨-808000, -817000, -814000⟩ (fun _ => 2) 2 2 false
      ⟨true, true, true, true, true, true, true, true⟩ none
      ([(0, .ok), (0, .ok), (0, .ok), (0, .fail), (0, .ok), (0, .closeReply false true none),
        (0, .ok), (0, .ok), (0, .ok), (1, .ok), (1, .ok), (1, .ok), (1, .fail)] ++ sched) = none := by
  obtain ⟨r, hr, hb, hnf⟩ : ∃ r, runSchedule (Upload.step [1, 2] 65536 ⟨-808000, -817000, -814000⟩ 2)
      (Upload.start (uploadTasks 2 2)) []
      [(0, .ok), (0, .ok), (0, .ok), (0, .fail), (0, .ok), (0, .closeReply false true none),
        (0, .ok), (0, .ok), (0, .ok), (1, .ok), (1, .ok), (1, .ok), (1, .fail)] = some r ∧
      r.1.Blocked 2 ∧ ¬r.1.Finished := ⟨_, rfl, by decide, by decide⟩
  unfold UploadDataObjectParallel
  rw [show prepareUpload (fun _ => 2) 2 2 ⟨true, true, true, true, true, true, true, true⟩ none = .inr 2
    from rfl]
  dsimp only
  rw [runSchedule_append, hr, Option.some_bind]
  cases hs : runSchedule (Upload.step [1, 2] 65536 ⟨-808000, -817000, -814000⟩ 2) r.1 r.2 sched with
  | none => rfl
  | some r' =>
    obtain ⟨-, rfl⟩ := runSchedule_stuck hb.step_eq_none _ _ _ hs
    simp [hnf]

end IrodsClient
