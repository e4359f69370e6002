import IrodsClient.Download.Run
import Mathlib.Logic.Relation

/-! `DownloadDataObjectParallelResumable`: the resume journal beside the local file, what an
interrupted invocation leaves on disk, and the invocation that resumes from it. -/
namespace IrodsClient

/-- Modelled from the spec: the resume journal on disk, a header with the total size and the task
count, then the entries of a run (`DataObjectTransferStatusLocal` is not under `src/`). -/
structure Journal where
  Size : Nat
  Threads : Int
  entries : List DataObjectTransferStatusEntry
  deriving DecidableEq, Repr

/-- What a download leaves on the local disk: the local file and the journal beside it. -/
structure Disk where
  file : List UInt8
  journal : Option Journal
  deriving DecidableEq, Repr

/-- Modelled from the spec: `GetOrNewDataObjectTransferStatusLocal` reads the journal beside the
file, and starts a new status when there is none, or when it was written for another size. -/
def GetOrNewDataObjectTransferStatusLocal (journal : Option Journal) (size : Nat)
    (threads : Int) : Journal :=
  match journal with
  | some j => if j.Size = size then j else ⟨size, threads, []⟩
  | none => ⟨size, threads, []⟩

@[simp] theorem GetOrNewDataObjectTransferStatusLocal_size (journal : Option Journal) (size : Nat)
    (threads : Int) : (GetOrNewDataObjectTransferStatusLocal journal size threads).Size = size := by
  unfold GetOrNewDataObjectTransferStatusLocal
  split
  · split_ifs <;> simp_all
  · rfl

theorem GetOrNewDataObjectTransferStatusLocal_mem {journal : Option Journal} {size : Nat}
    {threads : Int} {e : DataObjectTransferStatusEntry}
    (h : e ∈ (GetOrNewDataObjectTransferStatusLocal journal size threads).entries) :
    GetOrNewDataObjectTransferStatusLocal journal size threads ∈ journal := by
  unfold GetOrNewDataObjectTransferStatusLocal at h ⊢
  split at h
  · split_ifs at h ⊢ <;> simp_all
  · simp at h

/-- Modelled from the spec: the entry of the status map for `startOffset`, the last one the
journal holds for it. -/
def Journal.lookup (j : Journal) (startOffset : Nat) : Option DataObjectTransferStatusEntry :=
  j.entries.reverse.find? (·.StartOffset = startOffset)

/-- `lastOffset` of the task at `taskOffset`: `transferStatusEntry.StartOffset +
transferStatusEntry.CompletedLength` when the status has an entry for it. -/
def resumeOffset (status : Journal) (taskOffset : Nat) : Nat :=
  match status.lookup taskOffset with
  | some e => e.StartOffset + e.CompletedLength
  | none => taskOffset

/-- Which file operations on the journal and the local file succeed, and how many connections come. -/
structure ResumableEnv where
  readStatus : Bool
  createStatus : Bool
  writeHeader : Bool
  openLocal : Bool
  connections : Nat
  closeStatus : Bool
  deleteStatus : Bool
  deriving DecidableEq, Repr

/-- The invocation when its tasks start: the journal it created, and the tasks. -/
structure ResumeLaunch where
  header : Journal
  numTasks : Nat
  start : Download
  deriving DecidableEq, Repr

/-- `DownloadDataObjectParallelResumable` up to the launch of its tasks: the outcome of an early
return, or the launch. A write of the header that fails is taken to leave the header. -/
def prepareResumable (getNumTasks : Nat → Int) (connectionMaxNumber : Int) (fileLength : Nat)
    (taskNum : Int) (env : ResumableEnv) (disk : Disk) : Outcome Disk ⊕ ResumeLaunch :=
  if fileLength = 0 then
    .inl (if env.openLocal then .nil { disk with file := [] } else .error "failed to create file %q: %w" disk)
  else if ¬env.readStatus then .inl (.error "failed to read transfer status file for %q: %w" disk)
  else
    let status := GetOrNewDataObjectTransferStatusLocal disk.journal fileLength
      (resolveNumTasks getNumTasks connectionMaxNumber fileLength taskNum)
    -- if previous transfer used different number of threads, use old value
    let numTasks := status.Threads
    if ¬env.createStatus then .inl (.error "failed to create transfer status file for %q: %w" disk)
    else
      let disk := { disk with journal := some { status with entries := [] } }
      if ¬env.writeHeader then
        .inl (.error "failed to write transfer status file header for %q: %w" disk)
      else if ¬env.openLocal then .inl (.error "failed to create file %q: %w" disk)
      else if numTasks ≤ 0 then .inl (.panic disk)
      else if env.connections < numTasks.toNat then .inl (.panic disk)
      else .inr ⟨{ status with entries := [] }, numTasks.toNat,
        Download.start disk.file (launchTasks fileLength numTasks.toNat (resumeOffset status))⟩

/-- The disk while the tasks of a launch have run to the state `d`: the file, and the journal
holding the entries of this run after the header. -/
def ResumeLaunch.disk (l : ResumeLaunch) (d : Download) : Disk :=
  ⟨d.file, some { l.header with entries := d.journal }⟩

/-- After `Wait`: return the first error with the journal closed, or close and delete it and
return nil. -/
def ResumeLaunch.finish (l : ResumeLaunch) (env : ResumableEnv) (d : Download) : Outcome Disk :=
  match d.errChan with
  | err :: _ => .error err (l.disk d)
  | [] =>
    if ¬env.closeStatus then .error "failed to close status file: %w" (l.disk d)
    else if ¬env.deleteStatus then .error "failed to delete status file: %w" (l.disk d)
    else .nil ⟨d.file, none⟩

theorem ResumeLaunch.finish_cases (l : ResumeLaunch) (env : ResumableEnv) (d : Download) :
    (d.errChan = [] ∧ l.finish env d = .nil ⟨d.file, none⟩) ∨
      ∃ err, l.finish env d = .error err (l.disk d) := by
  unfold ResumeLaunch.finish
  split
  · simp
  · split_ifs <;> simp_all

/-- `DownloadDataObjectParallelResumable` of the object `S` from the disk `disk`, its tasks run
under `sched`; `none` when the schedule does not bring every task to its return. -/
def DownloadDataObjectParallelResumable (S : List UInt8) (B : Nat) (getNumTasks : Nat → Int)
    (connectionMaxNumber : Int) (fileLength : Nat) (taskNum : Int) (env : ResumableEnv)
    (disk : Disk) (sched : List (Nat × Move)) : Option (Outcome Disk) :=
  match prepareResumable getNumTasks connectionMaxNumber fileLength taskNum env disk with
  | .inl o => some o
  | .inr l => (runSchedule (Download.step S B true l.numTasks) l.start [] sched).bind
      fun r => if r.1.Finished then some (l.finish env r.1) else none

/-- `DownloadDataObjectResumable`: `DownloadDataObjectParallelResumable` with one task. -/
def DownloadDataObjectResumable (S : List UInt8) (B : Nat) (getNumTasks : Nat → Int)
    (connectionMaxNumber : Int) (fileLength : Nat) (env : ResumableEnv) (disk : Disk)
    (sched : List (Nat × Move)) : Option (Outcome Disk) :=
  DownloadDataObjectParallelResumable S B getNumTasks connectionMaxNumber fileLength 1 env disk sched

/-- The disks an invocation can leave without returning nil: it returns an error, it panics,
or the process is killed while its tasks run. -/
inductive Interrupts (S : List UInt8) (B : Nat) (getNumTasks : Nat → Int)
    (connectionMaxNumber : Int) (fileLength : Nat) : Disk → Disk → Prop
  | error {disk disk' : Disk} {taskNum : Int} {env : ResumableEnv} {sched : List (Nat × Move)}
      {err : String} :
      DownloadDataObjectParallelResumable S B getNumTasks connectionMaxNumber fileLength taskNum env
        disk sched = some (.error err disk') → Interrupts S B getNumTasks connectionMaxNumber fileLength disk disk'
  | panic {disk disk' : Disk} {taskNum : Int} {env : ResumableEnv} {sched : List (Nat × Move)} :
      DownloadDataObjectParallelResumable S B getNumTasks connectionMaxNumber fileLength taskNum env
        disk sched = some (.panic disk') → Interrupts S B getNumTasks connectionMaxNumber fileLength disk disk'
  | killed {disk : Disk} {taskNum : Int} {env : ResumableEnv} {l : ResumeLaunch}
      {sched : List (Nat × Move)} {r : Download × List (Nat × DownloadEffect)} :
      prepareResumable getNumTasks connectionMaxNumber fileLength taskNum env disk = .inr l →
      runSchedule (Download.step S B true l.numTasks) l.start [] sched = some r →
      Interrupts S B getNumTasks connectionMaxNumber fileLength disk (l.disk r.1)

theorem Journal.lookup_mem {j : Journal} {o : Nat} {e : DataObjectTransferStatusEntry}
    (h : j.lookup o = some e) : e ∈ j.entries ∧ e.StartOffset = o := by
  have := List.find?_some h
  exact ⟨List.mem_reverse.mp (List.mem_of_find?_eq_some h), by simpa using this⟩

/-- What every disk of a chain keeps: the file is `P` from `|S|` on, and every entry records a prefix
of a range that the file holds. -/
structure DiskInv (S P : List UInt8) (disk : Disk) : Prop where
  beyond : ∀ o, S.length ≤ o → disk.file[o]? = P[o]?
  journal : ∀ j ∈ disk.journal, j.Size = S.length → ∀ e ∈ j.entries,
    e.Length = lengthPerThread S.length j.Threads.toNat ∧ e.CompletedLength ≤ e.Length ∧
      Covers S disk.file e.StartOffset (e.StartOffset + e.CompletedLength)

theorem DiskInv.initial (S P : List UInt8) : DiskInv S P ⟨P, none⟩ :=
  ⟨fun _ _ => rfl, by simp⟩

theorem DiskInv.drop_eq {S P : List UInt8} {disk : Disk} (h : DiskInv S P disk) :
    disk.file.drop S.length = P.drop S.length :=
  List.ext_getElem? fun i => by simp only [List.getElem?_drop]; exact h.beyond _ (by omega)

section chain
variable {S P : List UInt8} {B : Nat} {getNumTasks : Nat → Int} {connectionMaxNumber : Int}
  {taskNum : Int} {env : ResumableEnv}

/-- A launch created the journal with the header it read and resumes each task where it says. -/
theorem prepareResumable_eq_inr {disk : Disk} {l : ResumeLaunch} {N : Nat}
    (h : prepareResumable getNumTasks connectionMaxNumber N taskNum env disk = .inr l) :
    ∃ status, status = GetOrNewDataObjectTransferStatusLocal disk.journal N
        (resolveNumTasks getNumTasks connectionMaxNumber N taskNum) ∧ 0 < status.Threads ∧
      l = ⟨{ status with entries := [] }, status.Threads.toNat,
        Download.start disk.file (launchTasks N status.Threads.toNat (resumeOffset status))⟩ := by
  simp only [prepareResumable, ite_inl_eq_inr, Sum.inr.injEq] at h
  obtain ⟨-, -, -, -, -, hT, -, rfl⟩ := h
  exact ⟨_, rfl, by omega, rfl⟩

/-- An early return leaves the file as it was, and the journal as it was or a bare header. -/
theorem prepareResumable_eq_inl {disk : Disk} {o : Outcome Disk} {N : Nat} (hN : N ≠ 0)
    (h : prepareResumable getNumTasks connectionMaxNumber N taskNum env disk = .inl o) :
    ∃ d', (o = .panic d' ∨ ∃ err, o = .error err d') ∧ d'.file = disk.file ∧
      (d'.journal = disk.journal ∨ ∃ j : Journal, d'.journal = some j ∧ j.entries = []) := by
  simp only [prepareResumable, if_neg hN, ite_inl_eq_inl, reduceCtorEq, and_false, or_false] at h
  rcases h with ⟨-, rfl⟩ | ⟨-, ⟨-, rfl⟩ | ⟨-, ⟨-, rfl⟩ | ⟨-, ⟨-, rfl⟩ | ⟨-, ⟨-, rfl⟩ | ⟨-, -, rfl⟩⟩⟩⟩⟩ <;>
    first
    | exact ⟨_, .inr ⟨_, rfl⟩, rfl, .inl rfl⟩
    | exact ⟨_, .inr ⟨_, rfl⟩, rfl, .inr ⟨_, rfl, rfl⟩⟩
    | exact ⟨_, .inl rfl, rfl, .inr ⟨_, rfl, rfl⟩⟩

/-- A launch from a disk that keeps `DiskInv` starts the run invariant over the file on disk. -/
theorem prepareResumable_launch {disk : Disk} {l : ResumeLaunch} (hd : DiskInv S P disk)
    (h : prepareResumable getNumTasks connectionMaxNumber S.length taskNum env disk = .inr l) :
    0 < l.numTasks ∧ l.header.Size = S.length ∧ l.header.Threads.toNat = l.numTasks ∧
      l.start.Inv S disk.file l.numTasks (lengthPerThread S.length l.numTasks) := by
  obtain ⟨status, rfl, hT, rfl⟩ := prepareResumable_eq_inr h
  refine ⟨by simp; omega, by simp, rfl, Download.start_inv fun j _ => ?_⟩
  dsimp only
  unfold resumeOffset
  cases hl : Journal.lookup _ (j * lengthPerThread S.length _) with
  | none => exact ⟨le_rfl, Nat.le_add_right _ _, Covers.empty S _ _⟩
  | some e =>
    obtain ⟨hmem, hoff⟩ := Journal.lookup_mem hl
    obtain ⟨hlen, hcl, hcov⟩ :=
      hd.journal _ (GetOrNewDataObjectTransferStatusLocal_mem hmem) (by simp) e hmem
    dsimp only
    rw [hoff] at hcov ⊢
    exact ⟨Nat.le_add_right _ _, by omega, hcov⟩

theorem ResumeLaunch.disk_inv {disk : Disk} {l : ResumeLaunch} {sched : List (Nat × Move)}
    {r : Download × List (Nat × DownloadEffect)} (hd : DiskInv S P disk)
    (h : prepareResumable getNumTasks connectionMaxNumber S.length taskNum env disk = .inr l)
    (hr : runSchedule (Download.step S B true l.numTasks) l.start [] sched = some r) :
    DiskInv S P (l.disk r.1) := by
  obtain ⟨hT, hsize, hthreads, hI⟩ := prepareResumable_launch hd h
  have hI' := Download.run_inv hI hr
  have hle := le_mul_lengthPerThread S.length l.numTasks hT
  refine ⟨fun o ho => ?_, ?_⟩
  · rw [ResumeLaunch.disk, hI'.beyond o (by omega), hd.beyond o ho]
  · simp only [ResumeLaunch.disk, Option.mem_def, Option.some.injEq]
    rintro j rfl - e he
    obtain ⟨h1, h2, h3⟩ := hI'.journal e he
    exact ⟨by rw [h1, hthreads], by omega, h3⟩

theorem DownloadDataObjectParallelResumable_cases {disk : Disk} {sched : List (Nat × Move)}
    {o : Outcome Disk} {N : Nat}
    (h : DownloadDataObjectParallelResumable S B getNumTasks connectionMaxNumber N taskNum env disk
      sched = some o) :
    prepareResumable getNumTasks connectionMaxNumber N taskNum env disk = .inl o ∨
      ∃ l r, prepareResumable getNumTasks connectionMaxNumber N taskNum env disk = .inr l ∧
        runSchedule (Download.step S B true l.numTasks) l.start [] sched = some r ∧
        r.1.Finished ∧ o = l.finish env r.1 := by
  unfold DownloadDataObjectParallelResumable at h
  split at h
  · cases h; exact .inl ‹_›
  · obtain ⟨r, hr, hf⟩ := Option.bind_eq_some.mp h
    split_ifs at hf with hfin
    cases hf
    exact .inr ⟨_, r, ‹_›, hr, hfin, rfl⟩

/-- An interrupted invocation leaves the disk of an early return or of its tasks at some point. -/
theorem Interrupts.cases {disk disk' : Disk} {N : Nat} (hN : N ≠ 0)
    (h : Interrupts S B getNumTasks connectionMaxNumber N disk disk') :
    (disk'.file = disk.file ∧
      (disk'.journal = disk.journal ∨ ∃ j : Journal, disk'.journal = some j ∧ j.entries = [])) ∨
    ∃ (taskNum : Int) (env : ResumableEnv) (l : ResumeLaunch) (sched : List (Nat × Move))
      (r : Download × List (Nat × DownloadEffect)),
      prepareResumable getNumTasks connectionMaxNumber N taskNum env disk = .inr l ∧
      runSchedule (Download.step S B true l.numTasks) l.start [] sched = some r ∧ disk' = l.disk r.1 := by
  cases h with
  | killed hp hr => exact .inr ⟨_, _, _, _, _, hp, hr, rfl⟩
  | error hr | panic hr =>
    rcases DownloadDataObjectParallelResumable_cases hr with hp | ⟨l, r, hp, hrun, -, ho⟩
    · -- an early return leaves the file, and the journal or a bare header
      obtain ⟨d'', ho', hf, hj⟩ := prepareResumable_eq_inl hN hp
      rcases ho' with h' | ⟨_, h'⟩ <;> cases h'
      exact .inl ⟨hf, hj⟩
    · -- a return after the tasks leaves the disk of their final state
      refine .inr ⟨_, _, l, _, r, hp, hrun, ?_⟩
      rcases l.finish_cases _ r.1 with ⟨-, hf⟩ | ⟨err, hf⟩ <;> rw [hf] at ho <;> cases ho <;> rfl

theorem Interrupts.disk_inv {disk disk' : Disk} (hN : S.length ≠ 0)
    (h : Interrupts S B getNumTasks connectionMaxNumber S.length disk disk') (hd : DiskInv S P disk) :
    DiskInv S P disk' := by
  rcases h.cases hN with ⟨hf, hj⟩ | ⟨_, _, l, _, r, hp, hr, rfl⟩
  · refine ⟨fun o ho => hf ▸ hd.beyond o ho, ?_⟩
    rcases hj with hj | ⟨j, hj, he⟩
    · rw [hj, hf]; exact hd.journal
    · simp [hj, he]
  · exact ResumeLaunch.disk_inv hd hp hr

theorem DownloadDataObjectParallelResumable_nil {disk disk' : Disk} {sched : List (Nat × Move)}
    (hN : S.length ≠ 0) (hd : DiskInv S P disk)
    (h : DownloadDataObjectParallelResumable S B getNumTasks connectionMaxNumber S.length taskNum
      env disk sched = some (.nil disk')) :
    disk' = ⟨S ++ P.drop S.length, none⟩ := by
  rcases DownloadDataObjectParallelResumable_cases h with hp | ⟨l, r, hp, hrun, hfin, ho⟩
  · obtain ⟨_, ho', -⟩ := prepareResumable_eq_inl hN hp
    rcases ho' with h' | ⟨_, h'⟩ <;> cases h'
  · obtain ⟨hT, -, -, hI⟩ := prepareResumable_launch hd hp
    have hI' := Download.run_inv hI hrun
    rcases l.finish_cases env r.1 with ⟨hnil, hf⟩ | ⟨err, hf⟩ <;> rw [hf] at ho <;> cases ho
    rw [hI'.file_eq (lengthPerThread_pos (Nat.pos_of_ne_zero hN) hT) hfin hnil,
      Nat.min_eq_left (le_mul_lengthPerThread _ _ hT), List.take_length, hd.drop_eq]

theorem DiskInv.of_chain {disk : Disk} (hN : S.length ≠ 0)
    (h : Relation.ReflTransGen (Interrupts S B getNumTasks connectionMaxNumber S.length) ⟨P, none⟩ disk) :
    DiskInv S P disk := by
  induction h with
  | refl => exact DiskInv.initial S P
  | tail _ hstep ih => exact hstep.disk_inv hN ih

end chain

/-- A first invocation over an empty file, with two tasks over four bytes, killed once task 0 has
written its range and journaled it. -/
theorem killed_after_first_range :
    Interrupts [1, 2, 3, 4] 65536 (fun _ => 2) 16 [1, 2, 3, 4].length ⟨[], none⟩
      ⟨[1, 2], some ⟨4, 2, [⟨0, 2, 2⟩]⟩⟩ :=
  @Interrupts.killed [1, 2, 3, 4] 65536 (fun _ => 2) 16 [1, 2, 3, 4].length ⟨[], none⟩ 2
    ⟨true, true, true, true, 2, true, true⟩
    ⟨⟨4, 2, []⟩, 2, Download.start [] (launchTasks 4 2 (resumeOffset ⟨4, 2, []⟩))⟩
    ((downloadRangeMoves true 0 0 2 .none).take 8)
    ((runSchedule (Download.step [1, 2, 3, 4] 65536 true 2)
      (Download.start [] (launchTasks 4 2 (resumeOffset ⟨4, 2, []⟩))) []
      ((downloadRangeMoves true 0 0 2 .none).take 8)).getD (Download.start [] [], [])) (by decide)
    (by decide)

/-- A download of `S` with `fileLength = |S|` that returns nil leaves `S`, followed by the prior
file's bytes past it for the resumable download, which does not truncate. -/
theorem download_nil_leaves_object {S P file : List UInt8} {disk : Disk} {B : Nat}
    {getNumTasks : Nat → Int} {connectionMaxNumber taskNum taskNum' : Int} {env : DownloadEnv}
    {renv : ResumableEnv} {sched sched' : List (Nat × Move)} (hS : 0 < S.length) :
    (DownloadDataObjectParallel S B getNumTasks connectionMaxNumber S.length taskNum env P sched =
        some (.nil file) → file = S) ∧
    (DownloadDataObjectParallelResumable S B getNumTasks connectionMaxNumber S.length taskNum' renv
        ⟨P, none⟩ sched' = some (.nil disk) → disk.file = S ++ P.drop S.length) := by
  refine ⟨fun h => ?_, fun h => ?_⟩
  · rw [DownloadDataObjectParallel_file hS h, Nat.min_eq_left, List.take_length]
    exact le_mul_lengthPerThread _ _ (DownloadDataObjectParallel_launched hS h)
  · rw [DownloadDataObjectParallelResumable_nil (Nat.pos_iff_ne_zero.mp hS) (DiskInv.initial S P) h]

/-- A resumable download of a one-byte object over the two-byte file `[7, 7]` returns nil and
leaves `[1, 7]`. -/
theorem download_nil_leaves_object_over_longer_file :
    ∃ disk, DownloadDataObjectParallelResumable [1] 65536 (fun _ => 1) 16 1 1
      ⟨true, true, true, true, 1, true, true⟩ ⟨[7, 7], none⟩ (downloadRangeMoves true 0 0 1 .none) =
      some (.nil disk) ∧ disk.file = [1, 7] :=
  ⟨_, rfl, (@download_nil_leaves_object [1] [7, 7] [] _ 65536 (fun _ => 1) 16 1 1 ⟨true, 1⟩
    ⟨true, true, true, true, 1, true, true⟩ [] (downloadRangeMoves true 0 0 1 .none) (by decide)).2 rfl⟩

/-- However a resumable download is interrupted and re-invoked, the invocation that returns nil
leaves the file of a single run, and no journal. -/
theorem resumed_download_matches_single_run {S P : List UInt8} {B : Nat}
    {getNumTasks : Nat → Int} {connectionMaxNumber taskNum taskNum' : Int}
    {env env' : ResumableEnv} {sched sched' : List (Nat × Move)} {disk disk' single : Disk}
    (hS : 0 < S.length)
    (hchain : Relation.ReflTransGen (Interrupts S B getNumTasks connectionMaxNumber S.length)
      ⟨P, none⟩ disk)
    (hlast : DownloadDataObjectParallelResumable S B getNumTasks connectionMaxNumber S.length
      taskNum env disk sched = some (.nil disk'))
    (hsingle : DownloadDataObjectParallelResumable S B getNumTasks connectionMaxNumber S.length
      taskNum' env' ⟨P, none⟩ sched' = some (.nil single)) :
    disk'.file = single.file ∧ disk'.journal = none := by
  have hN := Nat.pos_iff_ne_zero.mp hS
  rw [DownloadDataObjectParallelResumable_nil hN (DiskInv.of_chain hN hchain) hlast,
    DownloadDataObjectParallelResumable_nil hN (DiskInv.initial S P) hsingle]
  exact ⟨rfl, rfl⟩

/-- Resumed after `killed_after_first_range`, with task 0's range journaled, the download
leaves what one uninterrupted run leaves. -/
theorem resumed_download_matches_single_run_after_kill :
    ∃ disk' single : Disk,
      DownloadDataObjectParallelResumable [1, 2, 3, 4] 65536 (fun _ => 2) 16 4 1
        ⟨true, true, true, true, 2, true, true⟩ ⟨[1, 2], some ⟨4, 2, [⟨0, 2, 2⟩]⟩⟩
        (downloadRangeMoves true 0 2 0 .none ++ downloadRangeMoves true 1 2 2 .none) =
        some (.nil disk') ∧
      DownloadDataObjectParallelResumable [1, 2, 3, 4] 65536 (fun _ => 2) 16 4 1
        ⟨true, true, true, true, 1, true, true⟩ ⟨[], none⟩ (downloadRangeMoves true 0 0 4 .none) =
        some (.nil single) ∧
      disk'.file = single.file ∧ disk'.journal = none :=
  ⟨_, _, rfl, rfl, @resumed_download_matches_single_run [1, 2, 3, 4] [] 65536 (fun _ => 2) 16 1 1
    ⟨true, true, true, true, 2, true, true⟩ ⟨true, true, true, true, 1, true, true⟩
    (downloadRangeMoves true 0 2 0 .none ++ downloadRangeMoves true 1 2 2 .none)
    (downloadRangeMoves true 0 0 4 .none) _ _ _ (by decide) (.single killed_after_first_range) rfl rfl⟩

/-- With `ConnectionMaxNumber ≤ 0` both downloads panic; the resumable one first writes the count to
its journal header, so every later invocation reads it back and panics too. -/
theorem download_panics_with_capped_task_count {S P prior : List UInt8} {B N : Nat}
    {getNumTasks : Nat → Int} {connectionMaxNumber connectionMaxNumber' taskNum taskNum' : Int}
    {env : DownloadEnv} {renv renv' : ResumableEnv} {sched sched' sched'' : List (Nat × Move)}
    (hN : 0 < N) (hc : connectionMaxNumber ≤ 0) (hcreate : env.create)
    (hopen : renv.readStatus ∧ renv.createStatus ∧ renv.writeHeader ∧ renv.openLocal)
    (hopen' : renv'.readStatus ∧ renv'.createStatus ∧ renv'.writeHeader ∧ renv'.openLocal) :
    DownloadDataObjectParallel S B getNumTasks connectionMaxNumber N taskNum env prior sched =
      some (.panic []) ∧
    DownloadDataObjectParallelResumable S B getNumTasks connectionMaxNumber N taskNum renv
      ⟨P, none⟩ sched' =
      some (.panic ⟨P, some ⟨N, resolveNumTasks getNumTasks connectionMaxNumber N taskNum, []⟩⟩) ∧
    DownloadDataObjectParallelResumable S B getNumTasks connectionMaxNumber' N taskNum' renv'
      ⟨P, some ⟨N, resolveNumTasks getNumTasks connectionMaxNumber N taskNum, []⟩⟩ sched'' =
      some (.panic ⟨P, some ⟨N, resolveNumTasks getNumTasks connectionMaxNumber N taskNum, []⟩⟩) := by
  have hT := (resolveNumTasks_le getNumTasks connectionMaxNumber N taskNum).trans hc
  have hN0 := Nat.pos_iff_ne_zero.mp hN
  obtain ⟨h₁, h₂, h₃, h₄⟩ := hopen
  obtain ⟨h₁', h₂', h₃', h₄'⟩ := hopen'
  refine ⟨?_, ?_, ?_⟩
  · simp only [DownloadDataObjectParallel, hN0, hcreate, if_false, not_true_eq_false, if_pos hT]
  · simp only [DownloadDataObjectParallelResumable, prepareResumable, hN0, h₁, h₂, h₃, h₄,
      GetOrNewDataObjectTransferStatusLocal, not_true_eq_false, if_false, if_pos hT]
  · simp only [DownloadDataObjectParallelResumable, prepareResumable, hN0, h₁', h₂', h₃', h₄',
      GetOrNewDataObjectTransferStatusLocal, not_true_eq_false, if_false, if_true, if_pos hT]

theorem download_panics_with_capped_task_count_zero_cap :
    0 < 3 ∧ (0 : Int) ≤ 0 ∧ (⟨true, 1⟩ : DownloadEnv).create = true ∧
    DownloadDataObjectParallel [1, 2, 3] 65536 (fun _ => 2) 0 3 1 ⟨true, 1⟩ [] [] =
      some (.panic []) ∧
    DownloadDataObjectParallelResumable [1, 2, 3] 65536 (fun _ => 2) 0 3 1
      ⟨true, true, true, true, 1, true, true⟩ ⟨[], none⟩ [] = some (.panic ⟨[], some ⟨3, 0, []⟩⟩) ∧
    DownloadDataObjectParallelResumable [1, 2, 3] 65536 (fun _ => 2) 16 3 2
      ⟨true, true, true, true, 2, true, true⟩ ⟨[], some ⟨3, 0, []⟩⟩ [] =
      some (.panic ⟨[], some ⟨3, 0, []⟩⟩) :=
  ⟨by decide, le_rfl, rfl, @download_panics_with_capped_task_count [1, 2, 3] [] [] 65536 3
    (fun _ => 2) 0 16 1 2 ⟨true, 1⟩ ⟨true, true, true, true, 1, true, true⟩
    ⟨true, true, true, true, 2, true, true⟩ [] [] [] (by decide) le_rfl rfl
    ⟨rfl, rfl, rfl, rfl⟩ ⟨rfl, rfl, rfl, rfl⟩⟩

end IrodsClient
