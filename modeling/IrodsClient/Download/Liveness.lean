import IrodsClient.Download.Journal

/-! The download completes once the server and the file system cooperate: every task that has not
returned can step, and every step lowers a measure of the work left. -/
namespace IrodsClient

namespace DownloadTask

/-- The answer a cooperating server and file system give: every call succeeds, a read fills the
buffer (`io.EOF` once none is left), and a failed trial failed on its socket. -/
def coopMove (S : List UInt8) (B : Nat) (t : DownloadTask) : Move :=
  match t.pc with
  | .seekRemote => .seekTo t.lastOffset
  | .copy =>
    if t.taskRemain = 0 then .ok
    else .read (min (bufferLen B t.taskRemain) (S.length - t.pos)) (if S.length ≤ t.pos then .eof else .none)
  | _ => .ok

/-- Cooperating steps left before the task's next chunk comes off `taskRemain`, or its return. -/
def rank (t : DownloadTask) : Nat :=
  match t.pc with
  | .start => 15
  | .openLocal => 14
  | .seed => 13
  | .checkChan => 12
  | .failed _ => 11
  | .reacquire => 10
  | .recheck => 9
  | .trial => 8
  | .seekRemote => 7
  | .seekLocal => if t.pos = t.lastOffset then 6 else 12
  | .copy => 5
  | .write _ _ => 4
  | .count _ _ => 3
  | .status _ _ => 2
  | .callback _ _ | .report _ => 1
  | .done | .exited => 0

/-- The work left to a task: sixteen per byte still to copy, and its rank. -/
def work (t : DownloadTask) : Nat := 16 * t.taskRemain + t.rank

theorem rank_le (t : DownloadTask) : t.rank ≤ 15 := by
  unfold rank
  split <;> (try split) <;> omega

/-- A cooperating step of a task that has not returned is enabled and lowers its work. -/
theorem coop_step {S f : List UInt8} {B : Nat} {r : Bool} {chan : Nat} {t : DownloadTask}
    (hB : 0 < B) (hi : t.Inv S f) (hp : t.Progress S) (hd : t.pc ≠ .done) (hx : t.pc ≠ .exited) :
    ∃ t' e, t.step S B r chan (t.coopMove S B) = some (t', e) ∧ t'.work < t.work ∧
      (t.pc.Returning ∨ ¬t'.pc.Returning ∧ e.isSend = false) := by
  obtain ⟨-, -, -, hpc⟩ := hi
  have hn := hp.2
  unfold step coopMove work rank
  unfold PcInv at hpc
  generalize hq : t.pc = pc at hpc hn hd hx
  cases pc
  case done => exact absurd rfl hd
  case exited => exact absurd rfl hx
  case copy =>
    by_cases h0 : t.taskRemain = 0
    · simp only [h0, if_true]
      exact ⟨_, _, rfl, by dsimp only; omega, .inr ⟨nofun, rfl⟩⟩
    · have hk : 0 < bufferLen B t.taskRemain := by unfold bufferLen; split_ifs <;> omega
      simp only [h0, if_false]
      by_cases hs : S.length ≤ t.pos
      · -- at the end of the object the read returns nothing, with `io.EOF`
        have hc : chunk S t.pos (min (bufferLen B t.taskRemain) (S.length - t.pos)) = [] := by
          rw [← List.length_eq_zero, length_chunk]; omega
        rw [if_pos hs, if_pos ⟨Nat.pos_of_ne_zero h0, min_le_left _ _, fun _ => by omega⟩]
        simp only [hc, if_true, afterRead]
        exact ⟨_, _, rfl, by dsimp only; omega, .inr ⟨nofun, rfl⟩⟩
      · -- otherwise it returns a chunk of at least one byte
        have hc : chunk S t.pos (min (bufferLen B t.taskRemain) (S.length - t.pos)) ≠ [] := by
          rw [← List.length_pos, length_chunk]; omega
        rw [if_neg hs, if_pos ⟨Nat.pos_of_ne_zero h0, min_le_left _ _, nofun⟩]
        simp only [hc, if_false]
        exact ⟨_, _, rfl, by dsimp only; omega, .inr ⟨nofun, rfl⟩⟩
  case count n err =>
    cases r <;> refine ⟨_, _, rfl, ?_, .inr ⟨?_, rfl⟩⟩ <;>
      simp only [Bool.false_eq_true, ↓reduceIte, DownloadPc.Returning, not_false_eq_true] <;> omega
  case callback n err =>
    have := (hn n rfl).1
    cases err <;> refine ⟨_, _, rfl, ?_, .inr ⟨?_, rfl⟩⟩ <;>
      simp only [advance, afterRead, DownloadPc.Returning, not_false_eq_true] <;> omega
  all_goals
    refine ⟨_, _, rfl, ?_, ?_⟩ <;> dsimp only <;> (try split_ifs) <;>
      (try dsimp only [DownloadPc.Returning, DownloadEffect.isSend]) <;> first | omega | decide

theorem work_le {S f : List UInt8} {t : DownloadTask} (hi : t.Inv S f) :
    t.work ≤ 16 * t.taskLength + 15 := by
  obtain ⟨ho, hl, -, -⟩ := hi
  have := t.rank_le
  unfold work
  omega

end DownloadTask

namespace Download

/-- The work left to a run: the sum of its tasks'. -/
def work (d : Download) : Nat := (d.tasks.map DownloadTask.work).sum

/-- Task `i` gets the answer a cooperating server and file system give it; no other answer is
theirs. -/
def coopStep (S : List UInt8) (B : Nat) (r : Bool) (cap : Nat) (d : Download) (i : Nat)
    (m : Move) : Option (Download × DownloadEffect) :=
  match d.tasks[i]? with
  | some t => if m = t.coopMove S B then d.step S B r cap i m else none
  | none => none

/-- No task is returning an error. -/
def Quiet (d : Download) : Prop := ∀ t ∈ d.tasks, ¬t.pc.Returning

instance : DecidablePred DownloadPc.Returning := fun p =>
  match p with
  | .report _ | .exited => isTrue trivial
  | .start | .openLocal | .seed | .trial | .seekRemote | .seekLocal | .copy | .write _ _
  | .count _ _ | .status _ _ | .callback _ _ | .checkChan | .failed _ | .reacquire | .recheck
  | .done => isFalse nofun

instance (d : Download) : Decidable d.Quiet :=
  inferInstanceAs (Decidable (∀ t ∈ d.tasks, ¬t.pc.Returning))

section coop
variable {S P : List UInt8} {B T L : Nat} {r : Bool} {d₀ d : Download}

theorem coopStep_eq_some {cap i : Nat} {m : Move} {p : Download × DownloadEffect}
    (h : d.coopStep S B r cap i m = some p) :
    ∃ t, d.tasks[i]? = some t ∧ m = t.coopMove S B ∧ d.step S B r cap i m = some p := by
  unfold coopStep at h
  split at h
  · split_ifs at h with hm
    exact ⟨_, ‹_›, hm, h⟩
  · cases h

theorem Quiet.errChan (hI : d.Inv S P T L) (hq : d.Quiet) : d.errChan = [] := by
  rw [← List.length_eq_zero, hI.errChan, List.countP_eq_zero]
  intro t ht hx
  exact hq t ht (by simp only [decide_eq_true_eq] at hx; simp [hx, DownloadPc.Returning])

theorem RunInv.coop_step (hB : 0 < B) (hR : RunInv S P T L r d₀ d) {cap i : Nat} {m : Move}
    {d' : Download} {e : DownloadEffect} (h : d.coopStep S B r cap i m = some (d', e)) :
    RunInv S P T L r d₀ d' ∧ d'.work < d.work ∧ (d.Quiet → d'.Quiet) := by
  obtain ⟨t, ht, rfl, hs⟩ := coopStep_eq_some h
  obtain ⟨t₁, t', d'', ht₁, hts, ha, rfl⟩ := step_eq_some hs
  rw [ht] at ht₁
  cases ht₁
  obtain ⟨hi, hti⟩ := List.getElem?_eq_some_iff.mp ht
  have hmem : t ∈ d.tasks := hti ▸ List.getElem_mem hi
  have hlive : t.pc ≠ .done ∧ t.pc ≠ .exited := by
    constructor <;> intro hpc <;>
      rw [DownloadTask.step_of_done_or_exited (by simp [hpc])] at hts <;> cases hts
  obtain ⟨t'', e', hstep, hw, hret⟩ := @DownloadTask.coop_step _ _ _ r d.errChan.length _
    hB (hR.inv.tasks t hmem) (hR.progress.tasks t hmem) hlive.1 hlive.2
  rw [hts, Option.some.injEq, Prod.mk.injEq] at hstep
  obtain ⟨rfl, rfl⟩ := hstep
  have hsum := sum_map_set DownloadTask.work DownloadTask.work d.tasks i t' hi fun _ _ _ => rfl
  rw [hti] at hsum
  refine ⟨hR.step hs, ?_, fun hq u hu => ?_⟩
  · unfold work
    dsimp only
    omega
  · rcases List.mem_or_eq_of_mem_set hu with hu | rfl
    · exact hq u hu
    · exact (hret.resolve_left (hq t hmem)).1

/-- Every task that has not returned can take its cooperating step: `errChan` has room. -/
theorem RunInv.coopStep_enabled (hB : 0 < B) (hR : RunInv S P T L r d₀ d) {i : Nat}
    {t : DownloadTask} (ht : d.tasks[i]? = some t) (hd : t.pc ≠ .done) (hx : t.pc ≠ .exited) :
    ∃ d' e, d.coopStep S B r T i (t.coopMove S B) = some (d', e) := by
  obtain ⟨hi, hti⟩ := List.getElem?_eq_some_iff.mp ht
  obtain ⟨t', e, hs, -⟩ := @DownloadTask.coop_step _ _ _ r d.errChan.length _ hB
    (hR.inv.tasks t (hti ▸ List.getElem_mem hi)) (hR.progress.tasks t (hti ▸ List.getElem_mem hi)) hd hx
  have hne := mt (hR.inv.step_eq_none_iff ht).mp (by rw [hs]; exact Option.some_ne_none _)
  obtain ⟨⟨d', e'⟩, h'⟩ := Option.ne_none_iff_exists'.mp hne
  refine ⟨d', e', ?_⟩
  unfold coopStep
  rw [ht]
  dsimp only
  rw [if_pos rfl, h']

theorem RunInv.run_coop (hB : 0 < B) {cap : Nat} :
    ∀ (sched : List (Nat × Move)) {d : Download} {tr : List (Nat × DownloadEffect)}
      {res : Download × List (Nat × DownloadEffect)}, RunInv S P T L r d₀ d →
      runSchedule (coopStep S B r cap) d tr sched = some res →
      RunInv S P T L r d₀ res.1 ∧ sched.length + res.1.work ≤ d.work ∧ (d.Quiet → res.1.Quiet)
  | [], _, _, _, hR, h => by cases h; exact ⟨hR, by simp, id⟩
  | (i, m) :: rest, d, tr, res, hR, h => by
    rw [runSchedule_cons] at h
    obtain ⟨⟨d', e⟩, hs, h⟩ := Option.bind_eq_some.mp h
    obtain ⟨hR', hw, hq⟩ := hR.coop_step hB hs
    obtain ⟨hR'', hl, hq'⟩ := RunInv.run_coop hB rest hR' h
    exact ⟨hR'', by simp only [List.length_cons]; omega, hq' ∘ hq⟩

theorem Inv.work_le (hI : d.Inv S P T L) : d.work ≤ T * (16 * L + 15) := by
  have := sum_map_le_range DownloadTask.work d.tasks (fun _ => 16 * L + 15) fun j hj => by
    obtain ⟨-, -, hlen⟩ := hI.shape j _ (List.getElem?_eq_getElem hj)
    exact hlen ▸ DownloadTask.work_le (hI.tasks _ (List.getElem_mem hj))
  rwa [List.map_const', List.sum_replicate, List.length_range, hI.length, smul_eq_mul] at this

/-- A cooperating continuation of a quiet run takes at most `T * (16 * L + 15)` steps and ends with
every task enabled or returned, none having sent an error. -/
theorem RunInv.coop_completes (hB : 0 < B) (hR : RunInv S P T L r d₀ d) (hq : d.Quiet)
    {tr : List (Nat × DownloadEffect)} {sched : List (Nat × Move)}
    {res : Download × List (Nat × DownloadEffect)}
    (h : runSchedule (coopStep S B r T) d tr sched = some res) :
    sched.length ≤ T * (16 * L + 15) ∧
    (∀ i t, res.1.tasks[i]? = some t → t.pc ≠ .done → t.pc ≠ .exited →
      ∃ d' e, res.1.coopStep S B r T i (t.coopMove S B) = some (d', e)) ∧
    runSchedule (Download.step S B r T) d tr sched = some res ∧ RunInv S P T L r d₀ res.1 ∧
    res.1.errChan = [] := by
  obtain ⟨hR', hl, hq'⟩ := hR.run_coop hB sched h
  have := hR.inv.work_le
  exact ⟨by omega, fun i t ht hd hx => hR'.coopStep_enabled hB ht hd hx,
    runSchedule_mono (fun _ _ _ _ hs => by obtain ⟨-, -, -, h⟩ := coopStep_eq_some hs; exact h)
      sched d tr res h, hR',
    Quiet.errChan hR'.inv (hq' hq)⟩

end coop

end Download

/-- Once the server and the file system cooperate, `DownloadDataObjectParallel` returns nil with the
object's first `min |S| (T * L)` bytes within `T * (16 * L + 15)` steps, whatever the interleaving. -/
theorem DownloadDataObjectParallel_completes {S prior : List UInt8} {B : Nat}
    {getNumTasks : Nat → Int} {connectionMaxNumber : Int} {fileLength : Nat} {taskNum : Int}
    {env : DownloadEnv} {T : Nat} {sched₁ sched₂ : List (Nat × Move)}
    {res₁ res₂ : Download × List (Nat × DownloadEffect)} (hB : 0 < B) (hN : 0 < fileLength)
    (hc : env.create = true) (hT : launchedTasks getNumTasks connectionMaxNumber fileLength taskNum = T)
    (hT0 : 0 < T) (hconn : T ≤ env.connections)
    (h₁ : runSchedule (Download.step S B false T)
      (Download.start [] (launchTasks fileLength T fun off => off)) [] sched₁ = some res₁)
    (hq : res₁.1.Quiet)
    (h₂ : runSchedule (Download.coopStep S B false T) res₁.1 res₁.2 sched₂ = some res₂) :
    sched₂.length ≤ T * (16 * lengthPerThread fileLength T + 15) ∧
    (∀ i t, res₂.1.tasks[i]? = some t → t.pc ≠ .done → t.pc ≠ .exited →
      ∃ d' e, res₂.1.coopStep S B false T i (t.coopMove S B) = some (d', e)) ∧
    (res₂.1.Finished → DownloadDataObjectParallel S B getNumTasks connectionMaxNumber fileLength
      taskNum env prior (sched₁ ++ sched₂) =
        some (.nil (S.take (min S.length (T * lengthPerThread fileLength T))))) := by
  have hR := Download.run_runInv (Download.start_runInv (Download.start_inv fun _ _ =>
    ⟨le_rfl, Nat.le_add_right _ _, Covers.empty S [] _⟩) (fun _ _ => .inl rfl) fun _ _ _ => rfl) h₁
  obtain ⟨hlen, hen, hrun, hR₂, hnil⟩ := hR.coop_completes hB hq h₂
  refine ⟨hlen, hen, fun hfin => ?_⟩
  unfold launchedTasks at hT
  unfold DownloadDataObjectParallel
  rw [if_neg (by omega)]
  dsimp only
  rw [if_neg (by simp [hc]), if_neg (by omega), if_neg (by omega), hT, runSchedule_append, h₁,
    Option.some_bind, hrun, Option.some_bind, if_pos hfin]
  unfold Download.result
  rw [hnil, hR₂.inv.file_eq (lengthPerThread_pos hN hT0) hfin hnil]
  simp

/-- Task 0 of a two-task download of `[1, 2, 3]` reads its first byte, and the read fails on the
socket. -/
def socketFailureOnFirstRead : List (Nat × Move) :=
  [(0, .ok), (0, .ok), (0, .ok), (0, .read 1 .fail), (0, .ok), (0, .ok), (0, .ok)]

/-- The cooperating answers after `socketFailureOnFirstRead`: task 0 retries on a new connection
from `lastOffset` and copies its second byte; task 1 copies the last byte and meets `io.EOF`. -/
def retryAfterSocketFailure : List (Nat × Move) :=
  [(0, .ok), (0, .ok), (0, .ok), (0, .ok), (0, .seekTo 1), (0, .ok), (0, .read 1 .none), (0, .ok),
    (0, .ok), (0, .ok), (0, .ok), (0, .ok), (1, .ok), (1, .ok), (1, .ok), (1, .seekTo 2), (1, .ok),
    (1, .read 1 .none), (1, .ok), (1, .ok), (1, .ok), (1, .ok), (1, .read 0 .eof)]

theorem DownloadDataObjectParallel_completes_after_socket_failure :
    ∃ res₁ res₂ : Download × List (Nat × DownloadEffect),
      runSchedule (Download.step [1, 2, 3] 2 false 2)
        (Download.start [] (launchTasks 3 2 fun off => off)) [] socketFailureOnFirstRead = some res₁ ∧
      runSchedule (Download.coopStep [1, 2, 3] 2 false 2) res₁.1 res₁.2 retryAfterSocketFailure =
        some res₂ ∧ res₂.1.Finished ∧
      DownloadDataObjectParallel [1, 2, 3] 2 (fun _ => 1) 16 3 2 ⟨true, 2⟩ []
        (socketFailureOnFirstRead ++ retryAfterSocketFailure) = some (.nil [1, 2, 3]) :=
  ⟨_, _, rfl, rfl, by decide,
    (@DownloadDataObjectParallel_completes [1, 2, 3] [] 2 (fun _ => 1) 16 3 2 ⟨true, 2⟩ 2
      socketFailureOnFirstRead retryAfterSocketFailure _ _ (by decide) (by decide) rfl rfl (by decide)
      (by decide) rfl (by decide) rfl).2.2 (by decide)⟩

/-- Once the server and the file system cooperate, `DownloadDataObjectParallelResumable` returns nil
within `T * (16 * L + 15)` steps, leaving the object over the prior file and no journal. -/
theorem DownloadDataObjectParallelResumable_completes {S P : List UInt8} {B : Nat}
    {getNumTasks : Nat → Int} {connectionMaxNumber taskNum : Int} {env : ResumableEnv}
    {disk : Disk} {l : ResumeLaunch} {sched₁ sched₂ : List (Nat × Move)}
    {res₁ res₂ : Download × List (Nat × DownloadEffect)} (hB : 0 < B)
    (hchain : Relation.ReflTransGen (Interrupts S B getNumTasks connectionMaxNumber S.length)
      ⟨P, none⟩ disk)
    (hl : prepareResumable getNumTasks connectionMaxNumber S.length taskNum env disk = .inr l)
    (h₁ : runSchedule (Download.step S B true l.numTasks) l.start [] sched₁ = some res₁)
    (hq : res₁.1.Quiet)
    (h₂ : runSchedule (Download.coopStep S B true l.numTasks) res₁.1 res₁.2 sched₂ = some res₂) :
    sched₂.length ≤ l.numTasks * (16 * lengthPerThread S.length l.numTasks + 15) ∧
    (∀ i t, res₂.1.tasks[i]? = some t → t.pc ≠ .done → t.pc ≠ .exited →
      ∃ d' e, res₂.1.coopStep S B true l.numTasks i (t.coopMove S B) = some (d', e)) ∧
    (res₂.1.Finished → env.closeStatus = true → env.deleteStatus = true →
      DownloadDataObjectParallelResumable S B getNumTasks connectionMaxNumber S.length taskNum env
        disk (sched₁ ++ sched₂) = some (.nil ⟨S ++ P.drop S.length, none⟩)) := by
  have hN := prepareResumable_ne_zero hl
  have hR := Download.run_runInv (chain_runInv hchain hl) h₁
  obtain ⟨hlen, hen, hrun, -, hnil⟩ := hR.coop_completes hB hq h₂
  refine ⟨hlen, hen, fun hfin hcl hdel => ?_⟩
  have h : DownloadDataObjectParallelResumable S B getNumTasks connectionMaxNumber S.length taskNum
      env disk (sched₁ ++ sched₂) = some (.nil ⟨res₂.1.file, none⟩) := by
    unfold DownloadDataObjectParallelResumable ResumeLaunch.finish
    rw [hl]
    dsimp only
    rw [runSchedule_append, h₁, Option.some_bind, hrun, Option.some_bind, if_pos hfin, hnil]
    simp [hcl, hdel]
  rw [h, DownloadDataObjectParallelResumable_nil hN (DiskInv.of_chain hN hchain) h]

/-- The invocation after `killed_after_first_range`: task 1 fails to open the object on its
socket. -/
def openFailureAfterKill : List (Nat × Move) := [(1, .ok), (1, .ok), (1, .ok), (1, .fail)]

/-- The cooperating answers after `openFailureAfterKill`: task 1 retries from `lastOffset` and
copies its range, and task 0, whose range the journal records, seeks to its end and returns. -/
def resumeAfterOpenFailure : List (Nat × Move) :=
  [(1, .ok), (1, .ok), (1, .ok), (1, .ok), (1, .seekTo 2), (1, .ok), (1, .read 2 .none), (1, .ok),
    (1, .ok), (1, .ok), (1, .ok), (1, .ok), (1, .ok), (0, .ok), (0, .ok), (0, .ok), (0, .ok),
    (0, .seekTo 2), (0, .ok), (0, .ok)]

theorem DownloadDataObjectParallelResumable_completes_after_kill :
    ∃ (l : ResumeLaunch) (res₁ res₂ : Download × List (Nat × DownloadEffect)),
      prepareResumable (fun _ => 2) 16 4 1 ⟨true, true, true, true, 2, true, true⟩
        ⟨[1, 2], some ⟨4, 2, [⟨0, 2, 2⟩]⟩⟩ = .inr l ∧
      runSchedule (Download.step [1, 2, 3, 4] 65536 true l.numTasks) l.start [] openFailureAfterKill =
        some res₁ ∧
      runSchedule (Download.coopStep [1, 2, 3, 4] 65536 true l.numTasks) res₁.1 res₁.2
        resumeAfterOpenFailure = some res₂ ∧ res₂.1.Finished ∧
      DownloadDataObjectParallelResumable [1, 2, 3, 4] 65536 (fun _ => 2) 16 4 1
        ⟨true, true, true, true, 2, true, true⟩ ⟨[1, 2], some ⟨4, 2, [⟨0, 2, 2⟩]⟩⟩
        (openFailureAfterKill ++ resumeAfterOpenFailure) = some (.nil ⟨[1, 2, 3, 4], none⟩) :=
  ⟨_, _, _, rfl, rfl, rfl, by decide,
    (@DownloadDataObjectParallelResumable_completes [1, 2, 3, 4] [] 65536 (fun _ => 2) 16 1
      ⟨true, true, true, true, 2, true, true⟩ ⟨[1, 2], some ⟨4, 2, [⟨0, 2, 2⟩]⟩⟩
      ⟨⟨4, 2, []⟩, 2, Download.start [1, 2] (launchTasks 4 2 (resumeOffset ⟨4, 2, [⟨0, 2, 2⟩]⟩))⟩
      openFailureAfterKill resumeAfterOpenFailure _ _ (by decide) (.single killed_after_first_range) rfl
      rfl (by decide) rfl).2.2 (by decide) rfl rfl⟩

/-- Neither parallel download waits on `errChan` for ever: it holds one error per sender, and every
task that has not returned can take its cooperating step, a send included. -/
theorem parallel_downloads_never_block {S P : List UInt8} {B : Nat} {sched : List (Nat × Move)}
    (hB : 0 < B) :
    (∀ (fileLength T : Nat) (res : Download × List (Nat × DownloadEffect)),
      runSchedule (Download.step S B false T)
        (Download.start [] (launchTasks fileLength T fun off => off)) [] sched = some res →
      res.1.errChan.length = res.1.tasks.countP (·.pc = .exited) ∧
      ∀ i t, res.1.tasks[i]? = some t → t.pc ≠ .done → t.pc ≠ .exited →
        ∃ d' e, res.1.step S B false T i (t.coopMove S B) = some (d', e)) ∧
    (∀ (getNumTasks : Nat → Int) (connectionMaxNumber taskNum : Int) (env : ResumableEnv)
        (disk : Disk) (l : ResumeLaunch) (res : Download × List (Nat × DownloadEffect)),
      Relation.ReflTransGen (Interrupts S B getNumTasks connectionMaxNumber S.length)
        ⟨P, none⟩ disk →
      prepareResumable getNumTasks connectionMaxNumber S.length taskNum env disk = .inr l →
      runSchedule (Download.step S B true l.numTasks) l.start [] sched = some res →
      res.1.errChan.length = res.1.tasks.countP (·.pc = .exited) ∧
      ∀ i t, res.1.tasks[i]? = some t → t.pc ≠ .done → t.pc ≠ .exited →
        ∃ d' e, res.1.step S B true l.numTasks i (t.coopMove S B) = some (d', e)) := by
  have hstep : ∀ {T L : Nat} {r : Bool} {d₀ d : Download} {P' : List UInt8},
      Download.RunInv S P' T L r d₀ d → ∀ i t, d.tasks[i]? = some t → t.pc ≠ .done →
        t.pc ≠ .exited → ∃ d' e, d.step S B r T i (t.coopMove S B) = some (d', e) :=
    fun hR i t ht hd hx => by
      obtain ⟨d', e, h⟩ := hR.coopStep_enabled hB ht hd hx
      obtain ⟨_, -, -, h'⟩ := Download.coopStep_eq_some h
      exact ⟨d', e, h'⟩
  refine ⟨fun _ _ res h => ?_, fun _ _ _ _ _ _ res hchain hl h => ?_⟩
  · have hR := Download.run_runInv (Download.start_runInv (Download.start_inv fun _ _ =>
      ⟨le_rfl, Nat.le_add_right _ _, Covers.empty S [] _⟩) (fun _ _ => .inl rfl) fun _ _ _ => rfl) h
    exact ⟨hR.inv.errChan, hstep hR⟩
  · have hR := Download.run_runInv (chain_runInv hchain hl) h
    exact ⟨hR.inv.errChan, hstep hR⟩

/-- Task 1 of two finds its connection down and sends its error; task 0, at its start, can still
take its step. -/
theorem parallel_downloads_never_block_after_failed_task :
    ∃ res : Download × List (Nat × DownloadEffect),
      runSchedule (Download.step [1, 2] 1 false 2) (Download.start [] (launchTasks 2 2 fun off => off))
        [] [(1, .fail), (1, .ok)] = some res ∧
      res.1.errChan.length = res.1.tasks.countP (·.pc = .exited) ∧
      ∀ i t, res.1.tasks[i]? = some t → t.pc ≠ .done → t.pc ≠ .exited →
        ∃ d' e, res.1.step [1, 2] 1 false 2 i (t.coopMove [1, 2] 1) = some (d', e) :=
  ⟨_, rfl, (@parallel_downloads_never_block [1, 2] [] 1 [(1, .fail), (1, .ok)] (by decide)).1 2 2 _ rfl⟩

end IrodsClient
