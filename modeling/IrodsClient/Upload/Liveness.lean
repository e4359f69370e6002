import IrodsClient.Upload.Parallel
import IrodsClient.Upload.Progress
import Mathlib.Data.List.Nodup

/-! When the parallel upload can wait on `errChan` for ever, and when it completes once the server
and the local file cooperate. -/
namespace IrodsClient

/-- The task has sent an error or is bound to send one whatever the answers: it is at a send, or
holds the bytes of a read that failed. -/
def UploadPc.Failing : UploadPc → Prop
  | .send _ _ => True
  | .write _ err | .count _ err | .callback _ err => err = .fail
  | .acquire | .checkConn | .openReplica | .openLocal | .seek | .copy | .unwind _ | .exited => False

instance : DecidablePred UploadPc.Failing := fun p =>
  match p with
  | .send _ _ => isTrue trivial
  | .write _ err | .count _ err | .callback _ err => inferInstanceAs (Decidable (err = .fail))
  | .acquire | .checkConn | .openReplica | .openLocal | .seek | .copy | .unwind _ | .exited =>
    isFalse nofun

theorem UploadPc.not_unwinding_of_sending {p : UploadPc} (h : p.sending = true) : ¬p.Unwinding := by
  cases p <;> simp_all [UploadPc.sending, UploadPc.Unwinding]

theorem UploadPc.failing_of_sending {p : UploadPc} (h : p.sending = true) : p.Failing := by
  cases p <;> simp_all [UploadPc.sending, UploadPc.Failing]

namespace UploadTask

variable {F : List UInt8} {B : Nat} {codes : ErrorCodes}

/-- An answer to the deferred replica close under which `CloseDataObjectReplica` returns an
error. -/
def closeFails (codes : ErrorCodes) : Move → Bool
  | .closeReply c s code => (CloseDataObjectReplica codes c s code).isSome
  | _ => false

/-- A cooperating server's and file's answer: every call succeeds, the replica seeks to the task's
offset, and `ReadAt` fills the buffer, with `io.EOF` when it comes short. -/
def coopMove (F : List UInt8) (B : Nat) (t : UploadTask) : Move :=
  match t.pc with
  | .seek => .seekTo t.taskOffset
  | .copy =>
    if t.taskRemain = 0 then .ok
    else .read (min (bufferLen B t.taskRemain) (F.length - t.readOffset))
      (if F.length - t.readOffset < bufferLen B t.taskRemain then .eof else .none)
  | .unwind 2 => .closeReply true true none
  | _ => .ok

/-- How many cooperating steps separate the task from its next chunk taken off `taskRemain`, or
from its return. A chunk of no bytes ranks above `copy`, where counting it leads back. -/
def rank (t : UploadTask) : Nat :=
  match t.pc with
  | .acquire => 13
  | .checkConn => 12
  | .openReplica => 11
  | .openLocal => 10
  | .seek => 9
  | .copy => 8
  | .write buf _ => if buf = [] then 11 else 7
  | .count n _ => if n = 0 then 10 else 6
  | .callback n _ => if n = 0 then 9 else 5
  | .send _ _ => 5
  | .unwind d => d + 1
  | .exited => 0

/-- The work left to a task: sixteen per byte still to read, and its rank. -/
def work (t : UploadTask) : Nat := 16 * t.taskRemain + t.rank

/-- A close with the connection up, on a server that supports it, whose request succeeded
returns nil. -/
@[simp] theorem CloseDataObjectReplica_ok (codes : ErrorCodes) :
    CloseDataObjectReplica codes true true none = none := rfl

/-- A task registers at most four deferred calls. -/
theorem DeferInv.le_three {i d : Nat} {own : List UploadEffect} (h : DeferInv i d own) : d ≤ 3 := by
  unfold DeferInv at h
  split_ifs at h
  · exact h.1
  · omega

/-- A send is made only at a send, which runs the deferred calls; those leave only for a failed close. -/
theorem step_sends {t t' : UploadTask} {m : Move} {e : UploadEffect}
    (h : t.step F B codes m = some (t', e)) :
    (e.isSend = true → t.pc.sending = true ∧ t'.pc.Unwinding) ∧
      (t.pc.Unwinding → ¬t'.pc.Unwinding → closeFails codes m = true) := by
  unfold step at h
  generalize hq : t.pc = pc at h
  cases pc
  case unwind d =>
    rcases d with _ | _ | _ | _ | d <;> cases m <;> cases h
    all_goals first
      | (simp [UploadPc.Unwinding]; done)
      | (rename_i c s code
         cases hc : CloseDataObjectReplica codes c s code <;> simp [hc, closeFails, UploadPc.Unwinding])
  all_goals cases m <;>
    simp only [Option.ite_none_right_eq_some, Option.some.injEq, Prod.mk.injEq, reduceCtorEq] at h
  all_goals first
    | (obtain ⟨rfl, rfl⟩ := h; simp [UploadPc.sending, UploadPc.Unwinding])
    | (obtain ⟨-, rfl, rfl⟩ := h; simp [UploadPc.Unwinding])

theorem coopMove_enabled {t : UploadTask} {own : List UploadEffect} (hi : t.Inv F own)
    (hx : t.pc ≠ .exited) : ∃ t' e, t.step F B codes (t.coopMove F B) = some (t', e) := by
  obtain ⟨-, -, hpc⟩ := hi
  unfold step coopMove
  unfold PcInv at hpc
  generalize hq : t.pc = pc at hpc hx
  cases pc
  case exited => exact absurd rfl hx
  case copy =>
    by_cases h0 : t.taskRemain = 0
    · simp only [h0, if_true]
      exact ⟨_, _, rfl⟩
    · simp only [h0, if_false]
      rw [if_pos ⟨Nat.pos_of_ne_zero h0, min_le_left _ _, fun he => by split_ifs at he; omega⟩]
      exact ⟨_, _, rfl⟩
  case unwind d =>
    rcases d with _ | _ | _ | _ | d
    case succ.succ.succ.succ =>
      have := hpc.1.le_three
      omega
    all_goals exact ⟨_, _, rfl⟩
  all_goals exact ⟨_, _, rfl⟩

theorem coop_work {t t' : UploadTask} {own : List UploadEffect} {e : UploadEffect} (hB : 0 < B)
    (hi : t.Inv F own) (h : t.step F B codes (t.coopMove F B) = some (t', e)) :
    t'.work < t.work ∧ (¬t.pc.Failing → ¬t'.pc.Failing) := by
  obtain ⟨-, -, hpc⟩ := hi
  unfold step coopMove at h
  unfold work rank
  unfold PcInv at hpc
  generalize hq : t.pc = pc at h hpc
  cases pc
  case copy =>
    by_cases h0 : t.taskRemain = 0
    · simp only [h0, if_true, Option.some.injEq, Prod.mk.injEq] at h
      obtain ⟨rfl, rfl⟩ := h
      exact ⟨by dsimp only; omega, nofun⟩
    · have hk : 0 < bufferLen B t.taskRemain := by unfold bufferLen; split_ifs <;> omega
      simp only [h0, if_false, Option.ite_none_right_eq_some, Option.some.injEq, Prod.mk.injEq] at h
      obtain ⟨-, rfl, rfl⟩ := h
      by_cases hs : F.length ≤ t.readOffset
      · have hc : chunk F t.readOffset (min (bufferLen B t.taskRemain) (F.length - t.readOffset)) =
            [] := by rw [← List.length_eq_zero, length_chunk]; omega
        simp only [if_pos (show F.length - t.readOffset < bufferLen B t.taskRemain by omega), hc,
          if_true, afterReadAt]
        exact ⟨by omega, nofun⟩
      · have hc : chunk F t.readOffset (min (bufferLen B t.taskRemain) (F.length - t.readOffset)) ≠
            [] := by rw [← List.length_pos, length_chunk]; omega
        simp only [hc, ↓reduceIte]
        exact ⟨by omega, fun _ h => by split_ifs at h <;> cases h⟩
  case write buf err =>
    simp only [Option.some.injEq, Prod.mk.injEq] at h
    obtain ⟨rfl, rfl⟩ := h
    refine ⟨?_, id⟩
    dsimp only
    by_cases hb : buf = [] <;> simp [hb]
  case count n err =>
    simp only [Option.some.injEq, Prod.mk.injEq] at h
    obtain ⟨rfl, rfl⟩ := h
    exact ⟨by dsimp only; split_ifs <;> omega, id⟩
  case callback n err =>
    simp only [Option.some.injEq, Prod.mk.injEq] at h
    obtain ⟨rfl, rfl⟩ := h
    have := hpc.2.2.1
    cases err
    case fail => exact ⟨by dsimp only [afterReadAt]; split_ifs <;> omega, fun hf => absurd rfl hf⟩
    all_goals exact ⟨by dsimp only [afterReadAt]; split_ifs <;> omega, fun _ => nofun⟩
  case send err d =>
    simp only [Option.some.injEq, Prod.mk.injEq] at h
    obtain ⟨rfl, rfl⟩ := h
    have := hpc.le_three
    exact ⟨by dsimp only; omega, fun _ => nofun⟩
  case unwind d =>
    rcases d with _ | _ | _ | _ | d <;> dsimp only at h <;> cases h
    all_goals simp only [CloseDataObjectReplica_ok]
    all_goals exact ⟨by omega, fun _ => nofun⟩
  case seek =>
    simp only [Option.some.injEq, Prod.mk.injEq, if_true] at h
    obtain ⟨rfl, rfl⟩ := h
    exact ⟨by dsimp only; omega, fun _ => nofun⟩
  case exited => cases h
  all_goals
    simp only [Option.some.injEq, Prod.mk.injEq] at h
    obtain ⟨rfl, rfl⟩ := h
    exact ⟨by dsimp only; omega, fun _ => nofun⟩

theorem work_le {t : UploadTask} {own : List UploadEffect} (hi : t.Inv F own) :
    t.work ≤ 16 * t.taskLength + 13 := by
  obtain ⟨hr, -, hpc⟩ := hi
  unfold work rank
  unfold PcInv at hpc
  split
  case h_11 d hq =>
    rw [hq] at hpc
    have := hpc.1.le_three
    omega
  all_goals (try split) <;> omega

/-- A task that sends at most one error, and none before its deferred calls run. -/
def SendOnce (t : UploadTask) (own : List UploadEffect) : Prop :=
  own.countP UploadEffect.isSend ≤ 1 ∧ (¬t.pc.Unwinding → own.countP UploadEffect.isSend = 0)

theorem SendOnce.step {t t' : UploadTask} {m : Move} {e : UploadEffect} {own : List UploadEffect}
    (hs : t.SendOnce own) (h : t.step F B codes m = some (t', e)) (hm : closeFails codes m = false) :
    t'.SendOnce (own ++ [e]) := by
  obtain ⟨h1, h2⟩ := step_sends h
  rw [SendOnce, List.countP_append, List.countP_singleton]
  cases he : e.isSend
  · have hu : ¬t'.pc.Unwinding → ¬t.pc.Unwinding := fun hu' hu => by simp [h2 hu hu'] at hm
    exact ⟨by simpa using hs.1, fun hu' => by simpa using hs.2 (hu hu')⟩
  · obtain ⟨hsend, hu'⟩ := h1 he
    have := hs.2 (UploadPc.not_unwinding_of_sending hsend)
    exact ⟨by simp [this], fun h => absurd hu' h⟩

end UploadTask

namespace Upload

section
variable {F : List UInt8} {B T L : Nat} {codes : ErrorCodes} {d : Upload}
  {tr : List (Nat × UploadEffect)}

theorem step_of_task {cap i : Nat} {t t' : UploadTask} {m : Move} {e : UploadEffect}
    (ht : d.tasks[i]? = some t) (hs : t.step F B codes m = some (t', e))
    (hroom : e.isSend = true → d.errChan.length < cap) : ∃ r, d.step F B codes cap i m = some r := by
  unfold step
  rw [ht]
  dsimp only
  rw [hs]
  cases e
  case send err => simp [apply, hroom rfl]
  all_goals exact ⟨_, rfl⟩

/-- Every task of the run sends at most one error, and none before its deferred calls run. -/
def SendOnce (d : Upload) (tr : List (Nat × UploadEffect)) : Prop :=
  ∀ i (t : UploadTask), d.tasks[i]? = some t → t.SendOnce (own i tr)

theorem start_sendOnce (N T : Nat) : (start (uploadTasks N T)).SendOnce [] := by
  intro j u hu
  simp only [start, getElem?_uploadTasks] at hu
  split_ifs at hu
  cases hu
  simp [UploadTask.SendOnce]

theorem SendOnce.step (hs : d.SendOnce tr) {d' : Upload} {i : Nat} {m : Move} {e : UploadEffect}
    (h : d.step F B codes T i m = some (d', e)) (hm : UploadTask.closeFails codes m = false) :
    d'.SendOnce (tr ++ [(i, e)]) := by
  obtain ⟨t, t', d'', ht, hts, -, rfl⟩ := step_eq_some h
  intro j u hu
  dsimp only at hu
  rw [List.getElem?_set] at hu
  rw [own_append]
  split_ifs at hu ⊢ with hij
  · cases hu; subst hij; exact (hs _ t ht).step hts hm
  · exact hs j u hu

theorem count_senders (j : Nat) :
    ((tr.filter (·.2.isSend)).map Prod.fst).count j = (own j tr).countP UploadEffect.isSend := by
  simp only [own, List.count, List.countP_map, List.countP_filter]
  congr 1
  funext p
  by_cases hj : p.1 = j <;> simp [Function.comp, hj]

/-- While every task sends at most once, `errChan` has room for a task before its deferred calls. -/
theorem SendOnce.room (hI : d.Inv F T L tr) (hs : d.SendOnce tr) {i : Nat} {t : UploadTask}
    (ht : d.tasks[i]? = some t) (hu : ¬t.pc.Unwinding) : d.errChan.length < T := by
  have hi : i < T := hI.length ▸ (List.getElem?_eq_some_iff.mp ht).1
  have hsub : (tr.filter (·.2.isSend)).map Prod.fst ⊆ (List.range T).erase i := by
    intro j hj
    have hj' := hj
    obtain ⟨p, hp, rfl⟩ := List.mem_map.mp hj
    refine (List.mem_erase_of_ne fun hji => ?_).mpr
      (List.mem_range.mpr (hI.trace p (List.mem_filter.mp hp).1).1)
    have := List.count_pos_iff.mpr hj'
    rw [count_senders, hji, (hs i t ht).2 hu] at this
    exact absurd this (lt_irrefl 0)
  have hnd : ((tr.filter (·.2.isSend)).map Prod.fst).Nodup := by
    refine List.nodup_iff_count_le_one.mpr fun j => ?_
    by_cases hj : j ∈ (tr.filter (·.2.isSend)).map Prod.fst
    · have hjT : j < T := List.mem_range.mp (List.mem_of_mem_erase (hsub hj))
      rw [count_senders]
      exact (hs j _ (List.getElem?_eq_getElem (hI.length ▸ hjT))).1
    · rw [List.count_eq_zero_of_not_mem hj]
      exact Nat.zero_le 1
  have hlen := (List.subperm_of_subset hnd hsub).length_le
  rw [List.length_map, List.length_erase_of_mem (List.mem_range.mpr hi), List.length_range,
    ← List.countP_eq_length_filter, ← hI.errChan] at hlen
  omega

end

/-- The work left to a run: the sum of its tasks'. -/
def work (d : Upload) : Nat := (d.tasks.map UploadTask.work).sum

/-- Task `i` gets the answer a cooperating server and local file give it; no other answer is
theirs. -/
def coopStep (F : List UInt8) (B : Nat) (codes : ErrorCodes) (cap : Nat) (d : Upload) (i : Nat)
    (m : Move) : Option (Upload × UploadEffect) :=
  match d.tasks[i]? with
  | some t => if m = t.coopMove F B then d.step F B codes cap i m else none
  | none => none

/-- No task has sent an error, and none is bound to send one. -/
def Quiet (d : Upload) : Prop := d.errChan = [] ∧ ∀ t ∈ d.tasks, ¬t.pc.Failing

instance (d : Upload) : Decidable d.Quiet :=
  inferInstanceAs (Decidable (d.errChan = [] ∧ ∀ t ∈ d.tasks, ¬t.pc.Failing))

section coop
variable {F : List UInt8} {B T L : Nat} {codes : ErrorCodes} {d : Upload}
  {tr : List (Nat × UploadEffect)}

theorem coopStep_eq_some {cap i : Nat} {m : Move} {p : Upload × UploadEffect}
    (h : d.coopStep F B codes cap i m = some p) :
    ∃ t, d.tasks[i]? = some t ∧ m = t.coopMove F B ∧ d.step F B codes cap i m = some p := by
  unfold coopStep at h
  split at h
  · split_ifs at h with hm
    exact ⟨_, ‹_›, hm, h⟩
  · cases h

theorem Quiet.coop_step (hB : 0 < B) (hI : d.Inv F T L tr) (hq : d.Quiet) {cap i : Nat} {m : Move}
    {d' : Upload} {e : UploadEffect} (h : d.coopStep F B codes cap i m = some (d', e)) :
    d'.Inv F T L (tr ++ [(i, e)]) ∧ d'.work < d.work ∧ d'.Quiet := by
  obtain ⟨t, ht, rfl, hs⟩ := coopStep_eq_some h
  obtain ⟨t₁, t', d'', ht₁, hts, ha, rfl⟩ := step_eq_some hs
  rw [ht] at ht₁
  cases ht₁
  obtain ⟨hi, hti⟩ := List.getElem?_eq_some_iff.mp ht
  have hmem : t ∈ d.tasks := hti ▸ List.getElem_mem hi
  obtain ⟨hw, hf⟩ := UploadTask.coop_work hB (hI.tasks i t ht) hts
  have hns : e.isSend = false := by
    cases he : e.isSend
    · rfl
    · exact absurd (UploadPc.failing_of_sending ((UploadTask.step_sends hts).1 he).1) (hq.2 t hmem)
  obtain ⟨htasks, hchan⟩ := apply_fields ha
  have hsum := sum_map_set UploadTask.work UploadTask.work d.tasks i t' hi fun _ _ _ => rfl
  rw [hti] at hsum
  refine ⟨step_inv hI hs, ?_, ?_, fun u hu => ?_⟩
  · unfold work
    dsimp only
    omega
  · rw [← List.length_eq_zero]
    dsimp only
    rw [hchan, hns, hq.1]
    rfl
  · rcases List.mem_or_eq_of_mem_set hu with hu | rfl
    · exact hq.2 u hu
    · exact hf (hq.2 t hmem)

theorem Quiet.coopStep_enabled (hq : d.Quiet) (hI : d.Inv F T L tr) {cap i : Nat}
    {t : UploadTask} (ht : d.tasks[i]? = some t) (hx : t.pc ≠ .exited) :
    ∃ r, d.coopStep F B codes cap i (t.coopMove F B) = some r := by
  obtain ⟨hi, hti⟩ := List.getElem?_eq_some_iff.mp ht
  obtain ⟨t', e, hs⟩ := @UploadTask.coopMove_enabled F B codes t _ (hI.tasks i t ht) hx
  obtain ⟨r, hr⟩ : ∃ r, d.step F B codes cap i (t.coopMove F B) = some r := step_of_task ht hs fun he =>
    absurd (UploadPc.failing_of_sending ((UploadTask.step_sends hs).1 he).1)
      (hq.2 t (hti ▸ List.getElem_mem hi))
  refine ⟨r, ?_⟩
  unfold coopStep
  rw [ht]
  dsimp only
  rw [if_pos rfl, hr]

theorem run_coop (hB : 0 < B) {cap : Nat} :
    ∀ (sched : List (Nat × Move)) {d : Upload} {tr : List (Nat × UploadEffect)}
      {res : Upload × List (Nat × UploadEffect)}, d.Inv F T L tr → d.Quiet →
      runSchedule (coopStep F B codes cap) d tr sched = some res →
      res.1.Inv F T L res.2 ∧ sched.length + res.1.work ≤ d.work ∧ res.1.Quiet
  | [], _, _, _, hI, hq, h => by cases h; exact ⟨hI, by simp, hq⟩
  | (i, m) :: rest, d, tr, res, hI, hq, h => by
    rw [runSchedule_cons] at h
    obtain ⟨⟨d', e⟩, hs, h⟩ := Option.bind_eq_some.mp h
    obtain ⟨hI', hw, hq'⟩ := hq.coop_step hB hI hs
    obtain ⟨hI'', hl, hq''⟩ := run_coop hB rest hI' hq' h
    exact ⟨hI'', by simp only [List.length_cons]; omega, hq''⟩

theorem Inv.work_le (hI : d.Inv F T L tr) : d.work ≤ T * (16 * L + 13) := by
  have := sum_map_le_range UploadTask.work d.tasks (fun _ => 16 * L + 13) fun j hj => by
    have hj' := List.getElem?_eq_getElem hj
    obtain ⟨-, -, hlen⟩ := hI.shape j _ hj'
    exact hlen ▸ UploadTask.work_le (hI.tasks j _ hj')
  rwa [List.map_const', List.sum_replicate, List.length_range, hI.length, smul_eq_mul] at this

end coop

end Upload

/-- While no replica close fails, every task has sent at most one error and every task that has not
returned can take its next step. -/
theorem UploadDataObjectParallel_never_blocks {F : List UInt8} {B : Nat} {codes : ErrorCodes}
    {fileLength T : Nat} {sched : List (Nat × Move)} {res : Upload × List (Nat × UploadEffect)}
    (hclose : ∀ p ∈ sched, UploadTask.closeFails codes p.2 = false)
    (h : runSchedule (Upload.step F B codes T) (Upload.start (uploadTasks fileLength T)) [] sched =
      some res) :
    (∀ i, (Upload.own i res.2).countP UploadEffect.isSend ≤ 1) ∧
    ∀ i t, res.1.tasks[i]? = some t → t.pc ≠ .exited →
      ∃ r, res.1.step F B codes T i (t.coopMove F B) = some r := by
  obtain ⟨hI, hs⟩ := runSchedule_invariant_of (fun m => UploadTask.closeFails codes m = false)
    (fun d tr => d.Inv F T (lengthPerThread fileLength T) tr ∧ d.SendOnce tr)
    (fun _ _ _ _ _ _ hm hst hi => ⟨Upload.step_inv hi.1 hst, hi.2.step hst hm⟩) sched _ _ res
    hclose h ⟨Upload.start_inv F fileLength T, Upload.start_sendOnce fileLength T⟩
  refine ⟨fun i => ?_, fun i t ht hx => ?_⟩
  · cases ht : res.1.tasks[i]? with
    | some t => exact (hs i t ht).1
    | none =>
      have hiT : T ≤ i := by
        have := List.getElem?_eq_none_iff.mp ht; rw [hI.length] at this; exact this
      rw [List.countP_eq_zero.mpr fun e he _ => by
        have := (hI.trace _ (Upload.mem_own.mp he)).1; omega]
      exact Nat.zero_le 1
  · obtain ⟨t', e, hst⟩ := UploadTask.coopMove_enabled (hI.tasks i t ht) hx
    exact Upload.step_of_task ht hst fun he =>
      hs.room hI ht (UploadPc.not_unwinding_of_sending ((UploadTask.step_sends hst).1 he).1)

/-- Task 0 of two fails its seek and sends its error; task 1 fails to get a connection and waits
to send. No replica close has failed, and both can go on: `errChan` has room for task 1's error. -/
theorem UploadDataObjectParallel_never_blocks_after_failures :
    ∃ res : Upload × List (Nat × UploadEffect),
      runSchedule (Upload.step [1, 2] 65536 ⟨-808000, -817000, -814000⟩ 2)
        (Upload.start (uploadTasks 2 2)) []
        [(0, .ok), (0, .ok), (0, .ok), (0, .ok), (0, .fail), (1, .fail), (0, .ok)] = some res ∧
      (∀ i, (Upload.own i res.2).countP UploadEffect.isSend ≤ 1) ∧
      ∀ i t, res.1.tasks[i]? = some t → t.pc ≠ .exited →
        ∃ r, res.1.step [1, 2] 65536 ⟨-808000, -817000, -814000⟩ 2 i (t.coopMove [1, 2] 65536) =
          some r :=
  let ⟨res, h⟩ : ∃ res, runSchedule (Upload.step [1, 2] 65536 ⟨-808000, -817000, -814000⟩ 2)
      (Upload.start (uploadTasks 2 2)) []
      [(0, .ok), (0, .ok), (0, .ok), (0, .ok), (0, .fail), (1, .fail), (0, .ok)] = some res :=
    ⟨_, rfl⟩
  ⟨res, h, UploadDataObjectParallel_never_blocks (by decide) h⟩

/-- Once the server and the file cooperate, `UploadDataObjectParallel` ends within
`T * (16 * L + 13)` steps, returning nil when the primary close and the replication succeed. -/
theorem UploadDataObjectParallel_completes {F : List UInt8} {B : Nat} {codes : ErrorCodes}
    {getNumTasks : Nat → Int} {fileLength : Nat} {taskNum : Int} {replicate : Bool}
    {env : UploadEnv} {serialErr : Option String} {T : Nat} {sched₁ sched₂ : List (Nat × Move)}
    {res₁ res₂ : Upload × List (Nat × UploadEffect)} (hB : 0 < B)
    (hp : prepareUpload getNumTasks fileLength taskNum env serialErr = .inr T)
    (h₁ : runSchedule (Upload.step F B codes T) (Upload.start (uploadTasks fileLength T)) []
      sched₁ = some res₁)
    (hq : res₁.1.Quiet)
    (h₂ : runSchedule (Upload.coopStep F B codes T) res₁.1 res₁.2 sched₂ = some res₂) :
    sched₂.length ≤ T * (16 * lengthPerThread fileLength T + 13) ∧
    (∀ i t, res₂.1.tasks[i]? = some t → t.pc ≠ .exited →
      ∃ r, res₂.1.coopStep F B codes T i (t.coopMove F B) = some r) ∧
    (res₂.1.Finished → env.close = true → (replicate = true → env.replicate = true) →
      UploadDataObjectParallel F B codes getNumTasks fileLength taskNum replicate env serialErr
        (sched₁ ++ sched₂) = some (.nil (uploadTrace res₂.2))) := by
  have hI₁ := Upload.run_inv (Upload.start_inv F fileLength T) h₁
  obtain ⟨hI₂, hl, hq₂⟩ := Upload.run_coop hB sched₂ hI₁ hq h₂
  have hrun := runSchedule_mono (fun _ _ _ _ hs => by
    obtain ⟨-, -, -, h⟩ := Upload.coopStep_eq_some hs; exact h) sched₂ _ _ _ h₂
  refine ⟨by have := hI₁.work_le; omega, fun i t ht hx => hq₂.coopStep_enabled hI₂ ht hx,
    fun hfin hc hr => ?_⟩
  unfold UploadDataObjectParallel
  rw [hp]
  dsimp only
  rw [runSchedule_append, h₁, Option.some_bind, hrun, Option.some_bind, if_pos hfin]
  unfold Upload.finish
  rw [hq₂.1]
  cases replicate <;> simp_all

/-- Task 1 of two has got its connection and checked it; with a cooperating server and file from
then on, both tasks upload their byte and return, and the call returns nil. -/
theorem UploadDataObjectParallel_completes_after_partial_run :
    ∃ res₁ res₂ : Upload × List (Nat × UploadEffect),
      runSchedule (Upload.step [1, 2] 65536 ⟨-808000, -817000, -814000⟩ 2)
        (Upload.start (uploadTasks 2 2)) [] ((uploadByteMoves 1).take 2) = some res₁ ∧
      runSchedule (Upload.coopStep [1, 2] 65536 ⟨-808000, -817000, -814000⟩ 2) res₁.1 res₁.2
        (uploadByteMoves 0 ++ (uploadByteMoves 1).drop 2) = some res₂ ∧ res₂.1.Finished ∧
      UploadDataObjectParallel [1, 2] 65536 ⟨-808000, -817000, -814000⟩ (fun _ => 2) 2 2 false
        .cooperating none ((uploadByteMoves 1).take 2 ++ (uploadByteMoves 0 ++ (uploadByteMoves 1).drop 2)) =
        some (.nil (uploadTrace res₂.2)) :=
  ⟨_, _, rfl, rfl, by decide,
    (@UploadDataObjectParallel_completes [1, 2] 65536 ⟨-808000, -817000, -814000⟩ (fun _ => 2) 2 2
      false .cooperating none 2 ((uploadByteMoves 1).take 2) (uploadByteMoves 0 ++ (uploadByteMoves 1).drop 2)
      _ _ (by decide) rfl rfl (by decide) rfl).2.2 (by decide) rfl nofun⟩

end IrodsClient
