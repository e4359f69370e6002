import IrodsClient.Upload.Task
import IrodsClient.Partition

/-! The goroutines of a parallel upload run together: `errChan` and the byte counter they share,
every interleaving of their steps, and what each task's effects in the trace of a run say. -/
namespace IrodsClient

/-- What the upload tasks share, and the tasks. -/
structure Upload where
  tasks : List UploadTask
  errChan : List String
  totalBytesUploaded : Nat
  deriving DecidableEq, Repr

namespace Upload

/-- The shared state after an effect. A send to `errChan` of capacity `cap` blocks when it is
full. -/
def apply (cap : Nat) (d : Upload) : UploadEffect → Option Upload
  | .add n => some { d with totalBytesUploaded := d.totalBytesUploaded + n }
  | .send err => if d.errChan.length < cap then some { d with errChan := d.errChan ++ [err] } else none
  | _ => some d

/-- Task `i` takes the move `m`. -/
def step (F : List UInt8) (B : Nat) (codes : ErrorCodes) (cap : Nat) (d : Upload) (i : Nat)
    (m : Move) : Option (Upload × UploadEffect) :=
  match d.tasks[i]? with
  | none => none
  | some t => match t.step F B codes m with
    | none => none
    | some (t', e) => (d.apply cap e).map fun d' => ({ d' with tasks := d.tasks.set i t' }, e)

/-- Every task has returned, so `taskWaitGroup.Wait()` returns. -/
def Finished (d : Upload) : Prop := ∀ t ∈ d.tasks, t.pc = .exited

instance (d : Upload) : Decidable d.Finished :=
  inferInstanceAs (Decidable (∀ t ∈ d.tasks, t.pc = .exited))

theorem apply_fields {cap : Nat} {d d' : Upload} {e : UploadEffect} (h : d.apply cap e = some d') :
    d'.tasks = d.tasks ∧ d'.errChan.length = d.errChan.length + (if e.isSend then 1 else 0) := by
  cases e <;> simp only [apply, Option.some.injEq] at h
  case send err =>
    split_ifs at h
    cases h; simp
  all_goals cases h; simp

/-- The effects of task `i` in the trace `tr`, in order. -/
def own (i : Nat) (tr : List (Nat × UploadEffect)) : List UploadEffect :=
  (tr.filter (·.1 = i)).map Prod.snd

@[simp] theorem own_nil (i : Nat) : own i [] = [] := rfl

theorem own_append (i j : Nat) (tr : List (Nat × UploadEffect)) (e : UploadEffect) :
    own i (tr ++ [(j, e)]) = if j = i then own i tr ++ [e] else own i tr := by
  unfold own
  split_ifs with h <;> simp [h]

/-- The run invariant: each task keeps its range and its invariant over its effects, every effect is
on its task's handles and writes `F` inside the range, and `errChan` holds one error per send. -/
structure Inv (F : List UInt8) (T L : Nat) (d : Upload) (tr : List (Nat × UploadEffect)) : Prop where
  length : d.tasks.length = T
  shape : ∀ i t, d.tasks[i]? = some t → t.taskID = i ∧ t.taskOffset = i * L ∧ t.taskLength = L
  tasks : ∀ i (t : UploadTask), d.tasks[i]? = some t → t.Inv F (own i tr)
  trace : ∀ p ∈ tr, p.1 < T ∧ p.2.Owned p.1 ∧ p.2.WriteIn F (p.1 * L) (p.1 * L + L)
  errChan : d.errChan.length = tr.countP (·.2.isSend)

theorem step_inv {F : List UInt8} {B T L cap : Nat} {codes : ErrorCodes} {d d' : Upload}
    {tr : List (Nat × UploadEffect)} {i : Nat} {m : Move} {e : UploadEffect} (hI : d.Inv F T L tr)
    (h : d.step F B codes cap i m = some (d', e)) : d'.Inv F T L (tr ++ [(i, e)]) := by
  unfold step at h
  cases ht : d.tasks[i]? with
  | none => simp [ht] at h
  | some t =>
  cases hs : t.step F B codes m with
  | none => simp [ht, hs] at h
  | some p =>
  obtain ⟨t', e'⟩ := p
  simp only [ht, hs, Option.map_eq_some'] at h
  obtain ⟨d'', ha, hd⟩ := h
  cases hd
  obtain ⟨hi, -⟩ := List.getElem?_eq_some_iff.mp ht
  have ok := UploadTask.step_ok hs (hI.tasks i t ht)
  obtain ⟨htasks, hchan⟩ := apply_fields ha
  obtain ⟨hid, hoff, hlen⟩ := hI.shape i t ht
  refine ⟨by simp [hI.length], ?_, ?_, ?_, ?_⟩
  · intro j u hu
    dsimp only at hu
    rw [List.getElem?_set] at hu
    split_ifs at hu with hij
    · cases hu; subst hij
      exact ⟨ok.taskID.trans hid, ok.taskOffset.trans hoff, ok.taskLength.trans hlen⟩
    · exact hI.shape j u hu
  · intro j u hu
    dsimp only at hu
    rw [List.getElem?_set] at hu
    rw [own_append]
    split_ifs at hu ⊢ with hij
    · cases hu; subst hij; exact ok.inv
    · exact hI.tasks j u hu
  · intro p hp
    rcases List.mem_append.mp hp with hp | hp
    · exact hI.trace p hp
    · rw [List.mem_singleton.mp hp]
      refine ⟨hI.length ▸ hi, hid ▸ ok.owned, ?_⟩
      have := ok.writeIn
      rwa [hoff, hlen] at this
  · dsimp only
    rw [hchan, hI.errChan, List.countP_append, List.countP_singleton]

theorem run_inv {F : List UInt8} {B T L cap : Nat} {codes : ErrorCodes} {d : Upload}
    {tr : List (Nat × UploadEffect)} {sched : List (Nat × Move)}
    {res : Upload × List (Nat × UploadEffect)} (hI : d.Inv F T L tr)
    (h : runSchedule (step F B codes cap) d tr sched = some res) : res.1.Inv F T L res.2 :=
  runSchedule_invariant (fun d tr => d.Inv F T L tr) (fun _ _ _ _ _ _ hs hi => step_inv hi hs)
    sched d tr res h hI

end Upload

/-- `uploadTask(taskOffset, taskLength)` about to run: `taskRemain := taskLength`. -/
def UploadTask.init (taskID taskOffset taskLength : Nat) : UploadTask :=
  { taskID, taskOffset, taskLength, taskRemain := taskLength, pos := 0, pc := .acquire }

/-- The tasks the launch loop starts for `numTasks` tasks over `fileLength` bytes. -/
def uploadTasks (fileLength numTasks : Nat) : List UploadTask :=
  (launchLoop (lengthPerThread fileLength numTasks) numTasks 0 0).map fun p =>
    UploadTask.init p.1 p.2 (lengthPerThread fileLength numTasks)

theorem getElem?_uploadTasks (N T j : Nat) :
    (uploadTasks N T)[j]? = if j < T then
      some (UploadTask.init j (j * lengthPerThread N T) (lengthPerThread N T)) else none := by
  simp only [uploadTasks, launchLoop_eq, List.map_map, List.getElem?_map, List.getElem?_range']
  split_ifs <;> simp_all [Function.comp, List.getElem?_range]

namespace Upload

/-- The shared state when the tasks are launched. -/
def start (tasks : List UploadTask) : Upload := { tasks, errChan := [], totalBytesUploaded := 0 }

theorem start_inv (F : List UInt8) (N T : Nat) :
    (start (uploadTasks N T)).Inv F T (lengthPerThread N T) [] := by
  refine ⟨by simp [start, uploadTasks, launchLoop_eq], ?_, ?_, by simp, by simp [start]⟩
  all_goals
    intro j u hu
    simp only [start, getElem?_uploadTasks] at hu
    split_ifs at hu
    cases hu
  · exact ⟨rfl, rfl, rfl⟩
  · exact ⟨le_rfl, by simp, by simp [UploadTask.PcInv, UploadTask.init]⟩

theorem mem_own {i : Nat} {tr : List (Nat × UploadEffect)} {e : UploadEffect} :
    e ∈ own i tr ↔ (i, e) ∈ tr := by
  simp [own]

theorem Sublist.of_own {i : Nat} {tr : List (Nat × UploadEffect)} {a b : UploadEffect}
    (h : List.Sublist [a, b] (own i tr)) : List.Sublist [(i, a), (i, b)] tr := by
  obtain ⟨l, hl, hab⟩ := List.sublist_map_iff.mp h
  match l, hab with
  | [(j, a'), (k, b')], hab =>
    obtain ⟨rfl, rfl⟩ : a = a' ∧ b = b' := by simpa using hab
    have hj : j = i := by simpa using List.of_mem_filter (hl.subset (List.mem_cons_self _ _))
    have hk : k = i := by
      simpa using List.of_mem_filter (hl.subset (List.mem_cons_of_mem _ (List.mem_singleton_self _)))
    subst hj hk
    exact hl.trans (List.filter_sublist tr)
  | [], hab | [_], hab | _ :: _ :: _ :: _, hab => simp at hab

/-- Every task has returned or waits to send on a full `errChan`. -/
def Blocked (cap : Nat) (d : Upload) : Prop :=
  ∀ t ∈ d.tasks, t.pc = .exited ∨ (t.pc.sending = true ∧ cap ≤ d.errChan.length)

instance (cap : Nat) (d : Upload) : Decidable (d.Blocked cap) :=
  inferInstanceAs (Decidable (∀ t ∈ d.tasks, t.pc = .exited ∨ (t.pc.sending = true ∧ cap ≤ d.errChan.length)))

/-- When every task has returned or waits on a full `errChan`, no task can move. -/
theorem Blocked.step_eq_none {F : List UInt8} {B cap : Nat} {codes : ErrorCodes} {d : Upload}
    (hb : d.Blocked cap) (i : Nat) (m : Move) : d.step F B codes cap i m = none := by
  unfold step
  cases ht : d.tasks[i]? with
  | none => rfl
  | some t =>
    have hmem : t ∈ d.tasks := by
      obtain ⟨h, rfl⟩ := List.getElem?_eq_some_iff.mp ht; exact List.getElem_mem h
    dsimp only
    rcases hb t hmem with hx | ⟨hs, hc⟩
    · simp only [UploadTask.step_of_exited hx]
    · cases hpc : t.pc <;> simp only [hpc, UploadPc.sending, Bool.false_eq_true] at hs
      rcases hst : t.step F B codes m with _ | ⟨t', e⟩
      · rfl
      · simp [UploadTask.step_of_send hpc hst, apply, Nat.not_lt.mpr hc]

section finished
variable {F : List UInt8} {T L : Nat} {d : Upload} {tr : List (Nat × UploadEffect)}

/-- When every task has returned, each task's effects are those of a finished `uploadTask`. -/
theorem Inv.own_exited (hI : d.Inv F T L tr) (hfin : d.Finished) {i : Nat} (hi : i < T) :
    UploadTask.DeferInv i 0 (own i tr) ∧ ((own i tr).countP UploadEffect.isSend = 0 →
      UploadTask.Covered F (own i tr) (i * L) (i * L + L)) := by
  obtain ⟨t, ht⟩ : ∃ t, d.tasks[i]? = some t := ⟨_, List.getElem?_eq_getElem (hI.length ▸ hi)⟩
  have hmem : t ∈ d.tasks := by
    obtain ⟨h, rfl⟩ := List.getElem?_eq_some_iff.mp ht; exact List.getElem_mem h
  obtain ⟨hid, hoff, hlen⟩ := hI.shape i t ht
  have hp := (hI.tasks i t ht).pc
  simp only [UploadTask.PcInv, hfin t hmem] at hp
  rwa [hid, hoff, hlen] at hp

theorem Inv.replica_closed (hI : d.Inv F T L tr) (hfin : d.Finished) {i c : Nat} {h : Handle}
    (ho : (i, UploadEffect.openReplica c h) ∈ tr) :
    c = i ∧ h = .replica i ∧ (own i tr).countP UploadEffect.isClose = 1 ∧
      List.Sublist [(i, UploadEffect.closeReplica i (.replica i)), (i, .discard i)] tr := by
  obtain ⟨hi, hown, -⟩ := hI.trace _ ho
  dsimp only [UploadEffect.Owned] at hi hown
  obtain ⟨rfl, rfl⟩ := hown
  obtain ⟨hd, -⟩ := hI.own_exited hfin hi
  have hopen : 0 < (own c tr).countP UploadEffect.isOpen :=
    List.countP_pos_iff.mpr ⟨_, mem_own.mpr ho, rfl⟩
  simp only [UploadTask.DeferInv, Nat.not_succ_le_zero, if_false] at hd
  obtain ⟨hc, h1, hsub⟩ := hd
  have h1' : (own c tr).countP UploadEffect.isOpen = 1 := by omega
  exact ⟨rfl, rfl, hc.trans h1', Sublist.of_own (hsub trivial h1')⟩

theorem Inv.write_bytes (hI : d.Inv F T L tr) (hL : 0 < L) {i : Nat} {h : Handle} {off : Nat}
    {data : List UInt8} (hw : (i, UploadEffect.write h off data) ∈ tr) :
    h = .replica i ∧ ∀ j < data.length, off + j < F.length ∧ data[j]? = F[off + j]? ∧
      (off + j) / L = i := by
  obtain ⟨-, hown, hdata, hlo, hhi⟩ := hI.trace _ hw
  dsimp only at hlo hhi
  refine ⟨hown, fun j hj => ⟨?_, ?_, (div_eq_iff_mem_task hL).mpr ⟨by omega, by omega⟩⟩⟩
  · have := congrArg List.length hdata
    simp only [length_chunk] at this; omega
  · have := congrArg (·[j]?) hdata
    simpa [getElem?_chunk, hj] using this

theorem Inv.covers (hI : d.Inv F T L tr) (hfin : d.Finished) (hsend : tr.countP (·.2.isSend) = 0)
    (hL : 0 < L) (hN : F.length ≤ T * L) {o : Nat} (ho : o < F.length) :
    ∃ i h off data, (i, UploadEffect.write h off data) ∈ tr ∧ off ≤ o ∧ o < off + data.length := by
  obtain ⟨hi, hlo, hhi⟩ := div_mem_task hL (show o < T * L by omega)
  have hs : (own (o / L) tr).countP UploadEffect.isSend = 0 :=
    List.countP_eq_zero.mpr fun e he hse => List.countP_eq_zero.mp hsend _ (mem_own.mp he) hse
  obtain ⟨h, off, data, hm, h1, h2⟩ := (hI.own_exited hfin hi).2 hs o hlo hhi ho
  exact ⟨o / L, h, off, data, mem_own.mp hm, h1, h2⟩

end finished

end Upload

end IrodsClient
