import IrodsClient.Upload.Run

/-! The counter `totalBytesUploaded` of a parallel upload: what the tasks have taken off
`taskRemain`, and the chunks added but not yet taken off. -/
namespace IrodsClient

/-- The bytes an effect adds to `totalBytesUploaded`. -/
def UploadEffect.added : UploadEffect → Nat
  | .add n => n
  | _ => 0

/-- The chunk a task has added to the counter and not yet taken off `taskRemain`. -/
def UploadPc.pending : UploadPc → Nat
  | .callback n _ => n
  | _ => 0

/-- A point of the task's code after its copy loop: running its deferred calls, or returned. -/
def UploadPc.Unwinding : UploadPc → Prop
  | .unwind _ | .exited => True
  | _ => False

namespace UploadTask

/-- The task has read nothing past the file, its counted chunk lies in it, and a quiet loop ended. -/
def Progress (F : List UInt8) (t : UploadTask) (own : List UploadEffect) : Prop :=
  (t.taskRemain = t.taskLength ∨ t.readOffset ≤ F.length) ∧
    (∀ n err, (t.pc = .count n err ∨ t.pc = .callback n err) → n = 0 ∨ t.readOffset + n ≤ F.length) ∧
    (t.pc.Unwinding → own.countP UploadEffect.isSend = 0 → t.taskRemain = 0 ∨ F.length ≤ t.readOffset)

theorem Progress.goto {F : List UInt8} {t : UploadTask} {own : List UploadEffect} {e : UploadEffect}
    {q : Nat} {p p₀ : UploadPc} (hp : t.Progress F own)
    (hc : ∀ n err, ¬(p = .count n err ∨ p = .callback n err))
    (hu : p.Unwinding → (own ++ [e]).countP UploadEffect.isSend = 0 →
      t.taskRemain = 0 ∨ F.length ≤ t.readOffset) (h0 : p₀.pending = 0) (he : e.added = 0) :
    Progress F { t with pos := q, pc := p } (own ++ [e]) ∧
      t.taskLength - t.taskRemain + p.pending = t.taskLength - t.taskRemain + p₀.pending + e.added := by
  refine ⟨⟨hp.1, fun n err h => absurd h (hc n err), hu⟩, ?_⟩
  have : p.pending = 0 := by cases p <;> first | rfl | exact absurd (.inr rfl) (hc _ _)
  rw [this, h0, he]

/-- What a step adds to the counter: what it takes off `taskRemain`, or the chunk it leaves pending. -/
theorem step_progress {F : List UInt8} {B : Nat} {codes : ErrorCodes} {t t' : UploadTask} {m : Move}
    {e : UploadEffect} {own : List UploadEffect} (h : t.step F B codes m = some (t', e))
    (hi : t.Inv F own) (hp : t.Progress F own) :
    t'.Progress F (own ++ [e]) ∧ t'.taskLength - t'.taskRemain + t'.pc.pending =
      t.taskLength - t.taskRemain + t.pc.pending + e.added := by
  have hp' := hp
  obtain ⟨hr, -, hpc⟩ := hi
  obtain ⟨h1, h2, h3⟩ := hp
  have keep : ∀ {e : UploadEffect}, e.isSend = false →
      (own ++ [e]).countP UploadEffect.isSend = 0 → own.countP UploadEffect.isSend = 0 :=
    fun he hs => by
      rwa [List.countP_append, List.countP_singleton, he, if_neg Bool.false_ne_true, Nat.add_zero] at hs
  unfold step at h
  unfold PcInv at hpc
  generalize hq : t.pc = pc at h hpc h2 h3 ⊢
  cases pc
  case unwind d =>
    rcases d with _ | _ | _ | _ | d <;> cases m <;> dsimp only at h <;> cases h
    all_goals
      exact Progress.goto hp'
        (fun n err h => by rcases h with h | h <;> first | cases h | (split at h <;> cases h))
        (fun _ hs => h3 trivial (keep (by rfl) hs)) rfl rfl
  all_goals cases m <;>
    simp only [Option.ite_none_right_eq_some, Option.some.injEq, Prod.mk.injEq, reduceCtorEq] at h
  case seek.seekTo v =>
    obtain ⟨rfl, rfl⟩ := h
    refine Progress.goto hp' (fun n err => ?_) (fun hu => ?_) rfl rfl
    · split_ifs <;> simp
    · split_ifs at hu <;> cases hu
  case copy.ok =>
    obtain ⟨h0, rfl, rfl⟩ := h
    exact Progress.goto hp' (by simp) (fun _ _ => .inl h0) rfl rfl
  case copy.read k err =>
    obtain ⟨⟨-, -, heof⟩, rfl, rfl⟩ := h
    refine Progress.goto hp' (fun n err' => ?_) (fun hu _ => ?_) rfl rfl
    · split_ifs <;> cases err <;> simp [afterReadAt]
    · split_ifs at hu with h0
      · -- an empty read at `io.EOF` is at the end of the file
        cases err <;> simp only [afterReadAt, UploadPc.Unwinding] at hu
        have h0' := congrArg List.length h0
        simp only [length_chunk, List.length_nil] at h0'
        have := heof rfl
        omega
      · cases hu
  case write.ok buf err =>
    obtain ⟨rfl, rfl⟩ := h
    obtain ⟨-, -, -, -, hbuf, -, -⟩ := hpc
    have hlen : buf.length = min buf.length (F.length - t.readOffset) := by
      conv_lhs => rw [hbuf]
      exact length_chunk F _ _
    refine ⟨⟨h1, fun n err' hn => ?_, fun hu => (by cases hu)⟩, rfl⟩
    rcases hn with hn | hn <;> cases hn
    simp only [readOffset_pos_pc]
    omega
  case count.ok n err =>
    obtain ⟨rfl, rfl⟩ := h
    exact ⟨⟨h1, fun n' err' hn => by rcases hn with hn | hn <;> cases hn; exact h2 n err (.inl rfl),
      fun hu => (by cases hu)⟩, rfl⟩
  case callback.ok n err =>
    obtain ⟨rfl, rfl⟩ := h
    obtain ⟨-, -, hn, -, -, heof⟩ := hpc
    have hro : ({ t with taskRemain := t.taskRemain - n, pc := afterReadAt err } : UploadTask).readOffset =
        t.readOffset + n := by
      simp only [readOffset]; omega
    have := h2 n err (.inr rfl)
    refine ⟨⟨?_, fun n' err' h => (by cases err <;> rcases h with h | h <;> cases h), fun hu _ => ?_⟩, ?_⟩
    · rw [hro]; dsimp only; omega
    · cases err <;> simp only [afterReadAt, UploadPc.Unwinding] at hu
      rw [hro]
      exact .inr (heof rfl)
    · have : (afterReadAt err).pending = 0 := by cases err <;> rfl
      dsimp only
      rw [this]
      simp only [UploadPc.pending, UploadEffect.added]
      omega
  case send.ok err d =>
    obtain ⟨rfl, rfl⟩ := h
    exact Progress.goto hp' (by simp) (fun _ hs => by simp [List.countP_singleton] at hs) rfl rfl
  all_goals
    obtain ⟨rfl, rfl⟩ := h
    exact Progress.goto hp' (by simp) (fun hu => (by cases hu)) rfl rfl

theorem Progress.done_le {F : List UInt8} {t : UploadTask} {own : List UploadEffect}
    (hi : t.Inv F own) (hp : t.Progress F own) :
    t.taskLength - t.taskRemain + t.pc.pending ≤ t.taskLength ∧
      (t.taskLength - t.taskRemain + t.pc.pending = 0 ∨
        t.taskOffset + (t.taskLength - t.taskRemain + t.pc.pending) ≤ F.length) := by
  have hr := hi.remain
  have h1 := hp.1
  unfold readOffset at h1
  cases hpc : t.pc with
  | callback n err =>
    have hn : n ≤ t.taskRemain := by
      have := hi.pc; simp only [PcInv, hpc] at this; exact this.2.2.1
    have := hp.2.1 n err (.inr hpc)
    simp only [UploadPc.pending, readOffset] at this ⊢
    omega
  | _ => simp only [UploadPc.pending]; omega

end UploadTask

namespace Upload

theorem step_eq_some {F : List UInt8} {B cap : Nat} {codes : ErrorCodes} {d d' : Upload} {i : Nat}
    {m : Move} {e : UploadEffect} (h : d.step F B codes cap i m = some (d', e)) :
    ∃ t t' d'', d.tasks[i]? = some t ∧ t.step F B codes m = some (t', e) ∧
      d.apply cap e = some d'' ∧ d' = { d'' with tasks := d.tasks.set i t' } := by
  unfold step at h
  cases ht : d.tasks[i]? with
  | none => simp [ht] at h
  | some t =>
  cases hs : t.step F B codes m with
  | none => simp [ht, hs] at h
  | some p =>
  obtain ⟨t', e'⟩ := p
  simp only [ht, hs, Option.map_eq_some'] at h
  obtain ⟨d'', ha, hd⟩ := h
  cases hd
  exact ⟨t, t', d'', rfl, hs, ha, rfl⟩

theorem apply_counter {cap : Nat} {d d' : Upload} {e : UploadEffect} (h : d.apply cap e = some d') :
    d'.totalBytesUploaded = d.totalBytesUploaded + e.added := by
  cases e <;> simp only [apply, Option.some.injEq] at h
  case send err =>
    split_ifs at h
    cases h; rfl
  all_goals cases h; rfl

/-- Every task's progress, and the counter is the tasks' copied bytes with their pending chunks. -/
structure Progress (F : List UInt8) (d : Upload) (tr : List (Nat × UploadEffect)) : Prop where
  tasks : ∀ i (t : UploadTask), d.tasks[i]? = some t → t.Progress F (own i tr)
  counter : d.totalBytesUploaded =
    (d.tasks.map fun t => t.taskLength - t.taskRemain + t.pc.pending).sum

section progress
variable {F : List UInt8} {B T L cap : Nat} {codes : ErrorCodes} {d : Upload}
  {tr : List (Nat × UploadEffect)}

theorem Progress.step {d' : Upload} {i : Nat} {m : Move} {e : UploadEffect} (hI : d.Inv F T L tr)
    (hP : d.Progress F tr) (h : d.step F B codes cap i m = some (d', e)) :
    d'.Progress F (tr ++ [(i, e)]) := by
  obtain ⟨t, t', d'', ht, hs, ha, rfl⟩ := step_eq_some h
  obtain ⟨hi, hti⟩ := List.getElem?_eq_some_iff.mp ht
  obtain ⟨hp, hc⟩ := UploadTask.step_progress hs (hI.tasks i t ht) (hP.tasks i t ht)
  refine ⟨fun j u hu => ?_, ?_⟩
  · dsimp only at hu
    rw [List.getElem?_set] at hu
    rw [own_append]
    split_ifs at hu ⊢ with hij
    · cases hu; subst hij; exact hp
    · exact hP.tasks j u hu
  · dsimp only
    have := sum_map_set (fun u : UploadTask => u.taskLength - u.taskRemain + u.pc.pending)
      (fun u => u.taskLength - u.taskRemain + u.pc.pending) d.tasks i t' hi fun _ _ _ => rfl
    rw [hti] at this
    dsimp only at this
    rw [apply_counter ha, hP.counter]
    omega

theorem run_progress {sched : List (Nat × Move)} {res : Upload × List (Nat × UploadEffect)}
    (hI : d.Inv F T L tr) (hP : d.Progress F tr)
    (h : runSchedule (step F B codes cap) d tr sched = some res) : res.1.Progress F res.2 :=
  (runSchedule_invariant (fun d tr => d.Inv F T L tr ∧ d.Progress F tr)
    (fun _ _ _ _ _ _ hs hi => ⟨step_inv hi.1 hs, hi.2.step hi.1 hs⟩) sched d tr res h ⟨hI, hP⟩).2

theorem start_progress (N T : Nat) : (start (uploadTasks N T)).Progress F [] := by
  refine ⟨fun j u hu => ?_, ?_⟩
  · simp only [start, getElem?_uploadTasks] at hu
    split_ifs at hu
    cases hu
    simp [UploadTask.Progress, UploadTask.init, UploadPc.Unwinding]
  · simp [start, uploadTasks, UploadTask.init, UploadPc.pending, Function.comp_def]

theorem Progress.counter_le (hI : d.Inv F T L tr) (hP : d.Progress F tr) :
    d.totalBytesUploaded ≤ min F.length (T * L) := by
  rw [hP.counter, ← sum_range_min, ← hI.length]
  refine sum_map_le_range _ _ _ fun j hj => ?_
  have hj' := List.getElem?_eq_getElem hj
  obtain ⟨-, hoff, hlen⟩ := hI.shape j _ hj'
  have := (hP.tasks j _ hj').done_le (hI.tasks j _ hj')
  omega

theorem Progress.counter_of_finished (hI : d.Inv F T L tr) (hP : d.Progress F tr)
    (hfin : d.Finished) (hnil : d.errChan = []) : d.totalBytesUploaded = min F.length (T * L) := by
  have hsend : tr.countP (·.2.isSend) = 0 := by rw [← hI.errChan, hnil]; rfl
  rw [hP.counter, ← sum_range_min, ← hI.length]
  refine sum_map_eq_range _ _ _ fun j hj => ?_
  have hj' := List.getElem?_eq_getElem hj
  obtain ⟨-, hoff, hlen⟩ := hI.shape j _ hj'
  have hr := (hI.tasks j _ hj').remain
  obtain ⟨h1, -, h3⟩ := hP.tasks j _ hj'
  have hown : (own j tr).countP UploadEffect.isSend = 0 :=
    List.countP_eq_zero.mpr fun e he => List.countP_eq_zero.mp hsend _ (mem_own.mp he)
  have hx := hfin _ (List.getElem_mem hj)
  have h3 := h3 (by rw [hx]; trivial) hown
  rw [hx]
  simp only [UploadTask.readOffset, UploadPc.pending] at h1 h3 ⊢
  omega

end progress

end Upload

end IrodsClient
