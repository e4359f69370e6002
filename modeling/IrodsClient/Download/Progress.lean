import IrodsClient.Download.Run

/-! The counter `totalBytesDownloaded` and the resumable worker's journal entries, as invariants
of every download run. -/
namespace IrodsClient

/-- The bytes an effect adds to `totalBytesDownloaded`. -/
def DownloadEffect.added : DownloadEffect → Nat
  | .add n => n
  | _ => 0

/-- A point of the task's code before the resumable worker's seed add. -/
def DownloadPc.Early : DownloadPc → Prop
  | .start | .openLocal | .seed => True
  | _ => False

/-- A point of the task's code where it is returning with an error. -/
def DownloadPc.Returning : DownloadPc → Prop
  | .report _ | .exited => True
  | _ => False

/-- The chunk a task is counting: read and written, and not yet taken off `taskRemain`. -/
def DownloadPc.counting : DownloadPc → Option Nat
  | .count n _ | .status n _ | .callback n _ => some n
  | _ => none

/-- The chunk a task has added to the counter and not yet taken off `taskRemain`. -/
def DownloadPc.pending : DownloadPc → Nat
  | .status n _ | .callback n _ => n
  | _ => 0

/-- The chunk past `lastOffset` that the resumable worker's last journal entry records. -/
def DownloadPc.journaled : DownloadPc → Nat
  | .callback n _ => n
  | _ => 0

theorem DownloadPc.pending_of_counting {p : DownloadPc} (h : p.counting = none) : p.pending = 0 := by
  cases p <;> first | rfl | cases h

theorem DownloadPc.journaled_of_counting {p : DownloadPc} (h : p.counting = none) :
    p.journaled = 0 := by
  cases p <;> first | rfl | cases h

namespace DownloadTask

/-- The bytes a task accounts for: those it has taken off `taskRemain`, and a chunk it has
added to the counter but not yet taken off `taskRemain`. -/
def credit (t : DownloadTask) : Nat := t.taskLength - t.taskRemain + t.pc.pending

/-- What a task's reads say beyond its invariant: it has read nothing past the object, and the
chunk it counts is a non-empty one inside the object. -/
def Progress (S : List UInt8) (t : DownloadTask) : Prop :=
  (t.lastOffset = t.taskOffset ∨ t.lastOffset ≤ S.length) ∧
    ∀ n, t.pc.counting = some n → 0 < n ∧ t.lastOffset + n ≤ S.length

/-- What one step does to the task's progress, its journal entries and its share of the counter. -/
structure StepProgress (S : List UInt8) (r : Bool) (t t' : DownloadTask) (e : DownloadEffect) :
    Prop where
  progress : t.Progress S → t'.Progress S
  lastOffset : t.lastOffset ≤ t'.lastOffset
  journaled : t.lastOffset + t.pc.journaled ≤ t'.lastOffset + t'.pc.journaled
  writeStatus : t.Progress S → ∀ en, e = .writeStatus en → en.StartOffset = t.taskOffset ∧
    t.lastOffset + t.pc.journaled - t.taskOffset < en.CompletedLength ∧
    en.CompletedLength = t'.lastOffset + t'.pc.journaled - t.taskOffset ∧
    en.StartOffset + en.CompletedLength ≤ S.length
  seed : t.pc = .seed → e.added = t.credit ∧ t'.credit = t.credit ∧ ¬t'.pc.Early
  credit : t.pc ≠ .seed → t'.credit = t.credit + e.added
  early : t'.pc.Early → t.pc.Early
  unseeded : r = true → t.pc ≠ .seed → t.pc.Early ∨ t.pc.Returning →
    (t'.pc.Early ∨ t'.pc.Returning) ∧ e.added = 0
  plain : r = false → t'.pc ≠ .seed

@[simp] theorem counting_afterRead (err : ReadErr) : (afterRead err).counting = none := by
  cases err <;> rfl

@[simp] theorem not_early_afterRead (err : ReadErr) : ¬(afterRead err).Early := by
  cases err <;> simp [afterRead, DownloadPc.Early]

@[simp] theorem afterRead_ne_seed (err : ReadErr) : afterRead err ≠ .seed := by
  cases err <;> simp [afterRead]

@[simp] theorem not_returning_afterRead (err : ReadErr) : ¬(afterRead err).Returning := by
  cases err <;> simp [afterRead, DownloadPc.Returning]

theorem StepProgress.goto {S : List UInt8} {r : Bool} {t : DownloadTask} {q : Nat}
    {p : DownloadPc} {e : DownloadEffect} (hc : t.pc.counting = none) (hp : p.counting = none)
    (hs : t.pc ≠ .seed) (he : p.Early → t.pc.Early)
    (hu : r = true → t.pc.Early ∨ t.pc.Returning → p.Early ∨ p.Returning)
    (hseed : r = false → p ≠ .seed) (hadd : e.added = 0) (hst : ∀ en, e ≠ .writeStatus en) :
    StepProgress S r t { t with pos := q, pc := p } e where
  progress h := ⟨h.1, by simp [hp]⟩
  lastOffset := le_rfl
  journaled := by simp [DownloadPc.journaled_of_counting hc, DownloadPc.journaled_of_counting hp]
  writeStatus _ en h := absurd h (hst en)
  seed h := absurd h hs
  credit _ := by
    simp [DownloadTask.credit, hadd, DownloadPc.pending_of_counting hc,
      DownloadPc.pending_of_counting hp]
  early := he
  unseeded h _ hu' := ⟨hu h hu', hadd⟩
  plain := hseed


theorem step_progress {S f : List UInt8} {B : Nat} {r : Bool} {chan : Nat} {t t' : DownloadTask}
    {m : Move} {e : DownloadEffect} (h : t.step S B r chan m = some (t', e)) (hi : t.Inv S f) :
    StepProgress S r t t' e := by
  obtain ⟨ho, hl, -, hp⟩ := hi
  unfold step at h
  unfold PcInv at hp
  generalize hpc : t.pc = pc at h hp
  cases pc <;> cases m <;>
    simp only [Option.ite_none_right_eq_some, Option.some.injEq, Prod.mk.injEq, reduceCtorEq] at h
  case seed.ok =>
    obtain ⟨rfl, rfl⟩ := h
    have hc : t.credit = t.lastOffset - t.taskOffset := by simp [credit, hpc, DownloadPc.pending]; omega
    refine ⟨fun h => ⟨h.1, by simp [DownloadPc.counting]⟩, le_rfl, by simp [hpc, DownloadPc.journaled],
      fun _ _ h => (by split_ifs at h),
      fun _ => ⟨?_, by simp only [credit, hpc, DownloadPc.pending], by simp [DownloadPc.Early]⟩,
      fun h => absurd hpc h, by simp [DownloadPc.Early], fun _ h => absurd hpc h, fun _ => by simp⟩
    split_ifs <;> simp only [DownloadEffect.added, hc]
    omega
  case write.ok buf err =>
    obtain ⟨rfl, rfl⟩ := h
    obtain ⟨hbuf, hne, -, -, -⟩ := hp
    have hlen : buf.length = min buf.length (S.length - t.lastOffset) := by
      conv_lhs => rw [hbuf]
      exact length_chunk S _ _
    have hpos : 0 < buf.length := List.length_pos.mpr hne
    refine ⟨fun h => ⟨h.1, ?_⟩, le_rfl, by simp [hpc, DownloadPc.journaled], fun _ _ h => (by cases h),
      fun h => (by cases hpc ▸ h), fun _ => by simp [credit, hpc, DownloadPc.pending, DownloadEffect.added],
      by simp [DownloadPc.Early], fun _ _ h => by simp [hpc, DownloadPc.Early, DownloadPc.Returning] at h,
      fun _ => by simp⟩
    simp only [DownloadPc.counting, Option.some.injEq]
    rintro n rfl
    omega
  case count.ok n err =>
    obtain ⟨rfl, rfl⟩ := h
    refine ⟨fun h => ⟨h.1, ?_⟩, le_rfl, ?_, fun _ _ => nofun, fun h => (by cases hpc ▸ h),
      fun _ => ?_, ?_, fun _ _ h => by simp [hpc, DownloadPc.Early, DownloadPc.Returning] at h,
      fun _ => by split_ifs <;> simp⟩ <;> dsimp only
    · have := h.2 n (by rw [hpc]; rfl)
      split_ifs <;> simpa [DownloadPc.counting] using this
    · split_ifs <;> simp [hpc, DownloadPc.journaled]
    · split_ifs <;> simp [credit, hpc, DownloadPc.pending, DownloadEffect.added]
    · split_ifs <;> simp [DownloadPc.Early]
  case status.ok n err =>
    obtain ⟨rfl, rfl⟩ := h
    refine ⟨fun h => ⟨h.1, by simpa [hpc, DownloadPc.counting] using h.2⟩, le_rfl,
      by simp [hpc, DownloadPc.journaled], fun h en hen => ?_, fun h => (by cases hpc ▸ h),
      fun _ => by simp [credit, hpc, DownloadPc.pending, DownloadEffect.added],
      by simp [DownloadPc.Early], fun _ _ h => by simp [hpc, DownloadPc.Early, DownloadPc.Returning] at h,
      fun _ => by simp⟩
    cases hen
    have := h.2 n (by rw [hpc]; rfl)
    refine ⟨rfl, ?_, ?_, ?_⟩ <;> simp only [hpc, DownloadPc.journaled] <;> omega
  case callback.ok n err =>
    obtain ⟨rfl, rfl⟩ := h
    obtain ⟨hn, -, -, -⟩ := hp
    refine ⟨fun h => ⟨.inr (h.2 n (by rw [hpc]; rfl)).2,
      fun _ h' => Option.noConfusion ((counting_afterRead err).symm.trans h')⟩, Nat.le_add_right _ _, ?_, nofun,
      fun h => (by cases hpc ▸ h), fun _ => ?_, fun h => absurd h (not_early_afterRead err),
      fun _ _ h => by simp [hpc, DownloadPc.Early, DownloadPc.Returning] at h,
      fun _ => afterRead_ne_seed err⟩
    · simp only [advance, hpc, DownloadPc.journaled_of_counting (counting_afterRead err)]
      simp [DownloadPc.journaled]
    · simp only [credit, advance, hpc, DownloadPc.pending_of_counting (counting_afterRead err)]
      simp only [DownloadPc.pending, DownloadEffect.added]
      omega
  case openLocal.ok =>
    obtain ⟨rfl, rfl⟩ := h
    cases r <;> simp only [Bool.false_eq_true, ↓reduceIte] <;>
      exact StepProgress.goto (by simp [hpc, DownloadPc.counting]) rfl (by simp [hpc])
        (fun _ => by simp [hpc, DownloadPc.Early]) (by simp [DownloadPc.Early]) (by simp) rfl (by simp)
  all_goals
    first | obtain ⟨rfl, rfl⟩ := h | obtain ⟨-, rfl, rfl⟩ := h
    all_goals
    refine StepProgress.goto (by rw [hpc]; rfl) ?_ (by rw [hpc]; nofun) ?_ ?_ ?_ rfl (fun _ => nofun) <;>
    (try split_ifs) <;>
    (try simp only [counting_afterRead, not_early_afterRead, afterRead_ne_seed, not_returning_afterRead,
      false_implies, implies_true, ne_eq, not_false_eq_true]) <;>
    simp only [hpc, DownloadPc.counting, DownloadPc.Early, DownloadPc.Returning, or_self, or_false,
      false_or, false_implies, implies_true, ne_eq, reduceCtorEq, not_false_eq_true, imp_self]

theorem credit_le {S f : List UInt8} {t : DownloadTask} (hi : t.Inv S f) (hp : t.Progress S) :
    t.credit ≤ min t.taskLength (S.length - t.taskOffset) := by
  obtain ⟨ho, hl, -, hpc⟩ := hi
  obtain ⟨h1, h2⟩ := hp
  have hpend : t.pc.pending = 0 ∨ t.pc.pending ≤ t.taskRemain ∧ t.lastOffset + t.pc.pending ≤ S.length := by
    cases hq : t.pc <;> simp only [DownloadPc.pending, true_or]
    case status n err | callback n err =>
      simp only [PcInv, hq] at hpc
      exact .inr ⟨hpc.1, (h2 n (by rw [hq]; rfl)).2⟩
  unfold credit
  omega

theorem credit_done {S f : List UInt8} {t : DownloadTask} (hi : t.Inv S f) (hp : t.Progress S)
    (hd : t.pc = .done) : t.credit = min t.taskLength (S.length - t.taskOffset) := by
  obtain ⟨ho, hl, -, hpc⟩ := hi
  simp only [PcInv, hd] at hpc
  have := hp.1
  simp only [credit, hd, DownloadPc.pending]
  omega

end DownloadTask

/-- The journal entry an effect appends. -/
def DownloadEffect.journaled : DownloadEffect → List DataObjectTransferStatusEntry
  | .writeStatus en => [en]
  | _ => []

/-- The `CompletedLength`s the journal records for the range starting at `off`, in order. -/
def completedOf (off : Nat) (journal : List DataObjectTransferStatusEntry) : List Nat :=
  (journal.filter (·.StartOffset = off)).map (·.CompletedLength)

@[simp] theorem completedOf_nil (off : Nat) : completedOf off [] = [] := rfl

theorem completedOf_append (off : Nat) (journal : List DataObjectTransferStatusEntry)
    (en : DataObjectTransferStatusEntry) : completedOf off (journal ++ [en]) =
      completedOf off journal ++ if en.StartOffset = off then [en.CompletedLength] else [] := by
  unfold completedOf
  split_ifs with h <;> simp [List.filter_append, h]

namespace Download

theorem apply_ledger {cap : Nat} {d d' : Download} {e : DownloadEffect} (h : d.apply cap e = some d') :
    d'.journal = d.journal ++ e.journaled ∧ d'.totalBytesDownloaded = d.totalBytesDownloaded + e.added := by
  cases e <;> simp only [apply, Option.some.injEq] at h
  case send err =>
    split_ifs at h
    cases h; simp [DownloadEffect.journaled, DownloadEffect.added]
  all_goals cases h; simp [DownloadEffect.journaled, DownloadEffect.added]

/-- Beyond `Inv`: every task's progress, and every journal entry records a non-empty prefix of a
range, inside the object. -/
structure Progress (S : List UInt8) (d : Download) : Prop where
  tasks : ∀ t ∈ d.tasks, t.Progress S
  journal : ∀ en ∈ d.journal, 0 < en.CompletedLength ∧ en.StartOffset + en.CompletedLength ≤ S.length

/-- Each task keeps its range, and its journal entries' `CompletedLength`s grow from where it resumed. -/
def JournalOrder (d₀ d : Download) : Prop :=
  ∀ (j : Nat) (t₀ t : DownloadTask), d₀.tasks[j]? = some t₀ → d.tasks[j]? = some t →
    t₀.taskOffset = t.taskOffset ∧ t₀.lastOffset ≤ t.lastOffset ∧
    ((t₀.lastOffset - t₀.taskOffset) :: completedOf t.taskOffset d.journal).Pairwise (· < ·) ∧
    ∀ c ∈ completedOf t.taskOffset d.journal, c ≤ t.lastOffset + t.pc.journaled - t.taskOffset

/-- The counter is what the tasks past their seed add account for. -/
def Counted (r : Bool) (d : Download) : Prop :=
  ∃ seeded : Nat → Bool,
    d.totalBytesDownloaded = (d.tasks.map fun t => if seeded t.taskID then t.credit else 0).sum ∧
    ∀ t ∈ d.tasks, (seeded t.taskID = false → t.pc.Early ∨ t.pc.Returning) ∧
      (r = true → t.pc.Early → seeded t.taskID = false) ∧
      (r = false → seeded t.taskID = true ∧ t.pc ≠ .seed)

section step
variable {S P : List UInt8} {B T L cap : Nat} {r : Bool} {d d' : Download} {i : Nat} {m : Move}
  {e : DownloadEffect}

theorem Progress.step (hI : d.Inv S P T L) (hP : d.Progress S)
    (h : d.step S B r cap i m = some (d', e)) : d'.Progress S := by
  obtain ⟨t, t', d'', ht, hs, ha, rfl⟩ := step_eq_some h
  obtain ⟨hi, hti⟩ := List.getElem?_eq_some_iff.mp ht
  have hmem : t ∈ d.tasks := hti ▸ List.getElem_mem hi
  have sp := DownloadTask.step_progress hs (hI.tasks t hmem)
  have htp := hP.tasks t hmem
  refine ⟨fun u hu => ?_, fun en hen => ?_⟩
  · rcases List.mem_or_eq_of_mem_set hu with hu | rfl
    · exact hP.tasks u hu
    · exact sp.progress htp
  · dsimp only at hen
    rw [(apply_ledger ha).1] at hen
    rcases List.mem_append.mp hen with hen | hen
    · exact hP.journal en hen
    · cases e <;> simp only [DownloadEffect.journaled, List.mem_singleton, List.not_mem_nil] at hen
      subst hen
      obtain ⟨-, hlt, -, hle⟩ := sp.writeStatus htp _ rfl
      exact ⟨by omega, hle⟩

theorem JournalOrder.step {d₀ : Download} (hI : d.Inv S P T L) (hP : d.Progress S)
    (hO : JournalOrder d₀ d) (h : d.step S B r cap i m = some (d', e)) : JournalOrder d₀ d' := by
  obtain ⟨t, t', d'', ht, hs, ha, rfl⟩ := step_eq_some h
  obtain ⟨hi, hti⟩ := List.getElem?_eq_some_iff.mp ht
  have hmem : t ∈ d.tasks := hti ▸ List.getElem_mem hi
  have ok := DownloadTask.step_ok hs (hI.tasks t hmem)
  have sp := DownloadTask.step_progress hs (hI.tasks t hmem)
  have hlo := sp.lastOffset
  have hjo := sp.journaled
  obtain ⟨-, hoff, hlen⟩ := hI.shape i t ht
  intro j t₀ u h₀ hu
  dsimp only at hu ⊢
  rw [(apply_ledger ha).1]
  rw [List.getElem?_set] at hu
  split_ifs at hu with hij
  · -- the task that stepped: a journal entry it writes is past all it wrote before
    cases hu
    subst hij
    obtain ⟨hto, hle, hpw, hbd⟩ := hO i t₀ t h₀ ht
    rw [ok.taskOffset]
    cases e with
    | writeStatus en =>
      obtain ⟨hst, hlt, heq, -⟩ := sp.writeStatus (hP.tasks t hmem) en rfl
      simp only [DownloadEffect.journaled, completedOf_append, hst, if_true]
      refine ⟨hto, hle.trans hlo, ?_, fun c hc => ?_⟩
      · rw [← List.cons_append, List.pairwise_append]
        refine ⟨hpw, List.pairwise_singleton _ _, fun a ha b hb => ?_⟩
        rw [List.mem_singleton.mp hb]
        rcases List.mem_cons.mp ha with rfl | ha
        · omega
        · exact lt_of_le_of_lt (hbd a ha) hlt
      · rcases List.mem_append.mp hc with hc | hc
        · exact (hbd c hc).trans (by omega)
        · rw [List.mem_singleton.mp hc]; omega
    | _ =>
      simp only [DownloadEffect.journaled, List.append_nil]
      exact ⟨hto, hle.trans hlo, hpw, fun c hc => (hbd c hc).trans (by omega)⟩
  · -- another task: the step wrote no entry for its range
    obtain ⟨hto, hle, hpw, hbd⟩ := hO j t₀ u h₀ hu
    obtain ⟨-, hoffu, -⟩ := hI.shape j u hu
    suffices hc : completedOf u.taskOffset (d.journal ++ e.journaled) = completedOf u.taskOffset d.journal by
      rw [hc]; exact ⟨hto, hle, hpw, hbd⟩
    cases e with
    | writeStatus en =>
      obtain ⟨hst, hlt, -, -⟩ := sp.writeStatus (hP.tasks t hmem) en rfl
      obtain ⟨-, -, hcl, -⟩ := ok.writeStatus en rfl
      have hL : 0 < L := by omega
      have hne : en.StartOffset ≠ u.taskOffset := by
        rw [hst, hoff, hoffu]
        exact fun e => hij (Nat.eq_of_mul_eq_mul_right hL e)
      simp [DownloadEffect.journaled, completedOf_append, hne]
    | _ => simp [DownloadEffect.journaled]

theorem Counted.step (hI : d.Inv S P T L) (hC : Counted r d)
    (h : d.step S B r cap i m = some (d', e)) : Counted r d' := by
  obtain ⟨seeded, hsum, hts⟩ := hC
  obtain ⟨t, t', d'', ht, hs, ha, rfl⟩ := step_eq_some h
  obtain ⟨hi, hti⟩ := List.getElem?_eq_some_iff.mp ht
  have hmem : t ∈ d.tasks := hti ▸ List.getElem_mem hi
  have sp := DownloadTask.step_progress hs (hI.tasks t hmem)
  have hid := (DownloadTask.step_ok hs (hI.tasks t hmem)).taskID
  obtain ⟨htid, -, -⟩ := hI.shape i t ht
  obtain ⟨ha1, ha2, ha3⟩ := hts t hmem
  let seeded' := if t.pc = .seed then Function.update seeded i true else seeded
  have hother : ∀ j (hj : j < d.tasks.length), j ≠ i → seeded' d.tasks[j].taskID = seeded d.tasks[j].taskID := by
    intro j hj hji
    have : d.tasks[j].taskID = j := (hI.shape j _ (List.getElem?_eq_getElem hj)).1
    simp only [seeded', this]
    split_ifs <;> simp [Function.update_noteq hji]
  have hown : (if seeded' t'.taskID then t'.credit else 0) =
      (if seeded t.taskID then t.credit else 0) + e.added ∧
      (seeded' t'.taskID = false → t'.pc.Early ∨ t'.pc.Returning) ∧
      (r = true → t'.pc.Early → seeded' t'.taskID = false) ∧
      (r = false → seeded' t'.taskID = true ∧ t'.pc ≠ .seed) := by
    rw [hid, htid]
    have hres : (seeded t.taskID = false ∨ t.pc = .seed) → r = true := fun h' => by
      cases r
      · rcases h' with h' | h'
        · exact absurd (ha3 rfl).1 (by rw [h']; decide)
        · exact absurd h' (ha3 rfl).2
      · rfl
    by_cases hseed : t.pc = .seed
    · have hr := hres (.inr hseed)
      obtain ⟨hadd, hcr, hne⟩ := sp.seed hseed
      have hf : seeded i = false := by rw [← htid]; exact ha2 hr (by simp [hseed, DownloadPc.Early])
      simp only [seeded', hseed, if_true, Function.update_same, hf, hadd, hcr]
      exact ⟨by simp, by simp, fun _ h => absurd h hne, fun h => by simp [hr] at h⟩
    · simp only [seeded', hseed, if_false]
      rw [← htid]
      refine ⟨?_, fun hf => ?_, fun hr he => ha2 hr (sp.early he), fun hr => ⟨(ha3 hr).1, sp.plain hr⟩⟩
      · cases hsd : seeded t.taskID
        · obtain ⟨-, h0⟩ := sp.unseeded (hres (.inl hsd)) hseed (ha1 hsd)
          simp [h0]
        · simp [sp.credit hseed]
      · exact (sp.unseeded (hres (.inl hf)) hseed (ha1 hf)).1
  refine ⟨seeded', ?_, fun u hu => ?_⟩
  · dsimp only
    rw [(apply_ledger ha).2, hsum]
    have := sum_map_set (fun u => if seeded u.taskID then u.credit else 0)
      (fun u => if seeded' u.taskID then u.credit else 0) d.tasks i t' hi
      fun j hj hji => by simp only [hother j hj hji]
    dsimp only at this
    rw [hti, hown.1] at this
    omega
  · obtain ⟨j, hj, rfl⟩ := List.getElem_of_mem hu
    rw [List.getElem_set]
    split_ifs with hij
    · exact hown.2
    · have hj' : j < d.tasks.length := by simpa using hj
      rw [hother j hj' (Ne.symm hij)]
      exact hts _ (List.getElem_mem hj')
end step

/-- The invariants of a run from the launch state `d₀`, over the object `S` and the local file
`P`, with `T` tasks of `L` bytes. -/
structure RunInv (S P : List UInt8) (T L : Nat) (r : Bool) (d₀ d : Download) : Prop where
  inv : d.Inv S P T L
  progress : d.Progress S
  order : JournalOrder d₀ d
  counted : Counted r d

section run
variable {S P : List UInt8} {B T L cap : Nat} {r : Bool} {d₀ d : Download}

theorem RunInv.step {d' : Download} {i : Nat} {m : Move} {e : DownloadEffect}
    (hR : RunInv S P T L r d₀ d) (h : d.step S B r cap i m = some (d', e)) :
    RunInv S P T L r d₀ d' :=
  ⟨step_inv hR.inv h, hR.progress.step hR.inv h, hR.order.step hR.inv hR.progress h,
    hR.counted.step hR.inv h⟩

theorem run_runInv {tr : List (Nat × DownloadEffect)} {sched : List (Nat × Move)}
    {res : Download × List (Nat × DownloadEffect)} (hR : RunInv S P T L r d₀ d)
    (h : runSchedule (step S B r cap) d tr sched = some res) : RunInv S P T L r d₀ res.1 :=
  runSchedule_invariant (fun d _ => RunInv S P T L r d₀ d) (fun _ _ _ _ _ _ hs hi => hi.step hs)
    sched d tr res h hR

theorem start_runInv {N T : Nat} {lo : Nat → Nat}
    (hI : (start P (launchTasks N T lo)).Inv S P T (lengthPerThread N T))
    (hin : ∀ j < T, lo (j * lengthPerThread N T) = j * lengthPerThread N T ∨
      lo (j * lengthPerThread N T) ≤ S.length)
    (hr : r = false → ∀ j < T, lo (j * lengthPerThread N T) = j * lengthPerThread N T) :
    RunInv S P T (lengthPerThread N T) r (start P (launchTasks N T lo))
      (start P (launchTasks N T lo)) := by
  refine ⟨hI, ⟨fun u hu => ?_, by simp [start]⟩, fun j t₀ t h₀ h => ?_,
    ⟨fun _ => !r, ?_, fun u hu => ?_⟩⟩
  · obtain ⟨j, hj, rfl⟩ := mem_launchTasks.mp hu
    exact ⟨hin j hj, by simp [DownloadTask.init, DownloadPc.counting]⟩
  · rw [h₀] at h
    cases h
    simp [start]
  · refine (List.sum_eq_zero fun x hx => ?_).symm
    obtain ⟨u, hu, rfl⟩ := List.mem_map.mp hx
    obtain ⟨j, hj, rfl⟩ := mem_launchTasks.mp hu
    cases r
    · simp [DownloadTask.credit, DownloadTask.init, DownloadPc.pending, hr rfl j hj]
    · rfl
  · obtain ⟨j, hj, rfl⟩ := mem_launchTasks.mp hu
    cases r <;> simp [DownloadTask.init, DownloadPc.Early, DownloadPc.pending]

/-- For the non-resumable worker the counter is the tasks' copied bytes with their pending chunks. -/
theorem Counted.plain (hC : Counted false d) :
    d.totalBytesDownloaded = (d.tasks.map DownloadTask.credit).sum := by
  obtain ⟨seeded, hsum, hts⟩ := hC
  rw [hsum]
  congr 1
  exact List.map_congr_left fun u hu => by simp [((hts u hu).2.2 rfl).1]

theorem RunInv.counter_le (hR : RunInv S P T L r d₀ d) :
    d.totalBytesDownloaded ≤ min S.length (T * L) := by
  obtain ⟨seeded, hsum, -⟩ := hR.counted
  rw [hsum, ← sum_range_min, ← hR.inv.length]
  refine sum_map_le_range _ _ _ fun j hj => ?_
  have hmem := List.getElem_mem hj
  obtain ⟨-, hoff, hlen⟩ := hR.inv.shape j _ (List.getElem?_eq_getElem hj)
  have := DownloadTask.credit_le (hR.inv.tasks _ hmem) (hR.progress.tasks _ hmem)
  rw [hoff, hlen] at this
  split_ifs <;> omega

/-- When every task has returned and none sent an error, the counter is what the ranges hold. -/
theorem RunInv.counter_of_finished (hR : RunInv S P T L r d₀ d) (hfin : d.Finished)
    (hnil : d.errChan = []) : d.totalBytesDownloaded = min S.length (T * L) := by
  have hdone : ∀ t ∈ d.tasks, t.pc = .done := fun t ht =>
    (hfin t ht).resolve_right fun hx => by
      have := hR.inv.errChan
      rw [hnil, List.length_nil, eq_comm, List.countP_eq_zero] at this
      exact this t ht (by simp [hx])
  obtain ⟨seeded, hsum, hts⟩ := hR.counted
  rw [hsum, ← sum_range_min, ← hR.inv.length]
  refine sum_map_eq_range _ _ _ fun j hj => ?_
  have hmem := List.getElem_mem hj
  obtain ⟨-, hoff, hlen⟩ := hR.inv.shape j _ (List.getElem?_eq_getElem hj)
  have hd := hdone _ hmem
  have hs : seeded d.tasks[j].taskID = true := by
    by_contra hs
    rcases (hts _ hmem).1 (by simpa using hs) with h | h <;> simp [hd, DownloadPc.Early,
      DownloadPc.Returning] at h
  rw [if_pos hs, DownloadTask.credit_done (hR.inv.tasks _ hmem) (hR.progress.tasks _ hmem) hd, hoff,
    hlen]
end run

end Download

end IrodsClient
