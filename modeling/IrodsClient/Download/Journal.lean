import IrodsClient.Download.Resume
import IrodsClient.Download.Progress

/-! The resume journal across invocations of `DownloadDataObjectParallelResumable`: it stays sound
at every point of every run of a chain of interrupted invocations. -/
namespace IrodsClient

/-- Every entry of a journal for `S`'s size ends inside the object. -/
def EntriesInObject (S : List UInt8) (disk : Disk) : Prop :=
  ∀ j ∈ disk.journal, j.Size = S.length → ∀ e ∈ j.entries,
    e.StartOffset + e.CompletedLength ≤ S.length

section chain
variable {S P : List UInt8} {B : Nat} {getNumTasks : Nat → Int} {connectionMaxNumber : Int}
  {taskNum : Int} {env : ResumableEnv}

theorem prepareResumable_ne_zero {disk : Disk} {l : ResumeLaunch} {N : Nat}
    (h : prepareResumable getNumTasks connectionMaxNumber N taskNum env disk = .inr l) : N ≠ 0 := by
  rintro rfl
  simp [prepareResumable] at h

/-- A launch from a disk whose entries end inside the object starts the run invariants. -/
theorem prepareResumable_runInv {disk : Disk} {l : ResumeLaunch} (hd : DiskInv S P disk)
    (hb : EntriesInObject S disk)
    (h : prepareResumable getNumTasks connectionMaxNumber S.length taskNum env disk = .inr l) :
    Download.RunInv S disk.file l.numTasks (lengthPerThread S.length l.numTasks) true l.start
      l.start := by
  obtain ⟨-, -, -, hI⟩ := prepareResumable_launch hd h
  obtain ⟨status, rfl, -, rfl⟩ := prepareResumable_eq_inr h
  refine Download.start_runInv hI (fun j _ => ?_) fun h => by cases h
  unfold resumeOffset
  cases hl : Journal.lookup _ (j * lengthPerThread S.length _) with
  | none => exact .inl rfl
  | some e =>
    obtain ⟨hmem, -⟩ := Journal.lookup_mem hl
    exact .inr (hb _ (GetOrNewDataObjectTransferStatusLocal_mem hmem) (by simp) e hmem)

theorem Interrupts.entries_in_object {disk disk' : Disk} (hN : S.length ≠ 0)
    (h : Interrupts S B getNumTasks connectionMaxNumber S.length disk disk') (hd : DiskInv S P disk)
    (hb : EntriesInObject S disk) : EntriesInObject S disk' := by
  rcases h.cases hN with ⟨-, hj | ⟨j, hj, he⟩⟩ | ⟨_, _, l, _, r, hp, hr, rfl⟩
  · rw [EntriesInObject, hj]; exact hb
  · simp [EntriesInObject, hj, he]
  · have hR := Download.run_runInv (prepareResumable_runInv hd hb hp) hr
    simp only [EntriesInObject, ResumeLaunch.disk, Option.mem_def, Option.some.injEq]
    rintro j rfl - e he
    exact (hR.progress.journal e he).2

theorem EntriesInObject.of_chain {disk : Disk} (hN : S.length ≠ 0)
    (h : Relation.ReflTransGen (Interrupts S B getNumTasks connectionMaxNumber S.length) ⟨P, none⟩ disk) :
    EntriesInObject S disk := by
  induction h with
  | refl => simp [EntriesInObject]
  | tail hc hstep ih => exact hstep.entries_in_object hN (DiskInv.of_chain hN hc) ih

/-- Every invocation of a chain launches its tasks inside the run invariants. -/
theorem chain_runInv {disk : Disk} {l : ResumeLaunch}
    (hchain : Relation.ReflTransGen (Interrupts S B getNumTasks connectionMaxNumber S.length)
      ⟨P, none⟩ disk)
    (h : prepareResumable getNumTasks connectionMaxNumber S.length taskNum env disk = .inr l) :
    Download.RunInv S disk.file l.numTasks (lengthPerThread S.length l.numTasks) true l.start
      l.start :=
  have hN := prepareResumable_ne_zero h
  prepareResumable_runInv (DiskInv.of_chain hN hchain) (EntriesInObject.of_chain hN hchain) h

end chain

/-- At every point of every resumed run, each task's journal entries record growing non-empty
prefixes of its range, starting past its resumed prefix, that the file holds with `S`'s bytes. -/
theorem resumable_journal_sound {S P : List UInt8} {B : Nat} {getNumTasks : Nat → Int}
    {connectionMaxNumber taskNum : Int} {env : ResumableEnv} {disk : Disk} {l : ResumeLaunch}
    {sched : List (Nat × Move)} {r : Download × List (Nat × DownloadEffect)}
    (hchain : Relation.ReflTransGen (Interrupts S B getNumTasks connectionMaxNumber S.length)
      ⟨P, none⟩ disk)
    (hl : prepareResumable getNumTasks connectionMaxNumber S.length taskNum env disk = .inr l)
    (hr : runSchedule (Download.step S B true l.numTasks) l.start [] sched = some r) :
    ∀ t₀ ∈ l.start.tasks,
      (∀ en ∈ r.1.journal, en.StartOffset = t₀.taskOffset →
        en.Length = t₀.taskLength ∧ 0 < en.CompletedLength ∧ en.CompletedLength ≤ t₀.taskLength ∧
        ∀ o, t₀.taskOffset ≤ o → o < t₀.taskOffset + en.CompletedLength → r.1.file[o]? = S[o]?) ∧
      ((t₀.lastOffset - t₀.taskOffset) :: completedOf t₀.taskOffset r.1.journal).Pairwise (· < ·) := by
  have h₀ := chain_runInv hchain hl
  have hR := Download.run_runInv h₀ hr
  intro t₀ ht₀
  obtain ⟨j, hj, rfl⟩ := List.getElem_of_mem ht₀
  obtain ⟨-, -, hlen⟩ := h₀.inv.shape j _ (List.getElem?_eq_getElem hj)
  have hj' : j < r.1.tasks.length := by rw [hR.inv.length, ← h₀.inv.length]; exact hj
  obtain ⟨hto, -, hpw, -⟩ :=
    hR.order j _ _ (List.getElem?_eq_getElem hj) (List.getElem?_eq_getElem hj')
  rw [← hto] at hpw
  refine ⟨fun en hen hst => ?_, hpw⟩
  obtain ⟨h1, h2, h3⟩ := hR.inv.journal en hen
  obtain ⟨h4, h5⟩ := hR.progress.journal en hen
  rw [hlen]
  rw [hst] at h3 h5
  exact ⟨h1, h4, h2, fun o ho1 ho2 => h3 o ho1 ho2 (by omega)⟩

/-- Task 0 opens the file; task 1 copies and journals its range in two one-byte reads. -/
def resumeInTwoChunks : List (Nat × Move) :=
  [(0, .ok), (0, .ok), (1, .ok), (1, .ok), (1, .ok), (1, .ok), (1, .seekTo 2), (1, .ok),
    (1, .read 1 .none), (1, .ok), (1, .ok), (1, .ok), (1, .ok), (1, .ok), (1, .read 1 .none),
    (1, .ok), (1, .ok), (1, .ok)]

theorem resumable_journal_sound_after_kill :
    ∃ r : Download × List (Nat × DownloadEffect),
      runSchedule (Download.step [1, 2, 3, 4] 65536 true 2)
        (Download.start [1, 2] (launchTasks 4 2 (resumeOffset ⟨4, 2, [⟨0, 2, 2⟩]⟩))) []
        resumeInTwoChunks = some r ∧
      r.1.journal = [⟨2, 2, 1⟩, ⟨2, 2, 2⟩] ∧
      ∀ t₀ ∈ launchTasks 4 2 (resumeOffset ⟨4, 2, [⟨0, 2, 2⟩]⟩),
        (∀ en ∈ r.1.journal, en.StartOffset = t₀.taskOffset →
          en.Length = t₀.taskLength ∧ 0 < en.CompletedLength ∧ en.CompletedLength ≤ t₀.taskLength ∧
          ∀ o, t₀.taskOffset ≤ o → o < t₀.taskOffset + en.CompletedLength →
            r.1.file[o]? = [1, 2, 3, 4][o]?) ∧
        ((t₀.lastOffset - t₀.taskOffset) :: completedOf t₀.taskOffset r.1.journal).Pairwise (· < ·) :=
  ⟨_, rfl, rfl, @resumable_journal_sound [1, 2, 3, 4] [] 65536 (fun _ => 2) 16 1
    ⟨true, true, true, true, 2, true, true⟩ ⟨[1, 2], some ⟨4, 2, [⟨0, 2, 2⟩]⟩⟩
    ⟨⟨4, 2, []⟩, 2, Download.start [1, 2] (launchTasks 4 2 (resumeOffset ⟨4, 2, [⟨0, 2, 2⟩]⟩))⟩
    resumeInTwoChunks _ (.single killed_after_first_range) rfl rfl⟩

end IrodsClient
