import IrodsClient.Upload.Progress
import IrodsClient.Upload.Parallel
import IrodsClient.Serial
import IrodsClient.Download.Journal

/-! The three parallel transfers side by side: their ranges, their byte counters, and a round trip. -/
namespace IrodsClient

/-- The offsets of the local file a download effect writes. -/
def DownloadEffect.offsets : DownloadEffect → List Nat
  | .writeAt off data => List.range' off data.length
  | _ => []

/-- The remote offsets an upload effect writes. -/
def UploadEffect.offsets : UploadEffect → List Nat
  | .write _ off data => List.range' off data.length
  | _ => []

theorem DownloadEffect.offsets_of_writeIn {S : List UInt8} {lo hi : Nat} {e : DownloadEffect}
    (h : e.WriteIn S lo hi) : ∀ o ∈ e.offsets, lo ≤ o ∧ o < hi := by
  cases e with
  | writeAt off data =>
    intro o ho
    rw [offsets, List.mem_range'_1] at ho
    obtain ⟨-, h1, h2⟩ := h
    omega
  | _ => simp [offsets]

theorem UploadEffect.offsets_of_writeIn {F : List UInt8} {lo hi : Nat} {e : UploadEffect}
    (h : e.WriteIn F lo hi) : ∀ o ∈ e.offsets, lo ≤ o ∧ o < hi := by
  cases e with
  | write hd off data =>
    intro o ho
    rw [offsets, List.mem_range'_1] at ho
    obtain ⟨-, h1, h2⟩ := h
    omega
  | _ => simp [offsets]

/-- Task `i` writes the offset `o` somewhere in the trace `tr`. -/
def WritesAt {ε : Type} (offsets : ε → List Nat) (tr : List (Nat × ε)) (i o : Nat) : Prop :=
  ∃ p ∈ tr, p.1 = i ∧ o ∈ offsets p.2

/-- The writes of the trace `tr` keep to the split of `N` bytes among `T` tasks: task `i` writes
only inside `[i * L, (i + 1) * L)`, and no offset is written by two tasks. -/
def KeepsToRanges {ε : Type} (offsets : ε → List Nat) (N T : Nat) (tr : List (Nat × ε)) : Prop :=
  (∀ i o, WritesAt offsets tr i o →
    i < T ∧ i * lengthPerThread N T ≤ o ∧ o < (i + 1) * lengthPerThread N T) ∧
  ∀ i j o, WritesAt offsets tr i o → WritesAt offsets tr j o → i = j

theorem keepsToRanges_of {ε : Type} {offsets : ε → List Nat} {N T : Nat} {tr : List (Nat × ε)}
    (h : ∀ p ∈ tr, p.1 < T ∧ ∀ o ∈ offsets p.2,
      p.1 * lengthPerThread N T ≤ o ∧ o < p.1 * lengthPerThread N T + lengthPerThread N T) :
    KeepsToRanges offsets N T tr := by
  have hw : ∀ i o, WritesAt offsets tr i o →
      i < T ∧ i * lengthPerThread N T ≤ o ∧ o < i * lengthPerThread N T + lengthPerThread N T := by
    rintro i o ⟨p, hp, rfl, ho⟩
    exact ⟨(h p hp).1, (h p hp).2 o ho⟩
  refine ⟨fun i o hio => ?_, fun i j o hi hj => ?_⟩
  · rw [Nat.succ_mul]
    exact hw i o hio
  · by_contra hij
    exact task_ranges_disjoint hij (hw i o hi).2 (hw j o hj).2

/-- The ranges of `L = lengthPerThread N T` bytes cover `[0, N)`, and in every run of the three
parallel transfers each task writes only inside its own range. -/
theorem parallel_transfers_keep_to_ranges {N T : Nat} (hT : 0 < T) :
    (∀ o < N, ∃ i < T, i * lengthPerThread N T ≤ o ∧ o < (i + 1) * lengthPerThread N T) ∧
    (∀ (F : List UInt8) (B cap : Nat) (codes : ErrorCodes) (sched : List (Nat × Move))
      (res : Upload × List (Nat × UploadEffect)),
      runSchedule (Upload.step F B codes cap) (Upload.start (uploadTasks N T)) [] sched = some res →
      KeepsToRanges UploadEffect.offsets N T res.2) ∧
    (∀ (S P : List UInt8) (B cap : Nat) (sched : List (Nat × Move))
      (res : Download × List (Nat × DownloadEffect)),
      runSchedule (Download.step S B false cap) (Download.start P (launchTasks N T fun off => off)) []
        sched = some res →
      KeepsToRanges DownloadEffect.offsets N T res.2) ∧
    (∀ (S P : List UInt8) (B : Nat) (getNumTasks : Nat → Int) (connectionMaxNumber taskNum : Int)
      (env : ResumableEnv) (disk : Disk) (l : ResumeLaunch) (sched : List (Nat × Move))
      (res : Download × List (Nat × DownloadEffect)),
      S.length = N →
      Relation.ReflTransGen (Interrupts S B getNumTasks connectionMaxNumber N) ⟨P, none⟩ disk →
      prepareResumable getNumTasks connectionMaxNumber N taskNum env disk = .inr l →
      l.numTasks = T → runSchedule (Download.step S B true T) l.start [] sched = some res →
      KeepsToRanges DownloadEffect.offsets N T res.2) := by
  refine ⟨fun o ho => ?_, fun F B cap codes sched res h => ?_, fun S P B cap sched res h => ?_,
    fun S P B getNumTasks connectionMaxNumber taskNum env disk l sched res hS hchain hl hT h => ?_⟩
  · obtain ⟨i, hi, h1, h2⟩ := task_ranges_cover hT ho
    exact ⟨i, hi, h1, by rw [Nat.succ_mul]; exact h2⟩
  · have hI := Upload.run_inv (Upload.start_inv F N T) h
    exact keepsToRanges_of fun p hp =>
      ⟨(hI.trace p hp).1, UploadEffect.offsets_of_writeIn (hI.trace p hp).2.2⟩
  · have hw := Download.run_writeIn (Download.start_inv fun _ _ =>
      ⟨le_rfl, Nat.le_add_right _ _, Covers.empty S P _⟩) (by simp) h
    exact keepsToRanges_of fun p hp => ⟨(hw p hp).1, DownloadEffect.offsets_of_writeIn (hw p hp).2⟩
  · subst hS hT
    have hw := Download.run_writeIn (chain_runInv hchain hl).inv (by simp) h
    exact keepsToRanges_of fun p hp => ⟨(hw p hp).1, DownloadEffect.offsets_of_writeIn (hw p hp).2⟩

/-- The two-task upload of `[1, 2]`, a two-task download of `[1, 2, 3]`, and the resumed
download of `resumeInTwoChunks` keep to their ranges. -/
theorem parallel_transfers_keep_to_ranges_two_tasks :
    ∃ (ru : Upload × List (Nat × UploadEffect)) (rd rr : Download × List (Nat × DownloadEffect)),
      runSchedule (Upload.step [1, 2] 65536 ⟨-808000, -817000, -814000⟩ 2)
        (Upload.start (uploadTasks 2 2)) [] (uploadByteMoves 0 ++ uploadByteMoves 1) = some ru ∧
      KeepsToRanges UploadEffect.offsets 2 2 ru.2 ∧
      runSchedule (Download.step [1, 2, 3] 65536 false 2)
        (Download.start [7] (launchTasks 3 2 fun off => off)) []
        (downloadRangeMoves false 0 0 2 .none ++ downloadRangeMoves false 1 2 2 .eof) = some rd ∧
      KeepsToRanges DownloadEffect.offsets 3 2 rd.2 ∧
      runSchedule (Download.step [1, 2, 3, 4] 65536 true 2)
        (Download.start [1, 2] (launchTasks 4 2 (resumeOffset ⟨4, 2, [⟨0, 2, 2⟩]⟩))) []
        resumeInTwoChunks = some rr ∧
      KeepsToRanges DownloadEffect.offsets 4 2 rr.2 :=
  ⟨_, _, _, rfl, (@parallel_transfers_keep_to_ranges 2 2 (by decide)).2.1 [1, 2] 65536 2
      ⟨-808000, -817000, -814000⟩ (uploadByteMoves 0 ++ uploadByteMoves 1) _ rfl, rfl,
    (@parallel_transfers_keep_to_ranges 3 2 (by decide)).2.2.1 [1, 2, 3] [7] 65536 2
      (downloadRangeMoves false 0 0 2 .none ++ downloadRangeMoves false 1 2 2 .eof) _ rfl, rfl,
    (@parallel_transfers_keep_to_ranges 4 2 (by decide)).2.2.2 [1, 2, 3, 4] [] 65536 (fun _ => 2) 16 1
      ⟨true, true, true, true, 2, true, true⟩ ⟨[1, 2], some ⟨4, 2, [⟨0, 2, 2⟩]⟩⟩
      ⟨⟨4, 2, []⟩, 2, Download.start [1, 2] (launchTasks 4 2 (resumeOffset ⟨4, 2, [⟨0, 2, 2⟩]⟩))⟩
      resumeInTwoChunks _ rfl (.single killed_after_first_range) rfl rfl rfl⟩

/-- At every point of every run the counters are the tasks' copied bytes with their pending chunks,
over the tasks past their seed add when resumed; they stay within `N` and end at `N`. -/
theorem transfer_counters_track_progress {N T : Nat} (hT : 0 < T) :
    (∀ (F : List UInt8) (B cap : Nat) (codes : ErrorCodes) (sched : List (Nat × Move))
      (res : Upload × List (Nat × UploadEffect)), F.length = N →
      runSchedule (Upload.step F B codes cap) (Upload.start (uploadTasks N T)) [] sched = some res →
      res.1.totalBytesUploaded =
        (res.1.tasks.map fun t => t.taskLength - t.taskRemain + t.pc.pending).sum ∧
      res.1.totalBytesUploaded ≤ N ∧
      (res.1.Finished → res.1.errChan = [] → res.1.totalBytesUploaded = N)) ∧
    (∀ (S P : List UInt8) (B cap : Nat) (sched : List (Nat × Move))
      (res : Download × List (Nat × DownloadEffect)), S.length = N →
      runSchedule (Download.step S B false cap) (Download.start P (launchTasks N T fun off => off)) []
        sched = some res →
      res.1.totalBytesDownloaded =
        (res.1.tasks.map fun t => t.taskLength - t.taskRemain + t.pc.pending).sum ∧
      res.1.totalBytesDownloaded ≤ N ∧
      (res.1.Finished → res.1.errChan = [] → res.1.totalBytesDownloaded = N)) ∧
    (∀ (S P : List UInt8) (B : Nat) (getNumTasks : Nat → Int) (connectionMaxNumber taskNum : Int)
      (env : ResumableEnv) (disk : Disk) (l : ResumeLaunch) (sched : List (Nat × Move))
      (res : Download × List (Nat × DownloadEffect)),
      S.length = N →
      Relation.ReflTransGen (Interrupts S B getNumTasks connectionMaxNumber N) ⟨P, none⟩ disk →
      prepareResumable getNumTasks connectionMaxNumber N taskNum env disk = .inr l →
      l.numTasks = T → runSchedule (Download.step S B true T) l.start [] sched = some res →
      (∃ seeded : Nat → Bool,
        res.1.totalBytesDownloaded = (res.1.tasks.map fun t =>
          if seeded t.taskID then t.taskLength - t.taskRemain + t.pc.pending else 0).sum ∧
        ∀ t ∈ res.1.tasks, (t.pc.Early → seeded t.taskID = false) ∧
          (¬t.pc.Early → ¬t.pc.Returning → seeded t.taskID = true)) ∧
      res.1.totalBytesDownloaded ≤ N ∧
      (res.1.Finished → res.1.errChan = [] → res.1.totalBytesDownloaded = N)) := by
  have hmin : ∀ {n : Nat}, n = N → min n (T * lengthPerThread N T) = N := fun h => by
    subst h; exact Nat.min_eq_left (le_mul_lengthPerThread _ _ hT)
  refine ⟨fun F B cap codes sched res hF h => ?_, fun S P B cap sched res hS h => ?_,
    fun S P B getNumTasks connectionMaxNumber taskNum env disk l sched res hS hchain hl hT' h => ?_⟩
  · have hI := Upload.run_inv (Upload.start_inv F N T) h
    have hP := Upload.run_progress (Upload.start_inv F N T) (Upload.start_progress N T) h
    exact ⟨hP.counter, hmin hF ▸ hP.counter_le hI, fun hfin hnil => hmin hF ▸ hP.counter_of_finished hI hfin hnil⟩
  · have hR := Download.run_runInv (Download.start_runInv (Download.start_inv fun _ _ =>
      ⟨le_rfl, Nat.le_add_right _ _, Covers.empty S P _⟩) (fun _ _ => .inl rfl) fun _ _ _ => rfl) h
    exact ⟨hR.counted.plain, hmin hS ▸ hR.counter_le, fun hfin hnil => hmin hS ▸ hR.counter_of_finished hfin hnil⟩
  · subst hS hT'
    have hR := Download.run_runInv (chain_runInv hchain hl) h
    obtain ⟨seeded, hsum, hts⟩ := hR.counted
    refine ⟨⟨seeded, hsum, fun t ht => ⟨(hts t ht).2.1 rfl, fun he hr => ?_⟩⟩,
      hmin rfl ▸ hR.counter_le, fun hfin hnil => hmin rfl ▸ hR.counter_of_finished hfin hnil⟩
    by_contra hs
    rcases (hts t ht).1 (by simpa using hs) with h | h
    · exact he h
    · exact hr h

/-- Task 0 of the two-task upload of `[1, 2]` has added its byte to the counter and not yet taken
it off `taskRemain` when task 1 completes its chunk. -/
def uploadWithPendingChunk : List (Nat × Move) := (uploadByteMoves 0).take 8 ++ (uploadByteMoves 1).take 9

/-- After `uploadWithPendingChunk` the counter holds both bytes, one of them pending. -/
theorem transfer_counters_track_progress_pending_chunk :
    ∃ res : Upload × List (Nat × UploadEffect),
      runSchedule (Upload.step [1, 2] 65536 ⟨-808000, -817000, -814000⟩ 2)
        (Upload.start (uploadTasks 2 2)) [] uploadWithPendingChunk = some res ∧
      res.1.totalBytesUploaded = 2 ∧
      res.1.totalBytesUploaded =
        (res.1.tasks.map fun t => t.taskLength - t.taskRemain + t.pc.pending).sum :=
  ⟨_, rfl, rfl, ((@transfer_counters_track_progress 2 2 (by decide)).1 [1, 2] 65536 2
    ⟨-808000, -817000, -814000⟩ uploadWithPendingChunk _ rfl rfl).1⟩

/-- A pending chunk and a missing seed add make the counters differ from the completed chunks. -/
theorem counters_differ_from_completed_chunks :
    (∃ res : Upload × List (Nat × UploadEffect),
      runSchedule (Upload.step [1, 2] 65536 ⟨-808000, -817000, -814000⟩ 2)
        (Upload.start (uploadTasks 2 2)) [] uploadWithPendingChunk = some res ∧
      res.1.totalBytesUploaded = 2 ∧ (res.1.tasks.map fun t => t.taskLength - t.taskRemain).sum = 1) ∧
    Relation.ReflTransGen (Interrupts [1, 2, 3, 4] 65536 (fun _ => 2) 16 4) ⟨[], none⟩
      ⟨[1, 2], some ⟨4, 2, [⟨0, 2, 2⟩]⟩⟩ ∧
    prepareResumable (fun _ => 2) 16 4 1 ⟨true, true, true, true, 2, true, true⟩
      ⟨[1, 2], some ⟨4, 2, [⟨0, 2, 2⟩]⟩⟩ =
      .inr ⟨⟨4, 2, []⟩, 2, Download.start [1, 2] (launchTasks 4 2 (resumeOffset ⟨4, 2, [⟨0, 2, 2⟩]⟩))⟩ ∧
    ∃ res : Download × List (Nat × DownloadEffect), runSchedule (Download.step [1, 2, 3, 4] 65536 true 2)
        (Download.start [1, 2] (launchTasks 4 2 (resumeOffset ⟨4, 2, [⟨0, 2, 2⟩]⟩))) []
        (resumeInTwoChunks ++ [(1, .ok)]) = some res ∧
      res.1.totalBytesDownloaded = 2 ∧ (res.1.tasks.map fun t => t.taskLength - t.taskRemain).sum = 4 :=
  ⟨⟨_, rfl, rfl, rfl⟩, .single killed_after_first_range, rfl, _, rfl, rfl, rfl⟩

/-- The object after one event of a parallel upload: a task's write puts its bytes at their
offset. -/
def putEvent (obj : List UInt8) : UploadEvent → List UInt8
  | .task _ (.write _ off data) => writeAt obj off data
  | _ => obj

/-- The object a parallel upload leaves on the server: the writes of its events, in the order they
ran, on the new object `OpenDataObjectForPutParallel` opened. -/
def uploadedObject (evs : List UploadEvent) : List UInt8 := evs.foldl putEvent []

/-- Some write among the events puts a byte at offset `o`. -/
def WritesOffset (evs : List UploadEvent) (o : Nat) : Prop :=
  ∃ i h off data, UploadEvent.task i (.write h off data) ∈ evs ∧ off ≤ o ∧ o < off + data.length

theorem putEvent_agrees {F obj : List UInt8} {ev : UploadEvent} {C : Nat → Prop}
    (hw : ∀ i h off data, ev = .task i (.write h off data) → data = chunk F off data.length)
    (hl : obj.length ≤ F.length) (hc : ∀ o, C o → o < F.length → obj[o]? = F[o]?) :
    (putEvent obj ev).length ≤ F.length ∧
      ∀ o, C o ∨ WritesOffset [ev] o → o < F.length → (putEvent obj ev)[o]? = F[o]? := by
  by_cases hev : ∃ i h off data, ev = .task i (.write h off data)
  · obtain ⟨i, h, off, data, rfl⟩ := hev
    have hd := hw i h off data rfl
    refine ⟨?_, fun o ho hF => ?_⟩
    · by_cases hne : data = []
      · simpa [putEvent, hne] using hl
      · have := List.length_pos.mpr hne
        rw [putEvent, length_writeAt off hne]
        rw [hd, length_chunk] at this ⊢
        omega
    · simp only [putEvent]
      rw [hd]
      rcases ho with ho | ⟨_, _, _, _, he, h1, h2⟩
      · exact getElem?_writeAt_chunk hF (hc o ho hF)
      · obtain ⟨rfl, rfl, rfl, rfl⟩ := by simpa using he
        exact getElem?_writeAt_chunk_self h1 h2 hF
  · -- any other event leaves the object as it is
    have hobj : putEvent obj ev = obj := by
      rcases ev with _ | _ | _ | ⟨i, e⟩
      case task => cases e <;> first | rfl | exact absurd ⟨_, _, _, _, rfl⟩ hev
      all_goals rfl
    rw [hobj]
    refine ⟨hl, fun o ho hF => ?_⟩
    rcases ho with ho | ⟨i, h, off, data, he, -⟩
    · exact hc o ho hF
    · exact absurd ⟨i, h, off, data, (List.mem_singleton.mp he).symm⟩ hev

/-- Writes of chunks of `F`, in any order, keep the object within `F` and holding its bytes. -/
theorem foldl_putEvent {F : List UInt8} :
    ∀ (evs : List UploadEvent) (obj : List UInt8) (C : Nat → Prop),
      (∀ i h off data, UploadEvent.task i (.write h off data) ∈ evs → data = chunk F off data.length) →
      obj.length ≤ F.length → (∀ o, C o → o < F.length → obj[o]? = F[o]?) →
      (evs.foldl putEvent obj).length ≤ F.length ∧
        ∀ o, C o ∨ WritesOffset evs o → o < F.length → (evs.foldl putEvent obj)[o]? = F[o]?
  | [], obj, C, _, hl, hc =>
    ⟨hl, fun o ho => ho.elim (hc o) fun ⟨_, _, _, _, h, _⟩ => (List.not_mem_nil _ h).elim⟩
  | ev :: evs, obj, C, hw, hl, hc => by
    obtain ⟨hl', hc'⟩ := putEvent_agrees (C := C) (fun i h off data he => hw i h off data (he ▸ .head _))
      hl hc
    obtain ⟨hl'', hc''⟩ := foldl_putEvent evs (putEvent obj ev) (fun o => C o ∨ WritesOffset [ev] o)
      (fun i h off data hm => hw i h off data (.tail _ hm)) hl' hc'
    refine ⟨hl'', fun o ho hF => hc'' o ?_ hF⟩
    rcases ho with ho | ⟨i, h, off, data, hm, h1, h2⟩
    · exact .inl (.inl ho)
    · rcases List.mem_cons.mp hm with hm | hm
      · exact .inl (.inr ⟨i, h, off, data, List.mem_singleton.mpr hm, h1, h2⟩)
      · exact .inr ⟨i, h, off, data, hm, h1, h2⟩

theorem uploadedObject_eq {F : List UInt8} {evs : List UploadEvent}
    (hw : ∀ i h off data, UploadEvent.task i (.write h off data) ∈ evs → data = chunk F off data.length)
    (hc : ∀ o < F.length, WritesOffset evs o) : uploadedObject evs = F := by
  obtain ⟨hl, ho⟩ := foldl_putEvent evs [] (fun _ => False) hw (Nat.zero_le _) fun _ h => h.elim
  refine List.ext_getElem? fun o => ?_
  by_cases hF : o < F.length
  · exact ho o (.inr (hc o hF)) hF
  · rw [List.getElem?_eq_none (by unfold uploadedObject; omega), List.getElem?_eq_none (by omega)]

/-- A parallel upload of `F` that returns nil leaves `F` on the server. -/
theorem UploadDataObjectParallel_uploadedObject {F : List UInt8} {B : Nat} {codes : ErrorCodes}
    {getNumTasks : Nat → Int} {taskNum : Int} {replicate : Bool} {env : UploadEnv}
    {serialErr : Option String} {sched : List (Nat × Move)} {evs : List UploadEvent}
    (hN : 0 < F.length) (hsup : env.SupportParallelUpload = true)
    (hT : 2 ≤ resolveUploadTasks getNumTasks F.length taskNum)
    (h : UploadDataObjectParallel F B codes getNumTasks F.length taskNum replicate env serialErr
      sched = some (.nil evs)) : uploadedObject evs = F := by
  unfold UploadDataObjectParallel at h
  split at h
  · rename_i hp
    cases h
    obtain ⟨h0, -⟩ := (prepareUpload_inl hp).2 evs rfl hsup hT
    omega
  · rename_i T hp
    obtain ⟨-, rfl, hT0⟩ := prepareUpload_inr hp
    obtain ⟨r, hr, hfin⟩ := Option.bind_eq_some.mp h
    split_ifs at hfin with hf
    have hnil := Upload.finish_eq_nil (Option.some.inj hfin)
    have hevs : evs = uploadTrace r.2 := by
      rw [← Upload.finish_obs env replicate r.1 r.2, Option.some.inj hfin]; rfl
    subst hevs
    have hI := Upload.run_inv (Upload.start_inv F F.length _) hr
    have hsend : r.2.countP (·.2.isSend) = 0 := by rw [← hI.errChan, hnil]; rfl
    refine uploadedObject_eq (fun i hd off data hm => (hI.trace _ (mem_uploadTrace_task.mp hm)).2.2.1)
      fun o ho => ?_
    obtain ⟨i, hd, off, data, hw, h1, h2⟩ := hI.covers hf hsend (lengthPerThread_pos hN hT0)
      (le_mul_lengthPerThread _ _ hT0) ho
    exact ⟨i, hd, off, data, mem_uploadTrace_task.mpr hw, h1, h2⟩

/-- Upload then download gives back the original bytes, for the buffer transfers and for the
parallel ones, whatever the interleavings and the retries. -/
theorem upload_then_download_round_trip {F out buf file prior : List UInt8} {B B' : Nat}
    {replicate : Bool} {benv : BufferUploadEnv} {denv : BufferDownloadEnv} {ms : List Move}
    {codes : ErrorCodes} {getNumTasks getNumTasks' : Nat → Int} {connectionMaxNumber : Int}
    {taskNum taskNum' : Int} {env : UploadEnv} {serialErr : Option String} {denv' : DownloadEnv}
    {sched sched' : List (Nat × Move)} {evs : List UploadEvent} :
    (UploadDataObjectFromBuffer F replicate benv = .nil out →
      DownloadDataObjectToBuffer out B denv [] ms = some (.nil buf) → buf = F) ∧
    (0 < F.length → env.SupportParallelUpload = true →
      2 ≤ resolveUploadTasks getNumTasks F.length taskNum →
      UploadDataObjectParallel F B codes getNumTasks F.length taskNum replicate env serialErr sched =
        some (.nil evs) →
      uploadedObject evs = F ∧
      (DownloadDataObjectParallel (uploadedObject evs) B' getNumTasks' connectionMaxNumber F.length
        taskNum' denv' prior sched' = some (.nil file) → file = F)) := by
  refine ⟨fun hu hd => ?_, fun hN hsup hT hu => ?_⟩
  · have hout : out = F := by
      simp only [UploadDataObjectFromBuffer, ite_eq_iff, reduceCtorEq, and_false, false_or,
        Outcome.nil.injEq] at hu
      exact hu.2.2.2.2.2.symm
    obtain ⟨c, hr, he, rfl⟩ := DownloadDataObjectToBuffer_nil hd
    rw [Copy.run_eof hr he, hout, List.nil_append]
  · have hobj := UploadDataObjectParallel_uploadedObject hN hsup hT hu
    refine ⟨hobj, fun hd => ?_⟩
    rw [hobj] at hd
    rw [DownloadDataObjectParallel_file hN hd, Nat.min_eq_left, List.take_length]
    exact le_mul_lengthPerThread _ _ (DownloadDataObjectParallel_launched hN hd)

/-- Two bytes uploaded from a buffer and read back; and uploaded by two tasks, one byte each, then
downloaded by one task into a longer file. -/
theorem upload_then_download_round_trip_two_bytes :
    ∃ evs : List UploadEvent,
      UploadDataObjectParallel [1, 2] 65536 ⟨-808000, -817000, -814000⟩ (fun _ => 2) 2 2 false
        .cooperating none (uploadByteMoves 0 ++ uploadByteMoves 1) = some (.nil evs) ∧
      uploadedObject evs = [1, 2] ∧
      DownloadDataObjectParallel (uploadedObject evs) 65536 (fun _ => 1) 16 2 1 ⟨true, 1⟩ [7, 7, 7]
        (downloadRangeMoves false 0 0 2 .none) = some (.nil [1, 2]) ∧
      DownloadDataObjectToBuffer [1, 2] 2 ⟨true, true, true⟩ [] [.read 2 .eof, .ok] =
        some (.nil [1, 2]) := by
  obtain ⟨evs, hu, -⟩ := UploadDataObjectParallel_two_tasks_nil
  obtain ⟨buf, hd⟩ : ∃ buf, DownloadDataObjectToBuffer [1, 2] 2 ⟨true, true, true⟩ [] [.read 2 .eof, .ok] =
      some (.nil buf) := ⟨_, rfl⟩
  have t := @upload_then_download_round_trip [1, 2] [1, 2] buf [1, 2] [7, 7, 7] 2 65536 false
    ⟨true, true, true, true, true⟩ ⟨true, true, true⟩ [.read 2 .eof, .ok] ⟨-808000, -817000, -814000⟩
    (fun _ => 2) (fun _ => 1) 16 2 1 .cooperating none ⟨true, 1⟩ (uploadByteMoves 0 ++ uploadByteMoves 1)
    (downloadRangeMoves false 0 0 2 .none) evs
  obtain ⟨hobj, -⟩ := t.2 (by decide) rfl (by decide) hu
  refine ⟨evs, hu, hobj, by rw [hobj]; decide, ?_⟩
  rw [hd, t.1 rfl hd]

end IrodsClient
