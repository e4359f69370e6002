import IrodsClient.LocalFile
import IrodsClient.Schedule

/-! The worker `downloadTask` of both parallel downloads, one step per action of its code that
another goroutine or the environment can observe. -/
namespace IrodsClient

/-- A resume journal entry, `DataObjectTransferStatusEntry`. -/
structure DataObjectTransferStatusEntry where
  StartOffset : Nat
  Length : Nat
  CompletedLength : Nat
  deriving DecidableEq, Repr

/-- Where a download task stands in its code. -/
inductive DownloadPc
  /-- `if taskConn == nil || !taskConn.IsConnected()` -/
  | start
  /-- `os.OpenFile(localPath, os.O_WRONLY, 0)` -/
  | openLocal
  /-- the resumable worker's `atomic.AddInt64` of its journaled prefix -/
  | seed
  /-- `OpenDataObject` at the head of `trial` -/
  | trial
  /-- `SeekDataObject` to `lastOffset` -/
  | seekRemote
  /-- `f.Seek(lastOffset, io.SeekStart)` and the comparison of the two offsets -/
  | seekLocal
  /-- the head of `for taskRemain > 0` and its read -/
  | copy
  /-- `f.WriteAt` of the bytes `buf` just read, which came with `readErr` -/
  | write (buf : List UInt8) (readErr : ReadErr)
  /-- `atomic.AddInt64(&totalBytesDownloaded, int64(bytesRead))` -/
  | count (n : Nat) (readErr : ReadErr)
  /-- `transferStatusLocal.WriteStatus` of the resumable worker -/
  | status (n : Nat) (readErr : ReadErr)
  /-- `callback(totalBytesDownloaded, fileLength)`, then `taskRemain -= int64(bytesRead)` -/
  | callback (n : Nat) (readErr : ReadErr)
  /-- `if len(errChan) > 0` -/
  | checkChan
  /-- `trial` returned `err`; `taskConn.IsSocketFailed()` decides -/
  | failed (err : String)
  /-- `session.AcquireConnection()` after a socket failure -/
  | reacquire
  /-- the check of the newly acquired connection -/
  | recheck
  /-- `errChan <- err` -/
  | report (err : String)
  /-- returned after a `trial` that returned nil -/
  | done
  /-- returned after its send -/
  | exited
  deriving DecidableEq, Repr

/-- What a step of a download task does to the state the tasks share. -/
inductive DownloadEffect
  | none
  | writeAt (off : Nat) (data : List UInt8)
  | add (n : Nat)
  | writeStatus (e : DataObjectTransferStatusEntry)
  | send (err : String)
  deriving DecidableEq, Repr

/-- Whether an effect is a send to `errChan`. -/
def DownloadEffect.isSend : DownloadEffect → Bool
  | .send _ => true
  | _ => false

/-- The variables of one `downloadTask` goroutine. -/
structure DownloadTask where
  taskID : Nat
  taskOffset : Nat
  taskLength : Nat
  taskRemain : Nat
  lastOffset : Nat
  /-- the read position of the remote handle the current trial opened -/
  pos : Nat
  pc : DownloadPc
  deriving DecidableEq, Repr

namespace DownloadTask

/-- Where the copy loop goes after a read's bytes are handled: on to the channel check, to a
nil return at `io.EOF`, or to an error return of `trial`. -/
def afterRead : ReadErr → DownloadPc
  | .none => .checkChan
  | .eof => .done
  | .fail => .failed "failed to read from data object %q: %w"

/-- `taskRemain -= int64(bytesRead); lastOffset += int64(bytesRead)`. -/
def advance (t : DownloadTask) (n : Nat) (readErr : ReadErr) : DownloadTask :=
  { t with taskRemain := t.taskRemain - n, lastOffset := t.lastOffset + n, pc := afterRead readErr }

/-- One step of a download task reading the object `S` with buffers of `B` bytes, when
`chan` errors wait in `errChan`. Errors of calls outside `src/` are named by the call. -/
def step (S : List UInt8) (B : Nat) (resumable : Bool) (chan : Nat) (t : DownloadTask) :
    Move → Option (DownloadTask × DownloadEffect)
  | m => match t.pc, m with
    | .start, .ok => some ({ t with pc := .openLocal }, .none)
    | .start, .fail => some ({ t with pc := .report "connection is nil or disconnected" }, .none)
    | .openLocal, .ok => some ({ t with pc := if resumable then .seed else .trial }, .none)
    | .openLocal, .fail => some ({ t with pc := .report "failed to open file %q: %w" }, .none)
    | .seed, .ok =>
      some ({ t with pc := .trial },
        if t.lastOffset - t.taskOffset > 0 then .add (t.lastOffset - t.taskOffset) else .none)
    | .trial, .ok =>
      some ({ t with pos := 0, pc := if t.lastOffset > 0 then .seekRemote else .copy }, .none)
    | .trial, .fail => some ({ t with pc := .failed "OpenDataObject" }, .none)
    | .seekRemote, .seekTo v => some ({ t with pos := v, pc := .seekLocal }, .none)
    | .seekRemote, .fail =>
      some ({ t with pc := .failed "failed to seek data object %q to offset %d: %w" }, .none)
    | .seekLocal, .ok =>
      some ({ t with pc := (if t.pos = t.lastOffset then .copy
        else .failed "failed to seek file and data object to target offset %d") }, .none)
    | .seekLocal, .fail => some ({ t with pc := .failed "failed to seek file %q to offset %d: %w" }, .none)
    | .copy, .ok => if t.taskRemain = 0 then some ({ t with pc := .done }, .none) else none
    | .copy, .read k err =>
      if 0 < t.taskRemain ∧ k ≤ bufferLen B t.taskRemain ∧ (err = .eof → S.length ≤ t.pos + k) then
        let buf := chunk S t.pos k
        some ({ t with pos := t.pos + buf.length,
                       pc := (if buf = [] then afterRead err else .write buf err) }, .none)
      else none
    | .write buf err, .ok =>
      some ({ t with pc := .count buf.length err },
        .writeAt (t.taskOffset + (t.taskLength - t.taskRemain)) buf)
    | .write buf _, .writeFail j =>
      some ({ t with pc := .failed "failed to write to file %q from task %d: %w" },
        .writeAt (t.taskOffset + (t.taskLength - t.taskRemain)) (buf.take j))
    | .count n err, .ok =>
      some ({ t with pc := if resumable then .status n err else .callback n err }, .add n)
    | .status n err, .ok =>
      some ({ t with pc := .callback n err },
        .writeStatus ⟨t.taskOffset, t.taskLength, (t.taskLength - t.taskRemain) + n⟩)
    | .callback n err, .ok => some (t.advance n err, .none)
    | .checkChan, .ok =>
      some ({ t with pc := (if chan > 0 then .failed "stop running as other tasks failed" else .copy) },
        .none)
    | .failed _, .ok => some ({ t with pc := .reacquire }, .none)
    | .failed err, .fail => some ({ t with pc := .report err }, .none)
    | .reacquire, .ok => some ({ t with pc := .recheck }, .none)
    | .reacquire, .fail => some ({ t with pc := .report "failed to get connection: %w" }, .none)
    | .recheck, .ok => some ({ t with pc := .trial }, .none)
    | .recheck, .fail => some ({ t with pc := .report "connection is nil or disconnected" }, .none)
    | .report err, .ok => some ({ t with pc := .exited }, .send err)
    | _, _ => none

/-- What the task's point in its code says: the handle reads where the next write goes, in `S`. -/
def PcInv (S f : List UInt8) (t : DownloadTask) : Prop :=
  match t.pc with
  | .copy | .checkChan => t.pos = t.lastOffset
  | .write buf err => buf = chunk S t.lastOffset buf.length ∧ buf ≠ [] ∧ buf.length ≤ t.taskRemain ∧
      t.pos = t.lastOffset + buf.length ∧ (err = .eof → S.length ≤ t.pos)
  | .count n err | .status n err | .callback n err => n ≤ t.taskRemain ∧ t.pos = t.lastOffset + n ∧
      Covers S f t.taskOffset t.pos ∧ (err = .eof → S.length ≤ t.pos)
  | .done => t.taskRemain = 0 ∨ S.length ≤ t.lastOffset
  | _ => True

/-- The invariant of a download task: `lastOffset = taskOffset + (taskLength - taskRemain)`,
the local file holds `S` on `[taskOffset, lastOffset)`, and `PcInv`. -/
def Inv (S f : List UInt8) (t : DownloadTask) : Prop :=
  t.taskOffset ≤ t.lastOffset ∧ t.lastOffset + t.taskRemain = t.taskOffset + t.taskLength ∧
    Covers S f t.taskOffset t.lastOffset ∧ t.PcInv S f

end DownloadTask

/-- The local file after an effect. -/
def DownloadEffect.onFile : DownloadEffect → List UInt8 → List UInt8
  | .writeAt off data, f => IrodsClient.writeAt f off data
  | _, f => f

namespace DownloadTask

/-- One step keeps the task's range and invariant, writes chunks of `S` inside the range, journals
held prefixes, and leaves only by a send or a nil return. -/
structure StepOk (S f : List UInt8) (t t' : DownloadTask) (e : DownloadEffect) : Prop where
  taskID : t'.taskID = t.taskID
  taskOffset : t'.taskOffset = t.taskOffset
  taskLength : t'.taskLength = t.taskLength
  inv : t'.Inv S (e.onFile f)
  writeAt : ∀ off data, e = .writeAt off data →
    ∃ k, data = chunk S off k ∧ t.taskOffset ≤ off ∧ off + k ≤ t.taskOffset + t.taskLength
  writeStatus : ∀ en, e = .writeStatus en → en.StartOffset = t.taskOffset ∧
    en.Length = t.taskLength ∧ en.CompletedLength ≤ t.taskLength ∧
    Covers S f en.StartOffset (en.StartOffset + en.CompletedLength)
  exited : t'.pc = .exited ↔ e.isSend

/-- A task's invariant survives a write of a chunk of `S` by any task. -/
theorem Inv.writeAt_chunk {S f : List UInt8} {t : DownloadTask} (h : t.Inv S f) (off k : Nat) :
    t.Inv S (writeAt f off (chunk S off k)) := by
  obtain ⟨ho, hl, hc, hp⟩ := h
  refine ⟨ho, hl, hc.writeAt_chunk off k, ?_⟩
  cases hpc : t.pc <;> simp only [PcInv, hpc] at hp ⊢
  case count | status | callback => exact ⟨hp.1, hp.2.1, hp.2.2.1.writeAt_chunk off k, hp.2.2.2⟩
  all_goals exact hp

theorem step_of_done_or_exited {S : List UInt8} {B : Nat} {r : Bool} {chan : Nat} {t : DownloadTask}
    (h : t.pc = .done ∨ t.pc = .exited) (m : Move) : t.step S B r chan m = none := by
  unfold step
  rcases h with h | h <;> rw [h]

theorem stepOk_goto {S f : List UInt8} {t : DownloadTask} (hi : t.Inv S f) {q : Nat}
    {p : DownloadPc} {e : DownloadEffect} (hp : PcInv S f { t with pos := q, pc := p })
    (hx : p ≠ .exited) (he : e = .none ∨ ∃ n, e = .add n) :
    StepOk S f t { t with pos := q, pc := p } e where
  taskID := rfl
  taskOffset := rfl
  taskLength := rfl
  inv := by rcases he with rfl | ⟨n, rfl⟩ <;> exact ⟨hi.1, hi.2.1, hi.2.2.1, hp⟩
  writeAt := by rcases he with rfl | ⟨n, rfl⟩ <;> simp
  writeStatus := by rcases he with rfl | ⟨n, rfl⟩ <;> simp
  exited := by rcases he with rfl | ⟨n, rfl⟩ <;> simp [hx, DownloadEffect.isSend]

theorem advance_inv {S f : List UInt8} {t : DownloadTask} {n : Nat} {err : ReadErr}
    (ho : t.taskOffset ≤ t.lastOffset) (hl : t.lastOffset + t.taskRemain = t.taskOffset + t.taskLength)
    (hn : n ≤ t.taskRemain) (hpos : t.pos = t.lastOffset + n) (hc : Covers S f t.taskOffset t.pos)
    (he : err = .eof → S.length ≤ t.pos) : (t.advance n err).Inv S f := by
  refine ⟨by simp [advance]; omega, by simp [advance]; omega, by simpa [advance, ← hpos] using hc, ?_⟩
  cases err with
  | none => simp [advance, afterRead, PcInv]; omega
  | eof => have := he rfl; simp [advance, afterRead, PcInv]; omega
  | fail => simp [advance, afterRead, PcInv]

theorem step_ok {S f : List UInt8} {B : Nat} {r : Bool} {chan : Nat} {t t' : DownloadTask}
    {m : Move} {e : DownloadEffect} (h : t.step S B r chan m = some (t', e)) (hi : t.Inv S f) :
    StepOk S f t t' e := by
  have hi' := hi
  obtain ⟨ho, hl, hc, hp⟩ := hi
  have hlast : t.taskOffset + (t.taskLength - t.taskRemain) = t.lastOffset := by omega
  unfold step at h
  generalize hpc : t.pc = pc at h
  cases pc <;> cases m <;>
    simp only [Option.ite_none_right_eq_some, Option.some.injEq, Prod.mk.injEq, reduceCtorEq] at h
  case openLocal.ok =>
    obtain ⟨rfl, rfl⟩ := h
    exact stepOk_goto (q := t.pos) hi' (by cases r <;> simp [PcInv]) (by cases r <;> simp) (.inl rfl)
  case seekRemote.seekTo v =>
    obtain ⟨rfl, rfl⟩ := h
    exact stepOk_goto hi' (by simp [PcInv]) (by simp) (.inl rfl)
  case seed.ok =>
    obtain ⟨rfl, rfl⟩ := h
    exact stepOk_goto hi' (by simp [PcInv]) (by simp) (by split_ifs <;> simp)
  case trial.ok =>
    obtain ⟨rfl, rfl⟩ := h
    refine stepOk_goto hi' ?_ (by split_ifs <;> simp) (.inl rfl)
    split_ifs <;> simp [PcInv]; omega
  case seekLocal.ok =>
    obtain ⟨rfl, rfl⟩ := h
    refine stepOk_goto (q := t.pos) hi' ?_ (by split_ifs <;> simp) (.inl rfl)
    split_ifs <;> simp_all [PcInv]
  case copy.ok =>
    obtain ⟨hr, rfl, rfl⟩ := h
    exact stepOk_goto (q := t.pos) hi' (by simp [PcInv, hr]) (by simp) (.inl rfl)
  case copy.read k err =>
    obtain ⟨⟨hr, hk, heof⟩, rfl, rfl⟩ := h
    simp only [hpc, PcInv] at hp
    have hb := bufferLen_le B t.taskRemain
    refine stepOk_goto hi' ?_ (by split_ifs <;> cases err <;> simp [afterRead]) (.inl rfl)
    split_ifs with h0
    · have h0' := congrArg List.length h0
      simp only [length_chunk, List.length_nil] at h0'
      cases err with
      | none => simp [PcInv, afterRead]; omega
      | eof => have := heof rfl; simp [PcInv, afterRead]; omega
      | fail => simp [PcInv, afterRead]
    · have hne : 0 < (chunk S t.pos k).length := List.length_pos.mpr h0
      simp only [length_chunk] at hne
      refine ⟨?_, h0, ?_, ?_, fun he => ?_⟩
      · rw [hp]; exact chunk_eq_chunk_length S _ k
      · simp; omega
      · simp; omega
      · have := heof he; simp; omega
  case write.ok buf err =>
    obtain ⟨rfl, rfl⟩ := h
    simp only [hpc, PcInv] at hp
    obtain ⟨hbuf, hne, hlen, hpos, heof⟩ := hp
    rw [hlast]
    refine ⟨rfl, rfl, rfl, ⟨ho, hl, ?_, ?_⟩, ?_, by simp, by simp [DownloadEffect.isSend]⟩
    · rw [DownloadEffect.onFile, hbuf]; exact hc.writeAt_chunk _ _
    · refine ⟨hlen, hpos, ?_, heof⟩
      rw [DownloadEffect.onFile, hbuf, hpos]; exact hc.extend _
    · rintro off data ⟨rfl, rfl⟩
      exact ⟨buf.length, hbuf, ho, by omega⟩
  case write.writeFail buf err j =>
    obtain ⟨rfl, rfl⟩ := h
    simp only [hpc, PcInv] at hp
    obtain ⟨hbuf, hne, hlen, hpos, heof⟩ := hp
    rw [hlast]
    have hdata : buf.take j = chunk S t.lastOffset (min j buf.length) := by
      rw [hbuf, take_chunk, ← hbuf]
    refine ⟨rfl, rfl, rfl, ⟨ho, hl, ?_, by simp [PcInv]⟩, ?_, by simp, by simp [DownloadEffect.isSend]⟩
    · rw [DownloadEffect.onFile, hdata]; exact hc.writeAt_chunk _ _
    · rintro off data ⟨rfl, rfl⟩
      exact ⟨min j buf.length, hdata, ho, by omega⟩
  case count.ok n err =>
    obtain ⟨rfl, rfl⟩ := h
    simp only [hpc, PcInv] at hp
    exact stepOk_goto (q := t.pos) hi' (by cases r <;> exact hp) (by cases r <;> simp) (.inr ⟨n, rfl⟩)
  case status.ok n err =>
    obtain ⟨rfl, rfl⟩ := h
    simp only [hpc, PcInv] at hp
    obtain ⟨hn, hpos, hcp, heof⟩ := hp
    refine ⟨rfl, rfl, rfl, ⟨ho, hl, hc, hn, hpos, hcp, heof⟩, by simp, ?_, by simp [DownloadEffect.isSend]⟩
    rintro en ⟨rfl⟩
    refine ⟨rfl, rfl, show t.taskLength - t.taskRemain + n ≤ t.taskLength by omega, ?_⟩
    have e : t.taskOffset + (t.taskLength - t.taskRemain + n) = t.pos := by omega
    rw [e]; exact hcp
  case callback.ok n err =>
    obtain ⟨rfl, rfl⟩ := h
    simp only [hpc, PcInv] at hp
    obtain ⟨hn, hpos, hcp, heof⟩ := hp
    exact ⟨rfl, rfl, rfl, advance_inv ho hl hn hpos hcp heof, by simp, by simp,
      by cases err <;> simp [advance, afterRead, DownloadEffect.isSend]⟩
  case checkChan.ok =>
    obtain ⟨rfl, rfl⟩ := h
    simp only [hpc, PcInv] at hp
    refine stepOk_goto (q := t.pos) hi' ?_ (by split_ifs <;> simp) (.inl rfl)
    split_ifs <;> simp [PcInv, hp]
  case report.ok err =>
    obtain ⟨rfl, rfl⟩ := h
    exact ⟨rfl, rfl, rfl, ⟨ho, hl, hc, by simp [PcInv]⟩, by simp, by simp, by simp [DownloadEffect.isSend]⟩
  all_goals
    obtain ⟨rfl, rfl⟩ := h
    exact stepOk_goto (q := t.pos) hi' (by simp [PcInv]) (by simp) (.inl rfl)

end DownloadTask

end IrodsClient
