import IrodsClient.LocalFile
import IrodsClient.Schedule

/-! The goroutine `uploadTask` of `UploadDataObjectParallel`, with its deferred calls. -/
namespace IrodsClient

/-- The iRODS error codes `CloseDataObjectReplica` tells apart (`common` is not under `src/`). -/
structure ErrorCodes where
  CAT_NO_ROWS_FOUND : Int
  CAT_UNKNOWN_FILE : Int
  CAT_UNKNOWN_COLLECTION : Int
  deriving DecidableEq, Repr

/-- `CloseDataObjectReplica`: the error it returns, from whether the connection is up, whether
the server supports parallel upload, and the error code of the close request. -/
def CloseDataObjectReplica (codes : ErrorCodes) (connected supportParallelUpload : Bool)
    (code : Option Int) : Option String :=
  if ¬connected then some "connection is nil or disconnected"
  else if ¬supportParallelUpload then some "does not support close replica in current iRODS Version"
  else match code with
    | none => none
    | some c =>
      if c = codes.CAT_NO_ROWS_FOUND ∨ c = codes.CAT_UNKNOWN_FILE then
        some "failed to find the data object for path %q: %w"
      else if c = codes.CAT_UNKNOWN_COLLECTION then
        some "failed to find the collection for path %q: %w"
      else some "failed to close data object replica: %w"

/-- A handle on the object being uploaded: the one `OpenDataObjectForPutParallel` opened, or
the one task `i` opened with the replica token. -/
inductive Handle
  | primary
  | replica (i : Nat)
  deriving DecidableEq, Repr

/-- Where an upload task is; `unwind d` runs the `d` deferred calls registered so far, the last first,
and `send err d` sends `err` and then returns. -/
inductive UploadPc
  | acquire
  | checkConn
  | openReplica
  | openLocal
  | seek
  | copy
  | write (buf : List UInt8) (err : ReadErr)
  | count (n : Nat) (err : ReadErr)
  | callback (n : Nat) (err : ReadErr)
  | send (err : String) (defers : Nat)
  | unwind (defers : Nat)
  | exited
  deriving DecidableEq, Repr

/-- The task waits to send on `errChan`. -/
def UploadPc.sending : UploadPc → Bool
  | .send _ _ => true
  | _ => false

/-- What a step of an upload task does outside the task. Task `i` works on the connection `i`
and the handle `.replica i`. -/
inductive UploadEffect
  | none
  | openReplica (conn : Nat) (h : Handle)
  | write (h : Handle) (off : Nat) (data : List UInt8)
  | add (n : Nat)
  | send (err : String)
  | closeReplica (conn : Nat) (h : Handle)
  | discard (conn : Nat)
  | done
  deriving DecidableEq, Repr

namespace UploadEffect

/-- The effect opens a replica handle. -/
@[simp] def isOpen : UploadEffect → Bool
  | .openReplica .. => true
  | .none | .write .. | .add _ | .send _ | .closeReplica .. | .discard _ | .done => false

/-- The effect closes a replica handle. -/
@[simp] def isClose : UploadEffect → Bool
  | .closeReplica .. => true
  | .none | .openReplica .. | .write .. | .add _ | .send _ | .discard _ | .done => false

/-- The effect is a send to `errChan`. -/
@[simp] def isSend : UploadEffect → Bool
  | .send _ => true
  | .none | .openReplica .. | .write .. | .add _ | .closeReplica .. | .discard _ | .done => false

/-- The connection and the handles in the effect are task `i`'s own. -/
def Owned (i : Nat) : UploadEffect → Prop
  | .openReplica c h | .closeReplica c h => c = i ∧ h = .replica i
  | .write h _ _ => h = .replica i
  | .discard c => c = i
  | _ => True

/-- A write puts the bytes of `F` at their own offsets inside `[lo, hi)`. -/
def WriteIn (F : List UInt8) (lo hi : Nat) : UploadEffect → Prop
  | .write _ off data => data = chunk F off data.length ∧ lo ≤ off ∧ off + data.length ≤ hi
  | _ => True

end UploadEffect

/-- An `uploadTask(taskOffset, taskLength)` goroutine, `taskID` being its place in the launch
loop; `pos` is the offset of its replica handle. -/
structure UploadTask where
  taskID : Nat
  taskOffset : Nat
  taskLength : Nat
  taskRemain : Nat
  pos : Nat
  pc : UploadPc
  deriving DecidableEq, Repr

namespace UploadTask

/-- `taskOffset+(taskLength-taskRemain)`, where the next `ReadAt` reads the local file. -/
def readOffset (t : UploadTask) : Nat := t.taskOffset + (t.taskLength - t.taskRemain)

@[simp] theorem readOffset_pc (t : UploadTask) (pc : UploadPc) :
    ({ t with pc := pc } : UploadTask).readOffset = t.readOffset := rfl

@[simp] theorem readOffset_pos_pc (t : UploadTask) (p : Nat) (pc : UploadPc) :
    ({ t with pos := p, pc := pc } : UploadTask).readOffset = t.readOffset := rfl

/-- The end of the loop body after `f.ReadAt` returned `err`: loop again, `break` at `io.EOF`,
or `break` with `taskWriteErr` set. -/
def afterReadAt : ReadErr → UploadPc
  | .none => .copy
  | .eof => .unwind 3
  | .fail => .send "failed to read file %q: %w" 3

/-- One step of an upload task reading the local file `F` with buffers of `B` bytes. Errors of
calls outside `src/` are named by the call. -/
def step (F : List UInt8) (B : Nat) (codes : ErrorCodes) (t : UploadTask) :
    Move → Option (UploadTask × UploadEffect)
  | m => match t.pc, m with
    | .acquire, .ok => some ({ t with pc := .checkConn }, .none)
    | .acquire, .fail => some ({ t with pc := .send "failed to get connection: %w" 0 }, .none)
    | .checkConn, .ok => some ({ t with pc := .openReplica }, .none)
    | .checkConn, .fail => some ({ t with pc := .send "connection is nil or disconnected" 1 }, .none)
    | .openReplica, .ok => some ({ t with pc := .openLocal }, .openReplica t.taskID (.replica t.taskID))
    | .openReplica, .fail => some ({ t with pc := .send "OpenDataObjectWithReplicaToken" 1 }, .none)
    | .openLocal, .ok => some ({ t with pc := .seek }, .none)
    | .openLocal, .fail => some ({ t with pc := .send "failed to open file %q: %w" 2 }, .none)
    | .seek, .seekTo v =>
      some ({ t with pos := v, pc := (if v = t.taskOffset then .copy
        else .send "failed to seek to target offset %d" 3) }, .none)
    | .seek, .fail => some ({ t with pc := .send "SeekDataObject" 3 }, .none)
    | .copy, .ok => if t.taskRemain = 0 then some ({ t with pc := .unwind 3 }, .none) else none
    | .copy, .read k err =>
      if 0 < t.taskRemain ∧ k ≤ bufferLen B t.taskRemain ∧ (err = .eof → F.length ≤ t.readOffset + k)
      then
        let buf := chunk F t.readOffset k
        some ({ t with pc := if buf = [] then afterReadAt err else .write buf err }, .none)
      else none
    | .write buf err, .ok =>
      some ({ t with pos := t.pos + buf.length, pc := .count buf.length err },
        .write (.replica t.taskID) t.pos buf)
    | .write buf _, .writeFail j =>
      some ({ t with pc := .send "WriteDataObjectWithTrackerCallBack" 3 },
        .write (.replica t.taskID) t.pos (buf.take j))
    | .count n err, .ok => some ({ t with pc := .callback n err }, .add n)
    | .callback n err, .ok => some ({ t with taskRemain := t.taskRemain - n, pc := afterReadAt err }, .none)
    | .send err d, .ok => some ({ t with pc := .unwind d }, .send err)
    | .unwind 3, .ok => some ({ t with pc := .unwind 2 }, .none)
    | .unwind 2, .closeReply c s code =>
      some ({ t with pc := match CloseDataObjectReplica codes c s code with
        | none => .unwind 1
        | some errClose => .send errClose 1 }, .closeReplica t.taskID (.replica t.taskID))
    | .unwind 1, .ok => some ({ t with pc := .unwind 0 }, .discard t.taskID)
    | .unwind 0, .ok => some ({ t with pc := .exited }, .done)
    | _, _ => none

theorem step_of_exited {F : List UInt8} {B : Nat} {codes : ErrorCodes} {t : UploadTask}
    (h : t.pc = .exited) (m : Move) : t.step F B codes m = none := by
  unfold step
  rw [h]

theorem step_of_send {F : List UInt8} {B : Nat} {codes : ErrorCodes} {t t' : UploadTask}
    {err : String} {d : Nat} {m : Move} {e : UploadEffect} (h : t.pc = .send err d)
    (hs : t.step F B codes m = some (t', e)) : e = .send err := by
  unfold step at hs
  rw [h] at hs
  cases m <;> dsimp only at hs <;> cases hs
  rfl

end UploadTask

namespace UploadTask

/-- Every offset of `[a, b)` inside `F` lies in one of the writes among `own`. -/
def Covered (F : List UInt8) (own : List UploadEffect) (a b : Nat) : Prop :=
  ∀ o, a ≤ o → o < b → o < F.length →
    ∃ h off data, UploadEffect.write h off data ∈ own ∧ off ≤ o ∧ o < off + data.length

/-- What the deferred calls still to run say of the task's replica close and discard. -/
def DeferInv (i d : Nat) (own : List UploadEffect) : Prop :=
  if 2 ≤ d then d ≤ 3 ∧ own.countP UploadEffect.isOpen = 1 ∧ own.countP UploadEffect.isClose = 0
  else own.countP UploadEffect.isClose = own.countP UploadEffect.isOpen ∧
    own.countP UploadEffect.isOpen ≤ 1 ∧
    (d = 0 → own.countP UploadEffect.isOpen = 1 →
      List.Sublist [UploadEffect.closeReplica i (.replica i), .discard i] own)

/-- What the task's point says: nothing read before the loop, and writes covering its range so far. -/
def PcInv (F : List UInt8) (t : UploadTask) (own : List UploadEffect) : Prop :=
  match t.pc with
  | .acquire | .checkConn | .openReplica =>
    t.taskRemain = t.taskLength ∧ own.countP UploadEffect.isOpen = 0 ∧
      own.countP UploadEffect.isClose = 0
  | .openLocal | .seek =>
    t.taskRemain = t.taskLength ∧ own.countP UploadEffect.isOpen = 1 ∧
      own.countP UploadEffect.isClose = 0
  | .copy =>
    own.countP UploadEffect.isOpen = 1 ∧ own.countP UploadEffect.isClose = 0 ∧
      t.pos = t.readOffset ∧ Covered F own t.taskOffset t.readOffset
  | .write buf err =>
    own.countP UploadEffect.isOpen = 1 ∧ own.countP UploadEffect.isClose = 0 ∧
      t.pos = t.readOffset ∧ Covered F own t.taskOffset t.readOffset ∧
      buf = chunk F t.readOffset buf.length ∧ buf.length ≤ t.taskRemain ∧
      (err = .eof → F.length ≤ t.readOffset + buf.length)
  | .count n err | .callback n err =>
    own.countP UploadEffect.isOpen = 1 ∧ own.countP UploadEffect.isClose = 0 ∧
      n ≤ t.taskRemain ∧ t.pos = t.readOffset + n ∧ Covered F own t.taskOffset (t.readOffset + n) ∧
      (err = .eof → F.length ≤ t.readOffset + n)
  | .send _ d => DeferInv t.taskID d own
  | .unwind d =>
    DeferInv t.taskID d own ∧
      (own.countP UploadEffect.isSend = 0 → Covered F own t.taskOffset (t.taskOffset + t.taskLength))
  | .exited =>
    DeferInv t.taskID 0 own ∧
      (own.countP UploadEffect.isSend = 0 → Covered F own t.taskOffset (t.taskOffset + t.taskLength))

/-- The invariant of an upload task reading `F`, whose effects so far are `own`. -/
structure Inv (F : List UInt8) (t : UploadTask) (own : List UploadEffect) : Prop where
  remain : t.taskRemain ≤ t.taskLength
  owned : ∀ e ∈ own, e.Owned t.taskID
  pc : t.PcInv F own

/-- What one step of a task keeps: its identity and range, its invariant, and effects on its
own connection and handles that write `F`'s bytes inside its range. -/
structure StepOk (F : List UInt8) (t t' : UploadTask) (own : List UploadEffect) (e : UploadEffect) :
    Prop where
  taskID : t'.taskID = t.taskID
  taskOffset : t'.taskOffset = t.taskOffset
  taskLength : t'.taskLength = t.taskLength
  inv : t'.Inv F (own ++ [e])
  owned : e.Owned t.taskID
  writeIn : e.WriteIn F t.taskOffset (t.taskOffset + t.taskLength)

theorem Covered.append {F : List UInt8} {own : List UploadEffect} {a b : Nat}
    (h : Covered F own a b) (l : List UploadEffect) : Covered F (own ++ l) a b := by
  intro o h1 h2 h3
  obtain ⟨hd, off, data, hm, hlo, hhi⟩ := h o h1 h2 h3
  exact ⟨hd, off, data, List.mem_append_left _ hm, hlo, hhi⟩

theorem Covered.mono {F : List UInt8} {own : List UploadEffect} {a b c : Nat}
    (h : Covered F own a b) (hcb : c ≤ b) : Covered F own a c :=
  fun o h1 h2 h3 => h o h1 (by omega) h3

theorem Covered.extend {F : List UInt8} {own : List UploadEffect} {a b : Nat}
    (hc : Covered F own a b) (hd : Handle) (data : List UInt8) :
    Covered F (own ++ [.write hd b data]) a (b + data.length) := by
  intro o h1 h2 h3
  by_cases hob : o < b
  · exact (hc.append _) o h1 hob h3
  · exact ⟨hd, b, data, by simp, by omega, h2⟩

theorem DeferInv.append {i d : Nat} {own : List UploadEffect} (h : DeferInv i d own)
    {e : UploadEffect} (ho : e.isOpen = false) (hc : e.isClose = false) : DeferInv i d (own ++ [e]) := by
  unfold DeferInv at *
  simp only [List.countP_append, List.countP_singleton, ho, hc, if_false, Nat.add_zero] at *
  split_ifs at * with hd
  · exact h
  · exact ⟨h.1, h.2.1, fun h0 h1 => (h.2.2 h0 h1).trans (List.sublist_append_left _ _)⟩

theorem close_mem {i : Nat} {own : List UploadEffect} (ho : ∀ e ∈ own, e.Owned i)
    (hc : own.countP UploadEffect.isClose = 1) : UploadEffect.closeReplica i (.replica i) ∈ own := by
  obtain ⟨e, he, hce⟩ := List.countP_pos_iff.mp (hc ▸ Nat.one_pos)
  cases e <;> simp at hce
  obtain ⟨rfl, rfl⟩ := ho _ he
  exact he

theorem stepOk_of {F : List UInt8} {t t' : UploadTask} {own : List UploadEffect} {e : UploadEffect}
    (hi : t.Inv F own) (hid : t'.taskID = t.taskID) (hoff : t'.taskOffset = t.taskOffset)
    (hlen : t'.taskLength = t.taskLength) (hr : t'.taskRemain ≤ t'.taskLength)
    (hp : t'.PcInv F (own ++ [e])) (he : e.Owned t.taskID)
    (hw : e.WriteIn F t.taskOffset (t.taskOffset + t.taskLength)) : StepOk F t t' own e := by
  refine ⟨hid, hoff, hlen, ⟨hr, fun x hx => hid ▸ ?_, hp⟩, he, hw⟩
  rcases List.mem_append.mp hx with hx | hx
  · exact hi.owned x hx
  · rw [List.mem_singleton.mp hx]; exact he

theorem stepOk_goto {F : List UInt8} {t : UploadTask} {own : List UploadEffect} {e : UploadEffect}
    (hi : t.Inv F own) {pos : Nat} {pc : UploadPc}
    (hp : PcInv F { t with pos := pos, pc := pc } (own ++ [e])) (he : e.Owned t.taskID)
    (hw : e.WriteIn F t.taskOffset (t.taskOffset + t.taskLength)) :
    StepOk F t { t with pos := pos, pc := pc } own e :=
  stepOk_of hi rfl rfl rfl hi.remain hp he hw

theorem step_ok {F : List UInt8} {B : Nat} {codes : ErrorCodes} {t t' : UploadTask} {m : Move}
    {e : UploadEffect} {own : List UploadEffect} (h : t.step F B codes m = some (t', e))
    (hi : t.Inv F own) : StepOk F t t' own e := by
  have hi' := hi
  obtain ⟨hr, ho, hp⟩ := hi
  unfold step at h
  generalize hpc : t.pc = pc at h
  cases pc
  case unwind d =>
    simp only [PcInv, hpc] at hp
    obtain ⟨hd, hcov⟩ := hp
    rcases d with _ | _ | _ | _ | d <;> cases m <;> dsimp only at h <;> cases h
    · -- `taskWaitGroup.Done()`
      refine stepOk_goto hi' ⟨hd.append rfl rfl, fun hs => (hcov ?_).append _⟩ trivial trivial
      simpa [List.countP_singleton] using hs
    · -- `DiscardConnection(taskConn)`, after the replica close if there was one
      refine stepOk_goto hi' ⟨?_, fun hs => (hcov ?_).append _⟩ rfl trivial
      · simp only [DeferInv] at hd ⊢
        simp only [List.countP_append, List.countP_singleton, UploadEffect.isOpen,
          UploadEffect.isClose, Bool.false_eq_true, if_false, Nat.add_zero] at hd ⊢
        refine ⟨hd.1, hd.2.1, fun _ h1 => ?_⟩
        exact (List.singleton_sublist.mpr (close_mem ho (hd.1.trans h1))).append (List.Sublist.refl _)
      · simpa [List.countP_singleton] using hs
    · -- the deferred `CloseDataObjectReplica(taskConn, taskHandle)`
      rename_i c sp code
      have hd' : DeferInv t.taskID 1 (own ++ [.closeReplica t.taskID (.replica t.taskID)]) := by
        simp [DeferInv, List.countP_singleton, -List.countP_eq_zero] at hd ⊢
        omega
      refine stepOk_goto hi' ?_ ⟨rfl, rfl⟩ trivial
      cases CloseDataObjectReplica codes c sp code
      · exact ⟨hd', fun hs => (hcov (by simpa [List.countP_singleton] using hs)).append _⟩
      · exact hd'
    · -- `f.Close()`
      refine stepOk_goto hi' ⟨?_, fun hs => (hcov ?_).append _⟩ trivial trivial
      · simp [DeferInv, List.countP_singleton, -List.countP_eq_zero] at hd ⊢; exact hd
      · simpa [List.countP_singleton] using hs
  all_goals simp only [PcInv, hpc] at hp
  all_goals cases m <;>
    simp only [Option.ite_none_right_eq_some, Option.some.injEq, Prod.mk.injEq, reduceCtorEq] at h
  case seek.seekTo v =>
    obtain ⟨rfl, rfl⟩ := h
    obtain ⟨hrem, hop, hcl⟩ := hp
    refine stepOk_goto hi' ?_ trivial trivial
    split_ifs with hv
    · refine ⟨by simpa [List.countP_singleton] using hop, by simpa [List.countP_singleton] using hcl,
        by simp [readOffset, hv, hrem], fun o h1 h2 _ => ?_⟩
      simp only [readOffset, hrem, Nat.sub_self, Nat.add_zero] at h1 h2; omega
    · simp [PcInv, DeferInv, List.countP_singleton, -List.countP_eq_zero]; exact ⟨hop, hcl⟩
  case copy.ok =>
    obtain ⟨h0, rfl, rfl⟩ := h
    obtain ⟨hop, hcl, -, hcov⟩ := hp
    refine stepOk_goto hi' ⟨?_, fun _ => ?_⟩ trivial trivial
    · simp [DeferInv, List.countP_singleton, -List.countP_eq_zero]; exact ⟨hop, hcl⟩
    · simpa [readOffset, h0] using hcov.append [UploadEffect.none]
  case copy.read k err =>
    obtain ⟨⟨-, hk, heof⟩, rfl, rfl⟩ := h
    obtain ⟨hop, hcl, hpos, hcov⟩ := hp
    have hb := bufferLen_le B t.taskRemain
    have hopcl : (own ++ [UploadEffect.none]).countP UploadEffect.isOpen = 1 ∧
        (own ++ [UploadEffect.none]).countP UploadEffect.isClose = 0 := by
      simp [List.countP_singleton, -List.countP_eq_zero]; exact ⟨hop, hcl⟩
    refine stepOk_goto hi' ?_ trivial trivial
    split_ifs with h0
    · have hN : err = .eof → F.length ≤ t.readOffset := fun he => by
        have h0' := congrArg List.length h0
        simp only [length_chunk, List.length_nil] at h0'
        have := heof he; omega
      cases err
      · exact ⟨hopcl.1, hopcl.2, hpos, hcov.append _⟩
      · exact ⟨by simp [DeferInv, hopcl], fun _ o h1 _ h3 => hcov.append _ o h1 (by have := hN rfl; omega) h3⟩
      · simp [PcInv, afterReadAt, DeferInv, hopcl]
    · have hne : 0 < (chunk F t.readOffset k).length := List.length_pos.mpr h0
      simp only [length_chunk] at hne
      refine ⟨hopcl.1, hopcl.2, hpos, hcov.append _, chunk_eq_chunk_length F _ k, ?_, fun he => ?_⟩
      · simp; omega
      · have := heof he; simp; omega
  case write.ok buf err =>
    obtain ⟨rfl, rfl⟩ := h
    obtain ⟨hop, hcl, hpos, hcov, hbuf, hlen, heof⟩ := hp
    refine stepOk_goto hi' ⟨?_, ?_, hlen, by simp [hpos], ?_, by simpa using heof⟩ rfl ⟨?_, ?_, ?_⟩
    · simpa [List.countP_singleton] using hop
    · simpa [List.countP_singleton] using hcl
    · rw [hpos]; exact hcov.extend _ _
    · rw [hpos]; exact hbuf
    · rw [hpos]; simp [readOffset]
    · rw [hpos]; simp only [readOffset]; omega
  case write.writeFail buf err j =>
    obtain ⟨rfl, rfl⟩ := h
    obtain ⟨hop, hcl, hpos, -, hbuf, hlen, -⟩ := hp
    have hdata : buf.take j = chunk F t.pos (min j buf.length) := by
      rw [hbuf, take_chunk, ← hbuf, hpos]
    refine stepOk_goto hi' ?_ rfl ⟨?_, ?_, ?_⟩
    · simp [PcInv, DeferInv, List.countP_singleton, -List.countP_eq_zero]; exact ⟨hop, hcl⟩
    · rw [hdata]; exact chunk_eq_chunk_length F _ _
    · rw [hpos]; simp [readOffset]
    · rw [List.length_take, hpos]; simp only [readOffset]; omega
  case count.ok n err =>
    obtain ⟨rfl, rfl⟩ := h
    obtain ⟨hop, hcl, hn, hpos, hcov, heof⟩ := hp
    refine @stepOk_goto _ _ _ _ hi' t.pos _ ⟨?_, ?_, hn, hpos, hcov.append _, heof⟩ trivial trivial
    · simpa [List.countP_singleton] using hop
    · simpa [List.countP_singleton] using hcl
  case callback.ok n err =>
    obtain ⟨rfl, rfl⟩ := h
    obtain ⟨hop, hcl, hn, hpos, hcov, heof⟩ := hp
    have hro : ({ t with taskRemain := t.taskRemain - n, pc := afterReadAt err } : UploadTask).readOffset =
        t.readOffset + n := by simp only [readOffset]; omega
    have hopcl : (own ++ [UploadEffect.none]).countP UploadEffect.isOpen = 1 ∧
        (own ++ [UploadEffect.none]).countP UploadEffect.isClose = 0 := by
      simp [List.countP_singleton, -List.countP_eq_zero]; exact ⟨hop, hcl⟩
    refine stepOk_of hi' rfl rfl rfl (by simp; omega) ?_ trivial trivial
    cases err
    · exact ⟨hopcl.1, hopcl.2, hro ▸ hpos, hro ▸ hcov.append _⟩
    · exact ⟨by simp [DeferInv, hopcl], fun _ o h1 _ h3 => hcov.append _ o h1 (by have := heof rfl; omega) h3⟩
    · simp [PcInv, afterReadAt, DeferInv, hopcl]
  case send.ok err d =>
    obtain ⟨rfl, rfl⟩ := h
    refine stepOk_goto hi' ⟨hp.append rfl rfl, fun hs => ?_⟩ trivial trivial
    simp [List.countP_singleton] at hs
  all_goals
    obtain ⟨rfl, rfl⟩ := h
    refine stepOk_goto hi' ?_ (by simp [UploadEffect.Owned]) trivial
    simp [PcInv, DeferInv, List.countP_singleton, -List.countP_eq_zero] at hp ⊢
    simp [hp]

end UploadTask

end IrodsClient
