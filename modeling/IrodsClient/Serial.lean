import IrodsClient.LocalFile
import IrodsClient.Schedule

/-! The serial transfers `UploadDataObject` and `DownloadDataObjectToBuffer` and their copy loop. -/
namespace IrodsClient

/-- How the copy loop was left: at `io.EOF`, at another read error, or at a failed write. -/
inductive CopyEnd
  | eof
  | readFail
  | writeFail
  deriving DecidableEq, Repr

/-- Where the copy loop stands: about to read, about to write the bytes `buf` of a read that
returned the error `err`, or out of the loop. -/
inductive CopyPc
  | read
  | write (buf : List UInt8) (err : ReadErr)
  | exited (e : CopyEnd)
  deriving DecidableEq, Repr

/-- The copy loop over a source: the offset up to which the source's bytes have been written,
the bytes written so far, and where the loop stands. -/
structure Copy where
  pos : Nat
  out : List UInt8
  pc : CopyPc
  deriving DecidableEq, Repr

namespace Copy

/-- `if readErr != nil { if readErr == io.EOF { break } ... }`, once the read's bytes are
written. -/
def afterRead : ReadErr → CopyPc
  | .none => .read
  | .eof => .exited .eof
  | .fail => .exited .readFail

/-- One move of the copy loop over `S` with a buffer of `B` bytes: a read of `k ≤ B` bytes with its
error, then the write of any bytes it read. -/
def step (S : List UInt8) (B : Nat) (writeCanFail : Bool) (c : Copy) (m : Move) : Option Copy :=
  match c.pc, m with
  | .read, .read k err =>
    if k ≤ B ∧ (err = .eof → S.length ≤ c.pos + k) then
      some { c with pc := if chunk S c.pos k = [] then afterRead err else .write (chunk S c.pos k) err }
    else none
  | .write buf err, .ok => some ⟨c.pos + buf.length, c.out ++ buf, afterRead err⟩
  | .write buf _, .fail =>
    if writeCanFail then some ⟨c.pos + buf.length, c.out ++ buf, .exited .writeFail⟩ else none
  | _, _ => none

/-- The copy loop under the moves `ms`, one at a time. -/
def run (S : List UInt8) (B : Nat) (writeCanFail : Bool) : Copy → List Move → Option Copy
  | c, [] => some c
  | c, m :: ms => (c.step S B writeCanFail m).bind fun c' => c'.run S B writeCanFail ms

/-- Along the copy loop the destination holds `prior` and the source up to `pos`, and the loop
leaves at `io.EOF` only with the whole source written. -/
def Inv (S prior : List UInt8) (c : Copy) : Prop :=
  c.out = prior ++ S.take c.pos ∧
  match c.pc with
  | .write buf err => buf = chunk S c.pos buf.length ∧ (err = .eof → S.length ≤ c.pos + buf.length)
  | .exited .eof => S.length ≤ c.pos
  | _ => True

theorem afterRead_inv {S prior out : List UInt8} {pos : Nat} {err : ReadErr}
    (hout : out = prior ++ S.take pos) (heof : err = .eof → S.length ≤ pos) :
    Inv S prior ⟨pos, out, afterRead err⟩ := by
  cases err <;> simp [Inv, afterRead, hout, heof]

theorem write_out {S prior out buf : List UInt8} {pos : Nat} (hout : out = prior ++ S.take pos)
    (hbuf : buf = chunk S pos buf.length) : out ++ buf = prior ++ S.take (pos + buf.length) := by
  rw [hout, List.take_add, List.append_assoc]
  exact congrArg (prior ++ ·) (congrArg (S.take pos ++ ·) hbuf)

theorem step_inv {S prior : List UInt8} {B : Nat} {w : Bool} {c c' : Copy} {m : Move}
    (h : c.step S B w m = some c') (hI : c.Inv S prior) : c'.Inv S prior := by
  obtain ⟨hout, hpc⟩ := hI
  unfold step at h
  generalize hp : c.pc = pc at h hpc
  cases pc <;> cases m <;> dsimp only at h hpc <;>
    simp only [Option.ite_none_right_eq_some, Option.some.injEq, reduceCtorEq] at h
  case read.read k err =>
    obtain ⟨⟨-, heof⟩, rfl⟩ := h
    have hlen := length_chunk S c.pos k
    split_ifs with hb
    · have : k = 0 ∨ S.length ≤ c.pos := by
        simpa [chunk, List.take_eq_nil_iff, List.drop_eq_nil_iff] using hb
      exact afterRead_inv hout fun he => by have := heof he; omega
    · exact ⟨hout, chunk_eq_chunk_length S c.pos k, fun he => by have := heof he; dsimp only; omega⟩
  case write.ok buf err =>
    cases h
    exact afterRead_inv (write_out hout hpc.1) hpc.2
  case write.fail buf err =>
    obtain ⟨-, rfl⟩ := h
    exact ⟨write_out hout hpc.1, trivial⟩

theorem run_inv {S prior : List UInt8} {B : Nat} {w : Bool} :
    ∀ {c c' : Copy} {ms : List Move}, c.run S B w ms = some c' → c.Inv S prior → c'.Inv S prior
  | _, _, [], h, hI => by cases h; exact hI
  | c, c', m :: ms, h, hI => by
    obtain ⟨c'', hs, hr⟩ := Option.bind_eq_some.mp h
    exact run_inv hr (step_inv hs hI)

/-- A copy loop started on a destination holding `prior` that leaves at `io.EOF` has appended
exactly the source. -/
theorem run_eof {S prior : List UInt8} {B : Nat} {w : Bool} {c : Copy} {ms : List Move}
    (h : run S B w ⟨0, prior, .read⟩ ms = some c) (he : c.pc = .exited .eof) :
    c.out = prior ++ S := by
  have hI : Copy.Inv S prior ⟨0, prior, .read⟩ := ⟨by simp, trivial⟩
  obtain ⟨hout, hpc⟩ := run_inv h hI
  rw [he] at hpc
  rw [hout, List.take_of_length_le hpc]

end Copy

/-- Which calls of `UploadDataObject` outside its copy loop succeed. -/
structure SerialUploadEnv where
  stat : Bool
  acquire : Bool
  connected : Bool
  openLocal : Bool
  create : Bool
  replicate : Bool
  deriving DecidableEq, Repr

/-- `UploadDataObject` of `F` through a buffer of `B` bytes under the moves `ms`: the outcome, with
the bytes it wrote in order; `none` when the loop does not end. -/
def UploadDataObject (F : List UInt8) (B : Nat) (replicate : Bool) (env : SerialUploadEnv)
    (ms : List Move) : Option (Outcome (List UInt8)) :=
  if ¬env.stat then some (.error "failed to stat file %q: %w" [])
  else if ¬env.acquire then some (.error "failed to get connection: %w" [])
  else if ¬env.connected then some (.error "connection is nil or disconnected" [])
  else if ¬env.openLocal then some (.error "failed to open file %q: %w" [])
  else if ¬env.create then some (.error "failed to open data object %q: %w" [])
  else (Copy.run F B true ⟨0, [], .read⟩ ms).bind fun c =>
    match c.pc with
    | .exited .eof =>
      if replicate ∧ ¬env.replicate then some (.error "ReplicateDataObject" c.out)
      else some (.nil c.out)
    | .exited .readFail => some (.error "failed to read file %q: %w" c.out)
    | .exited .writeFail => some (.error "WriteDataObjectWithTrackerCallBack" c.out)
    | _ => none

/-- What `DownloadDataObjectToBuffer` gets from outside its copy loop: whether
`AcquireConnection`, the connection check and `OpenDataObject` succeed. -/
structure BufferDownloadEnv where
  acquire : Bool
  connected : Bool
  openObject : Bool
  deriving DecidableEq, Repr

/-- `DownloadDataObjectToBuffer` of `S` into a buffer holding `prior` under the moves `ms`: the
outcome, with the buffer. `Write` on a `bytes.Buffer` never fails. -/
def DownloadDataObjectToBuffer (S : List UInt8) (B : Nat) (env : BufferDownloadEnv)
    (prior : List UInt8) (ms : List Move) : Option (Outcome (List UInt8)) :=
  if ¬env.acquire then some (.error "failed to get connection: %w" prior)
  else if ¬env.connected then some (.error "connection is nil or disconnected" prior)
  else if ¬env.openObject then some (.error "failed to open data object %q: %w" prior)
  else (Copy.run S B false ⟨0, prior, .read⟩ ms).bind fun c =>
    match c.pc with
    | .exited .eof => some (.nil c.out)
    | .exited .readFail => some (.error "failed to read data object %q: %w" c.out)
    | _ => none

theorem UploadDataObject_nil {F out : List UInt8} {B : Nat} {replicate : Bool}
    {env : SerialUploadEnv} {ms : List Move}
    (h : UploadDataObject F B replicate env ms = some (.nil out)) :
    ∃ c, Copy.run F B true ⟨0, [], .read⟩ ms = some c ∧ c.pc = .exited .eof ∧ c.out = out := by
  simp only [UploadDataObject, ite_eq_iff, Option.some.injEq, reduceCtorEq, and_false, false_or] at h
  obtain ⟨-, -, -, -, -, h⟩ := h
  obtain ⟨c, hr, hc⟩ := Option.bind_eq_some.mp h
  rcases hpc : c.pc with _ | _ | ⟨_ | _ | _⟩ <;> simp only [hpc] at hc <;> (try split_ifs at hc) <;>
    cases hc
  exact ⟨c, hr, hpc, rfl⟩

theorem DownloadDataObjectToBuffer_nil {S prior buf : List UInt8} {B : Nat}
    {env : BufferDownloadEnv} {ms : List Move}
    (h : DownloadDataObjectToBuffer S B env prior ms = some (.nil buf)) :
    ∃ c, Copy.run S B false ⟨0, prior, .read⟩ ms = some c ∧ c.pc = .exited .eof ∧ c.out = buf := by
  simp only [DownloadDataObjectToBuffer, ite_eq_iff, Option.some.injEq, reduceCtorEq, and_false,
    false_or] at h
  obtain ⟨-, -, -, h⟩ := h
  obtain ⟨c, hr, hc⟩ := Option.bind_eq_some.mp h
  rcases hpc : c.pc with _ | _ | ⟨_ | _ | _⟩ <;> simp only [hpc] at hc <;> cases hc
  exact ⟨c, hr, hpc, rfl⟩

/-- However the reads split the source, a nil `UploadDataObject` wrote exactly the file's bytes, and
a nil `DownloadDataObjectToBuffer` appended exactly the object's bytes. -/
theorem serial_transfers_copy_source {F S prior out buf : List UInt8} {B : Nat}
    {replicate : Bool} {env : SerialUploadEnv} {env' : BufferDownloadEnv} {ms ms' : List Move} :
    (UploadDataObject F B replicate env ms = some (.nil out) → out = F) ∧
    (DownloadDataObjectToBuffer S B env' prior ms' = some (.nil buf) → buf = prior ++ S) := by
  refine ⟨fun h => ?_, fun h => ?_⟩
  · obtain ⟨c, hr, he, rfl⟩ := UploadDataObject_nil h
    exact Copy.run_eof hr he
  · obtain ⟨c, hr, he, rfl⟩ := DownloadDataObjectToBuffer_nil h
    exact Copy.run_eof hr he

theorem serial_transfers_copy_source_short_reads :
    UploadDataObject [1, 2, 3] 2 false ⟨true, true, true, true, true, true⟩
      [.read 2 .none, .ok, .read 2 .eof, .ok] = some (.nil [1, 2, 3]) ∧
    DownloadDataObjectToBuffer [1, 2, 3] 2 ⟨true, true, true⟩ [9]
      [.read 2 .none, .ok, .read 0 .none, .read 1 .eof, .ok] = some (.nil [9, 1, 2, 3]) ∧
    ([1, 2, 3] : List UInt8) = [1, 2, 3] ∧ ([9, 1, 2, 3] : List UInt8) = [9] ++ [1, 2, 3] :=
  have h₁ : UploadDataObject [1, 2, 3] 2 false ⟨true, true, true, true, true, true⟩
      [.read 2 .none, .ok, .read 2 .eof, .ok] = some (.nil [1, 2, 3]) := by decide
  have h₂ : DownloadDataObjectToBuffer [1, 2, 3] 2 ⟨true, true, true⟩ [9]
      [.read 2 .none, .ok, .read 0 .none, .read 1 .eof, .ok] = some (.nil [9, 1, 2, 3]) := by
    decide
  have t := @serial_transfers_copy_source [1, 2, 3] [1, 2, 3] [9] [1, 2, 3] [9, 1, 2, 3] 2 false
    ⟨true, true, true, true, true, true⟩ ⟨true, true, true⟩
    [.read 2 .none, .ok, .read 2 .eof, .ok] [.read 2 .none, .ok, .read 0 .none, .read 1 .eof, .ok]
  ⟨h₁, h₂, t.1 h₁, t.2 h₂⟩

/-- Which calls of `UploadDataObjectFromBuffer` succeed. -/
structure BufferUploadEnv where
  acquire : Bool
  connected : Bool
  create : Bool
  write : Bool
  replicate : Bool
  deriving DecidableEq, Repr

/-- `UploadDataObjectFromBuffer` of `buffer`: the outcome, with the bytes written in one call. The
handle is closed either way, and the close's error is dropped. -/
def UploadDataObjectFromBuffer (buffer : List UInt8) (replicate : Bool) (env : BufferUploadEnv) :
    Outcome (List UInt8) :=
  if ¬env.acquire then .error "failed to get connection: %w" []
  else if ¬env.connected then .error "connection is nil or disconnected" []
  else if ¬env.create then .error "failed to open data object %q: %w" []
  else if ¬env.write then .error "WriteDataObjectWithTrackerCallBack" buffer
  else if replicate ∧ ¬env.replicate then .error "ReplicateDataObject" buffer
  else .nil buffer

namespace Copy

/-- A local file's answer: a read fills the buffer, `io.EOF` with nothing once none is left. -/
def coopMove (S : List UInt8) (B : Nat) (c : Copy) : Move :=
  match c.pc with
  | .read => if S.length ≤ c.pos then .read 0 .eof else .read (min B (S.length - c.pos)) .none
  | _ => .ok

/-- A local file's answers bring the copy loop to `io.EOF` within two moves per byte, and one. -/
theorem run_coop_eof {S : List UInt8} {B : Nat} {w : Bool} (hB : 0 < B) (pos : Nat)
    (out : List UInt8) : ∃ ms c, run S B w ⟨pos, out, .read⟩ ms = some c ∧
      c.pc = .exited .eof ∧ ms.length ≤ 2 * (S.length - pos) + 1 := by
  obtain ⟨n, h⟩ : ∃ n, S.length - pos = n := ⟨_, rfl⟩
  induction n using Nat.strong_induction_on generalizing pos out with
  | _ n ih =>
    by_cases hs : S.length ≤ pos
    · refine ⟨[.read 0 .eof], ⟨pos, out, .exited .eof⟩, ?_, rfl, by simp⟩
      have hc : chunk S pos 0 = [] := by simp [chunk]
      simp [run, step, hc, afterRead, hs]
    · -- a read of `k ≥ 1` bytes, its write, and the loop from `pos + k`
      have hlen := length_chunk S pos (min B (S.length - pos))
      have hc : chunk S pos (min B (S.length - pos)) ≠ [] := by
        rw [← List.length_pos, hlen]; omega
      obtain ⟨ms, c, hr, he, hl⟩ := ih (n - min B (S.length - pos)) (by omega)
        (pos + min B (S.length - pos)) (out ++ chunk S pos (min B (S.length - pos))) (by omega)
      refine ⟨.read (min B (S.length - pos)) .none :: .ok :: ms, c, ?_, he, by simp; omega⟩
      simp only [run, step, Option.bind_eq_bind]
      rw [if_pos ⟨min_le_left _ _, nofun⟩]
      simp only [hc, if_false, Option.some_bind, hlen, afterRead]
      rw [show min (min B (S.length - pos)) (S.length - pos) = min B (S.length - pos) by omega]
      exact hr

end Copy

/-- When every read and write succeeds, `UploadDataObject` returns what `UploadDataObjectFromBuffer`
returns for the file's bytes, and the reads of a file always bring its loop to the end. -/
theorem UploadDataObject_matches_buffer_upload {F : List UInt8} {B : Nat} {replicate : Bool}
    {env : SerialUploadEnv} (hB : 0 < B) (hs : env.stat = true) (ho : env.openLocal = true) :
    (∀ ms c, Copy.run F B true ⟨0, [], .read⟩ ms = some c → c.pc = .exited .eof →
      UploadDataObject F B replicate env ms = some (UploadDataObjectFromBuffer F replicate
        ⟨env.acquire, env.connected, env.create, true, env.replicate⟩)) ∧
    ∃ ms, ms.length ≤ 2 * F.length + 1 ∧ UploadDataObject F B replicate env ms =
      some (UploadDataObjectFromBuffer F replicate ⟨env.acquire, env.connected, env.create, true,
        env.replicate⟩) := by
  have key : ∀ ms c, Copy.run F B true ⟨0, [], .read⟩ ms = some c → c.pc = .exited .eof →
      UploadDataObject F B replicate env ms = some (UploadDataObjectFromBuffer F replicate
        ⟨env.acquire, env.connected, env.create, true, env.replicate⟩) := by
    intro ms c hr he
    have hout := Copy.run_eof hr he
    simp only [List.nil_append] at hout
    simp only [UploadDataObject, UploadDataObjectFromBuffer, hs, ho, hr, Option.some_bind, he,
      hout, not_true_eq_false, if_false, Bool.not_eq_true]
    split_ifs <;> rfl
  obtain ⟨ms, c, hr, he, hl⟩ := Copy.run_coop_eof (S := F) (w := true) hB 0 []
  exact ⟨key, ms, by simpa using hl, key ms c hr he⟩

/-- Three bytes through a buffer of two, with replication asked for and failing: both uploads
return the replication's error after writing the three bytes. -/
theorem UploadDataObject_matches_buffer_upload_three_bytes :
    0 < 2 ∧ (⟨true, true, true, true, true, false⟩ : SerialUploadEnv).stat = true ∧
    (⟨true, true, true, true, true, false⟩ : SerialUploadEnv).openLocal = true ∧
    (∀ ms c, Copy.run [1, 2, 3] 2 true ⟨0, [], .read⟩ ms = some c → c.pc = .exited .eof →
      UploadDataObject [1, 2, 3] 2 true ⟨true, true, true, true, true, false⟩ ms =
        some (UploadDataObjectFromBuffer [1, 2, 3] true ⟨true, true, true, true, false⟩)) ∧
    ∃ ms, ms.length ≤ 2 * ([1, 2, 3] : List UInt8).length + 1 ∧
      UploadDataObject [1, 2, 3] 2 true ⟨true, true, true, true, true, false⟩ ms =
        some (UploadDataObjectFromBuffer [1, 2, 3] true ⟨true, true, true, true, false⟩) :=
  ⟨by decide, rfl, rfl, UploadDataObject_matches_buffer_upload (by decide) rfl rfl⟩

end IrodsClient
