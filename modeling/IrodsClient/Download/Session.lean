import IrodsClient.Download.Run
import IrodsClient.Session.Lifecycle

/-! The tasks of `DownloadDataObjectParallel` over the session they take their connections from.
Every run projects to a run of the download model and to a run of session calls. -/
namespace IrodsClient

open IRODSSession

/-- The points of a task's code that call the session: `taskConn.IsSocketFailed()` after a failed
trial, which gives the connection back when it is true, and `session.AcquireConnection()`. -/
def DownloadPc.callsSession : DownloadPc → Bool
  | .failed _ | .reacquire => true
  | _ => false

/-- Whether `m` is an answer the round trip at `p` can get on a connection whose socket failed:
such a request fails without touching the socket. The other points make no round trip. -/
def DownloadPc.answersFailedSocket : DownloadPc → Move → Bool
  | .trial, m | .seekRemote, m => m = .fail
  | .copy, .read k err => k = 0 ∧ err = .fail
  | _, _ => true

/-- Task `i`'s next move: a step of its own code, the check after a failed trial, `AcquireConnection`,
its deferred `ReturnConnection`, or its connection's socket failing. -/
inductive SessionMove
  | code (m : Move)
  | retry
  | acquire (a : ServerAnswer) (o : MapOrder)
  | release
  | socketFails

/-- The download's tasks and what they share, the session with the references its holders hold,
and each task's `taskConn`, `none` while it is nil or once it has been given back. -/
structure SessionDownload where
  dl : Download
  holders : Holders
  taskConn : List (Option Nat)

namespace SessionDownload

/-- Whether the socket of task `i`'s connection has failed. -/
def socketFailedAt (w : SessionDownload) (i : Nat) : Bool :=
  match w.taskConn[i]? with
  | some (some c) => c ∈ w.holders.sess.socketFailed
  | _ => false

/-- Task `i`'s code takes the move `m`, leaving the session `h` and the connections `tc`. -/
def moveTask (S : List UInt8) (B : Nat) (resumable : Bool) (cap : Nat) (w : SessionDownload)
    (i : Nat) (m : Move) (h : Holders) (tc : List (Option Nat)) :
    Option (SessionDownload × Option (Move × DownloadEffect)) :=
  (w.dl.step S B resumable cap i m).map fun r => (⟨r.1, h, tc⟩, some (m, r.2))

/-- Task `i` makes the move `mv`. The effect is the move of the task's code with its effect on
what the tasks share, or `none` for a step of the session alone. -/
def step (S : List UInt8) (B : Nat) (resumable : Bool) (cap : Nat) (w : SessionDownload)
    (i : Nat) : SessionMove → Option (SessionDownload × Option (Move × DownloadEffect))
  | .code m =>
    match w.dl.tasks[i]? with
    | some t =>
      if t.pc.callsSession || (w.socketFailedAt i && !t.pc.answersFailedSocket m) then none
      else w.moveTask S B resumable cap i m w.holders w.taskConn
    | none => none
  | .retry =>
    match (w.dl.tasks[i]?).map DownloadTask.pc, w.taskConn[i]? with
    | some (.failed _), some (some c) =>
      if c ∈ w.holders.sess.socketFailed then
        (w.holders.step (.returnConnection c)).bind fun h =>
          w.moveTask S B resumable cap i .ok h (w.taskConn.set i none)
      else w.moveTask S B resumable cap i .fail w.holders w.taskConn
    | _, _ => none
  | .acquire a o =>
    match (w.dl.tasks[i]?).map DownloadTask.pc with
    | some .reacquire =>
      let conn := (AcquireConnection a o w.holders.sess).1.toOption
      (w.holders.step (.acquire a o)).bind fun h =>
        w.moveTask S B resumable cap i (if conn.isSome then .ok else .fail) h (w.taskConn.set i conn)
    | _ => none
  | .release =>
    match (w.dl.tasks[i]?).map DownloadTask.pc, w.taskConn[i]? with
    | some .done, some (some c) | some .exited, some (some c) =>
      (w.holders.step (.returnConnection c)).map fun h => (⟨w.dl, h, w.taskConn.set i none⟩, none)
    | _, _ => none
  | .socketFails =>
    match w.taskConn[i]? with
    | some (some c) => (w.holders.step (.socketFails c)).map fun h => (⟨w.dl, h, w.taskConn⟩, none)
    | _ => none

/-- The state the tasks start in over the session `w`, task `i` with `connections[i]`. -/
def launch (fileLength T : Nat) (w : Holders) (connections : List Nat) : SessionDownload :=
  ⟨Download.start [] (launchTasks fileLength T fun off => off), w, connections.map some⟩

/-- What a step does to the session and to the tasks' connections: nothing, task `i` gives back
its connection, takes the result of an `AcquireConnection`, or its connection's socket fails. -/
inductive SessionChange (i : Nat) : Holders → List (Option Nat) → Holders → List (Option Nat) → Prop
  | keep (h : Holders) (tc : List (Option Nat)) : SessionChange i h tc h tc
  | give {h h' : Holders} {tc : List (Option Nat)} {c : Nat} :
      tc[i]? = some (some c) → h.step (.returnConnection c) = some h' →
      SessionChange i h tc h' (tc.set i none)
  | take {h h' : Holders} {tc : List (Option Nat)} (a : ServerAnswer) (o : MapOrder) :
      h.step (.acquire a o) = some h' →
      SessionChange i h tc h' (tc.set i (AcquireConnection a o h.sess).1.toOption)
  | fail {h h' : Holders} {tc : List (Option Nat)} {c : Nat} :
      tc[i]? = some (some c) → h.step (.socketFails c) = some h' → SessionChange i h tc h' tc

theorem SessionChange.call {i : Nat} {h h' : Holders} {tc tc' : List (Option Nat)}
    (hc : SessionChange i h tc h' tc') : h' = h ∨ ∃ c, h.step c = some h' := by
  cases hc with
  | keep => exact .inl rfl
  | give _ hs | take _ _ hs | fail _ hs => exact .inr ⟨_, hs⟩

section
variable {S : List UInt8} {B cap i : Nat} {r : Bool} {w w' : SessionDownload}

theorem moveTask_eq_some {m : Move} {h : Holders} {tc : List (Option Nat)}
    {e : Option (Move × DownloadEffect)} (hm : w.moveTask S B r cap i m h tc = some (w', e)) :
    ∃ de, e = some (m, de) ∧ w.dl.step S B r cap i m = some (w'.dl, de) ∧ w'.holders = h ∧
      w'.taskConn = tc := by
  obtain ⟨⟨d, de⟩, hd, he⟩ := Option.map_eq_some'.mp hm
  cases he
  exact ⟨de, rfl, hd, rfl, rfl⟩

/-- Each step is one step of the download model or leaves the download alone, and one change of
the session. -/
theorem step_cases {mv : SessionMove} {e : Option (Move × DownloadEffect)}
    (h : w.step S B r cap i mv = some (w', e)) :
    (e = none ∧ w'.dl = w.dl ∨ ∃ m de, e = some (m, de) ∧ w.dl.step S B r cap i m = some (w'.dl, de)) ∧
      SessionChange i w.holders w.taskConn w'.holders w'.taskConn := by
  have move : ∀ {m hs tc}, w.moveTask S B r cap i m hs tc = some (w', e) →
      SessionChange i w.holders w.taskConn hs tc →
      (e = none ∧ w'.dl = w.dl ∨ ∃ m de, e = some (m, de) ∧ w.dl.step S B r cap i m = some (w'.dl, de)) ∧
        SessionChange i w.holders w.taskConn w'.holders w'.taskConn := fun hm hc => by
    obtain ⟨de, rfl, hd, rfl, rfl⟩ := moveTask_eq_some hm
    exact ⟨.inr ⟨_, de, rfl, hd⟩, hc⟩
  cases mv with
  | code m =>
    simp only [step] at h
    split at h
    · split_ifs at h
      exact move h (.keep _ _)
    · cases h
  | retry =>
    simp only [step] at h
    split at h
    · next c hc =>
      split_ifs at h
      · obtain ⟨hs, hs', hm⟩ := Option.bind_eq_some.mp h
        exact move hm (.give hc hs')
      · exact move h (.keep _ _)
    · cases h
  | acquire a o =>
    simp only [step] at h
    split at h
    · obtain ⟨hs, hs', hm⟩ := Option.bind_eq_some.mp h
      exact move hm (.take a o hs')
    · cases h
  | release =>
    simp only [step] at h
    split at h
    all_goals first
      | (obtain ⟨hs, hs', he⟩ := Option.map_eq_some'.mp h
         cases he
         exact ⟨.inl ⟨rfl, rfl⟩, .give ‹_› hs'⟩)
      | cases h
  | socketFails =>
    simp only [step] at h
    split at h
    · obtain ⟨hs, hs', he⟩ := Option.map_eq_some'.mp h
      cases he
      exact ⟨.inl ⟨rfl, rfl⟩, .fail ‹_› hs'⟩
    · cases h

end

/-! ## Runs -/

/-- The moves of the tasks' code in a trace, in order. -/
def downloadMoves (tr : List (Nat × Option (Move × DownloadEffect))) : List (Nat × Move) :=
  tr.filterMap fun p => p.2.map fun e => (p.1, e.1)

/-- The effects of the tasks' code in a trace, in order. -/
def downloadEffects (tr : List (Nat × Option (Move × DownloadEffect))) : List (Nat × DownloadEffect) :=
  tr.filterMap fun p => p.2.map fun e => (p.1, e.2)

/-- The download part of every run is a run of the download model over the code's moves. -/
theorem run_download {S : List UInt8} {B cap : Nat} {r : Bool} {w : SessionDownload}
    {sched : List (Nat × SessionMove)} {res : SessionDownload × List (Nat × Option (Move × DownloadEffect))}
    (h : runSchedule (step S B r cap) w [] sched = some res) :
    runSchedule (Download.step S B r cap) w.dl [] (downloadMoves res.2) =
      some (res.1.dl, downloadEffects res.2) := by
  refine runSchedule_invariant (fun (w' : SessionDownload) tr => runSchedule (Download.step S B r cap) w.dl []
    (downloadMoves tr) = some (w'.dl, downloadEffects tr)) (fun s tr i mv s' e hs hi => ?_) sched w [] res
    h rfl
  rcases (step_cases hs).1 with ⟨rfl, hd⟩ | ⟨m, de, rfl, hd⟩
  · simpa [downloadMoves, downloadEffects, hd] using hi
  · simp only [downloadMoves, downloadEffects, List.filterMap_append] at hi ⊢
    simp [runSchedule_append, hi, runSchedule_cons, hd]

/-- The session part of every run is a run of session calls. -/
theorem run_holders {S : List UInt8} {B cap : Nat} {r : Bool} {w : SessionDownload}
    {sched : List (Nat × SessionMove)} {res : SessionDownload × List (Nat × Option (Move × DownloadEffect))}
    (h : runSchedule (step S B r cap) w [] sched = some res) :
    ∃ cs, w.holders.run cs = some res.1.holders := by
  refine runSchedule_invariant (fun (w' : SessionDownload) _ => ∃ cs, w.holders.run cs = some w'.holders)
    (fun s _ i mv s' e hs ⟨cs, hcs⟩ => ?_) sched w [] res h ⟨[], rfl⟩
  rcases (step_cases hs).2.call with he | ⟨c, hc⟩
  · exact ⟨cs, he ▸ hcs⟩
  · exact ⟨cs ++ [c], by simp [Holders.run_append, hcs, Holders.run, hc]⟩

/-! ## The references the tasks hold -/

theorem reduceOption_cons (x : Option Nat) (l : List (Option Nat)) :
    (x :: l).reduceOption = x.toList ++ l.reduceOption := by
  cases x <;> rfl

/-- Setting one entry of a list of options changes its values by that entry alone. -/
theorem reduceOption_set_perm {l : List (Option Nat)} {i : Nat} {a : Option Nat} (h : l[i]? = some a)
    (v : Option Nat) : ((l.set i v).reduceOption ++ a.toList).Perm (l.reduceOption ++ v.toList) := by
  induction l generalizing i with
  | nil => simp at h
  | cons x l ih =>
    cases i with
    | zero =>
      simp only [List.getElem?_cons_zero, Option.some.injEq] at h
      subst h
      simp only [List.set_cons_zero, reduceOption_cons]
      exact List.perm_iff_count.mpr fun y => by simp only [List.count_append]; omega
    | succ i =>
      simp only [List.set_cons_succ, reduceOption_cons, List.append_assoc]
      exact (ih (by simpa using h)).append_left _

theorem refsHeld_give {tc : List (Option Nat)} {i c : Nat} {held : List Nat}
    (hi : tc[i]? = some (some c)) (hr : tc.reduceOption.Subperm held) :
    (tc.set i none).reduceOption.Subperm (held.erase c) := by
  have hp : (c :: (tc.set i none).reduceOption).Perm tc.reduceOption :=
    (List.perm_append_singleton _ _).symm.trans (by simpa using reduceOption_set_perm hi none)
  simpa using (hp.subperm.trans hr).erase c

theorem refsHeld_set {tc : List (Option Nat)} {held : List Nat} (i : Nat) (v : Option Nat)
    (hr : tc.reduceOption.Subperm held) : (tc.set i v).reduceOption.Subperm (v.toList ++ held) := by
  rcases hi : tc[i]? with _ | x
  · rw [List.set_eq_of_length_le (List.getElem?_eq_none_iff.mp hi)]
    exact hr.trans (List.sublist_append_right _ _).subperm
  · exact ((List.sublist_append_left _ _).subperm.trans
      ((reduceOption_set_perm hi v).trans List.perm_append_comm).subperm).trans
      ((List.subperm_append_left _).mpr hr)

/-- The connections the tasks hold are references their session has handed out and not had back. -/
def RefsHeld (w : SessionDownload) : Prop := w.taskConn.reduceOption.Subperm w.holders.held

theorem SessionChange.refsHeld {i : Nat} {h h' : Holders} {tc tc' : List (Option Nat)}
    (hc : SessionChange i h tc h' tc') (hr : tc.reduceOption.Subperm h.held) :
    tc'.reduceOption.Subperm h'.held := by
  cases hc with
  | keep => exact hr
  | give hi hs =>
    simp only [Holders.step] at hs
    split_ifs at hs
    cases hs
    exact refsHeld_give hi hr
  | take a o hs =>
    cases hs
    exact refsHeld_set _ _ hr
  | fail _ hs =>
    cases hs
    exact hr

/-- In every run of the launched tasks, their connections stay among the references the session
handed out and has not had back. -/
theorem run_refsHeld {S : List UInt8} {B cap fileLength T : Nat} {r : Bool} {w : Holders}
    {connections : List Nat} {sched : List (Nat × SessionMove)}
    {res : SessionDownload × List (Nat × Option (Move × DownloadEffect))}
    (h : runSchedule (step S B r cap) (launch fileLength T ⟨w.sess, connections ++ w.held⟩ connections)
      [] sched = some res) : res.1.RefsHeld :=
  runSchedule_invariant (fun (w' : SessionDownload) _ => w'.RefsHeld)
    (fun _ _ _ _ _ _ hs hr => (step_cases hs).2.refsHeld hr) sched _ [] res h
    (by simpa [RefsHeld, launch, List.reduceOption] using (List.sublist_append_left _ _).subperm)

end SessionDownload

/-- `DownloadDataObjectParallel` over the session `w`: the outcome and the session when `Wait`
returns; `none` while `AcquireConnectionsMulti` or a task has not returned. -/
def DownloadDataObjectParallelOverSession (S : List UInt8) (B : Nat) (getNumTasks : Nat → Int)
    (connectionMaxNumber : Int) (fileLength : Nat) (taskNum : Int) (create : Bool)
    (prior : List UInt8) (w : Holders) (answers : Nat → ServerAnswer) (o : MapOrder) (fuel : Nat)
    (sched : List (Nat × SessionMove)) : Option (Outcome (List UInt8) × Holders) :=
  if fileLength = 0 then
    some (if create then .nil [] else .error "failed to create file %q: %w" prior, w)
  else
    let numTasks := resolveNumTasks getNumTasks connectionMaxNumber fileLength taskNum
    if ¬create then some (.error "failed to create file %q: %w" prior, w)
    else if numTasks ≤ 0 then some (.panic [], w)
    else match AcquireConnectionsMulti numTasks answers o fuel w.sess with
      | none => none
      | some (connections, sess) =>
        -- `connections[taskID]` is out of range for a task the session gave no connection
        if connections.length < numTasks.toNat then some (.panic [], ⟨sess, connections ++ w.held⟩)
        else
          (runSchedule (SessionDownload.step S B false numTasks.toNat)
            (SessionDownload.launch fileLength numTasks.toNat ⟨sess, connections ++ w.held⟩ connections)
            [] sched).bind fun r =>
            if r.1.dl.Finished then some (r.1.dl.result, r.1.holders) else none


/-- Over any session the call returns what the download model returns, and leaves the session where
a run of session calls leaves it. -/
theorem DownloadDataObjectParallelOverSession_refines {S : List UInt8} {B : Nat}
    {getNumTasks : Nat → Int} {connectionMaxNumber : Int} {fileLength : Nat} {taskNum : Int}
    {create : Bool} {prior : List UInt8} {w w' : Holders} {answers : Nat → ServerAnswer}
    {o : MapOrder} {fuel : Nat} {sched : List (Nat × SessionMove)} {out : Outcome (List UInt8)}
    (h : DownloadDataObjectParallelOverSession S B getNumTasks connectionMaxNumber fileLength
      taskNum create prior w answers o fuel sched = some (out, w')) :
    (∃ n dsched, DownloadDataObjectParallel S B getNumTasks connectionMaxNumber fileLength taskNum
      ⟨create, n⟩ prior dsched = some out) ∧ ∃ cs, w.run cs = some w' := by
  unfold DownloadDataObjectParallelOverSession at h
  by_cases h0 : fileLength = 0
  · simp only [h0, if_true, Option.some.injEq, Prod.mk.injEq] at h
    obtain ⟨rfl, rfl⟩ := h
    exact ⟨⟨0, [], by simp [DownloadDataObjectParallel, h0]⟩, [], rfl⟩
  cases create
  · simp only [h0, if_false, Bool.false_eq_true, not_false_eq_true, if_true, Option.some.injEq,
      Prod.mk.injEq] at h
    obtain ⟨rfl, rfl⟩ := h
    exact ⟨⟨0, [], by simp [DownloadDataObjectParallel, h0]⟩, [], rfl⟩
  simp only [h0, if_false, not_true_eq_false] at h
  by_cases hT : resolveNumTasks getNumTasks connectionMaxNumber fileLength taskNum ≤ 0
  · simp only [hT, if_true, Option.some.injEq, Prod.mk.injEq] at h
    obtain ⟨rfl, rfl⟩ := h
    exact ⟨⟨0, [], by simp [DownloadDataObjectParallel, h0, hT]⟩, [], rfl⟩
  simp only [hT, if_false] at h
  split at h
  · cases h
  next conns sess hm =>
  have hstep : w.step (.acquireMulti (resolveNumTasks getNumTasks connectionMaxNumber fileLength
      taskNum) answers o fuel) = some ⟨sess, conns ++ w.held⟩ := by
    simp [Holders.step, hm]
  split_ifs at h with hlen
  · cases h
    exact ⟨⟨conns.length, [], by simp [DownloadDataObjectParallel, h0, hT, hlen]⟩, [_],
      by rw [Holders.run, hstep]; rfl⟩
  obtain ⟨res, hr, hfin⟩ := Option.bind_eq_some.mp h
  split_ifs at hfin with hf
  cases hfin
  obtain ⟨cs, hcs⟩ := SessionDownload.run_holders hr
  have hd := SessionDownload.run_download hr
  simp only [SessionDownload.launch] at hd hcs
  exact ⟨⟨conns.length, SessionDownload.downloadMoves res.2,
    by simp [DownloadDataObjectParallel, h0, hT, hlen, hd, hf]⟩, _ :: cs, by rw [Holders.run, hstep]; exact hcs⟩

/-- One task: a byte, a socket failure, a failed read, a retry on a new connection, a byte. -/
def socketFailureRetry : List (Nat × SessionMove) :=
  ([.code .ok, .code .ok, .code .ok, .code (.read 1 .none), .code .ok, .code .ok, .code .ok,
    .code .ok, .socketFails, .code (.read 0 .fail), .retry, .acquire ⟨true, true⟩ .inOrder,
    .code .ok, .code .ok, .code (.seekTo 1), .code .ok, .code (.read 1 .none), .code .ok, .code .ok,
    .code .ok, .code .ok, .code .ok, .release] : List SessionMove).map ((0 : Nat), ·)

/-- The pool destroys the failed connection, the task finishes on a new one, and the file is `S`. -/
theorem DownloadDataObjectParallelOverSession_retries_on_new_connection : ∃ w',
    DownloadDataObjectParallelOverSession [1, 2] 65536 (fun _ => 1) 16 2 1 true []
      ⟨new ⟨[], [], 2, 2, 0⟩ false, []⟩ (fun _ => ⟨true, true⟩) .inOrder 1 socketFailureRetry =
      some (.nil [1, 2], w') ∧ w'.sess.connectionPool = ⟨[1], [], 2, 2, 2⟩ ∧
    (∃ n dsched, DownloadDataObjectParallel [1, 2] 65536 (fun _ => 1) 16 2 1 ⟨true, n⟩ [] dsched =
      some (.nil [1, 2])) ∧ ∃ cs, (⟨new ⟨[], [], 2, 2, 0⟩ false, []⟩ : Holders).run cs = some w' :=
  ⟨_, rfl, rfl, @DownloadDataObjectParallelOverSession_refines [1, 2] 65536 (fun _ => 1) 16 2 1 true []
    ⟨new ⟨[], [], 2, 2, 0⟩ false, []⟩ _ (fun _ => ⟨true, true⟩) .inOrder 1 socketFailureRetry _ rfl⟩

end IrodsClient
