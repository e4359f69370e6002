import IrodsClient.Session.Shares

/-! The session over whole runs of calls: `NewIRODSSession`, the pool's caps, and what a session
whose poor man's rollback has failed never does again. -/
namespace IrodsClient

namespace IRODSSession

/-- `NewIRODSSession` over a new pool: for a non-anonymous user starting transactions, a test
rollback on a pooled connection, which is discarded and marks the rollback failed if it fails. -/
def NewIRODSSession (clientUser : String) (startNewTransaction : Bool) (pool : ConnectionPool)
    (a : ServerAnswer) : Except String IRODSSession :=
  let sess := new pool startNewTransaction
  let sess := if clientUser = "anonymous" then
    { sess with startNewTransaction := false, poormansRollbackFail := true } else sess
  if sess.startNewTransaction then
    match pool.Get a.connect with
    | none => .error "pool.Get"
    | some ((conn, _), pool) =>
      if a.rollback then .ok { sess with connectionPool := pool.Return false conn }
      else .ok { sess with connectionPool := pool.Discard conn, poormansRollbackFail := true }
  else .ok sess

/-- `ConnectionTotal`: the connections the pool has open. -/
def ConnectionTotal (sess : IRODSSession) : Nat := sess.connectionPool.OpenConnections

/-- `Release`: forget every share, then release the pool. -/
def Release (sess : IRODSSession) : IRODSSession :=
  { sess with sharedConnections := ∅, connectionPool := sess.connectionPool.Release }

theorem inv_of_outstanding_nil {sess : IRODSSession} (hp : sess.connectionPool.WF)
    (ho : sess.connectionPool.outstanding = []) (hs : sess.sharedConnections = ∅) : sess.Inv :=
  ⟨hp, fun c => by simp [ho, hs, AList.not_mem_empty], fun c hc => by
    rw [hs] at hc; exact absurd hc (AList.not_mem_empty c)⟩

/-- `Release` starts the session over: nothing is shared and the pool holds nothing. -/
theorem Release_inv (sess : IRODSSession) : sess.Release.Inv :=
  inv_of_outstanding_nil ⟨by simp [Release, ConnectionPool.Release],
    by simp [Release, ConnectionPool.Release]⟩ rfl rfl

/-- `NewIRODSSession` keeps the invariant and the caps, shares nothing, and marks the rollback failed
exactly for the anonymous user or a failed test. -/
theorem NewIRODSSession_spec {clientUser : String} {startNewTransaction : Bool}
    {pool : ConnectionPool} {a : ServerAnswer} {sess : IRODSSession} (hp : pool.WF)
    (ho : pool.outstanding = []) (hb : pool.Bounded pool.maxCap pool.maxIdle)
    (h : NewIRODSSession clientUser startNewTransaction pool a = .ok sess) :
    sess.Inv ∧ sess.sharedConnections = ∅ ∧ sess.connectionPool.Bounded pool.maxCap pool.maxIdle ∧
      sess.startNewTransaction = (startNewTransaction && decide (clientUser ≠ "anonymous")) ∧
      (sess.poormansRollbackFail = true ↔
        clientUser = "anonymous" ∨ startNewTransaction = true ∧ a.rollback = false) := by
  unfold NewIRODSSession at h
  by_cases hu : clientUser = "anonymous"
  · simp only [hu, if_true, new, Bool.false_eq_true, if_false, Except.ok.injEq] at h
    subst h
    exact ⟨inv_of_outstanding_nil hp ho rfl, rfl, hb, by simp [hu], by simp [hu]⟩
  simp only [hu, if_false, new] at h
  cases hs : startNewTransaction <;> simp only [hs, Bool.false_eq_true, if_false, if_true,
    Except.ok.injEq] at h
  · subst h
    exact ⟨inv_of_outstanding_nil hp ho rfl, rfl, hb, by simp, by simp [hu]⟩
  rcases hg : pool.Get a.connect with _ | ⟨⟨conn, isNew⟩, pool'⟩ <;> rw [hg] at h
  · cases h
  obtain ⟨hw, hc, -, -, hout⟩ := ConnectionPool.Get_wf hp hg
  have hb' := hb.get hg
  have hnil : pool'.outstanding.erase conn = [] := by rw [hout, ho, List.erase_cons_head]
  dsimp only at h
  split_ifs at h with hr <;> cases h
  · obtain ⟨hw', -, hout'⟩ := ConnectionPool.Return_wf hw hc false
    exact ⟨inv_of_outstanding_nil hw' (hout'.trans hnil) rfl, rfl, hb'.return hc false, by simp [hu],
      by simp [hu, hr]⟩
  · obtain ⟨hw', -, hout'⟩ := ConnectionPool.Discard_wf hw conn
    exact ⟨inv_of_outstanding_nil hw' (hout'.trans hnil) rfl, rfl, hb'.discard conn, by simp [hu],
      by simp [hu, hr]⟩

/-! ## The pool's caps -/

section caps
variable {maxCap maxIdle : Nat}

theorem discardAndGetNew_bounded (a : ServerAnswer) {conn : Nat} {sess : IRODSSession}
    (hb : sess.connectionPool.Bounded maxCap maxIdle) (hc : conn ∈ sess.connectionPool.outstanding) :
    (discardAndGetNew a conn sess).2.connectionPool.Bounded maxCap maxIdle := by
  unfold discardAndGetNew
  dsimp only
  split
  · exact hb.discard_getNew hc ‹_›
  · exact hb.discard conn

/-- Taking a connection from the pool keeps it within its caps. -/
theorem getConnectionFromPool_bounded (a : ServerAnswer) {sess : IRODSSession}
    (hb : sess.connectionPool.Bounded maxCap maxIdle) :
    (getConnectionFromPool a sess).2.connectionPool.Bounded maxCap maxIdle := by
  unfold getConnectionFromPool
  rcases hg : sess.connectionPool.Get a.connect with _ | ⟨⟨conn, isNew⟩, pool⟩
  · exact hb
  have hb' := hb.get hg
  have hc : conn ∈ pool.outstanding := by
    rcases ConnectionPool.Get_eq_some hg with ⟨rest, -, -, rfl⟩ | ⟨-, -, hn⟩
    · exact List.mem_cons_self _ _
    · obtain ⟨-, rfl, rfl⟩ := ConnectionPool.GetNew_eq_some hn
      exact List.mem_cons_self _ _
  dsimp only
  split_ifs <;> first | exact hb' | exact discardAndGetNew_bounded a hb' hc

theorem tryConnectionFromPool_bounded (a : ServerAnswer) {sess : IRODSSession}
    (hb : sess.connectionPool.Bounded maxCap maxIdle) :
    (tryConnectionFromPool a sess).2.connectionPool.Bounded maxCap maxIdle := by
  unfold tryConnectionFromPool
  split_ifs
  · exact getConnectionFromPool_bounded a hb
  · exact hb

theorem AcquireConnection_frame (a : ServerAnswer) (o : MapOrder) (sess : IRODSSession) :
    (AcquireConnection a o sess).2.connectionPool = (tryConnectionFromPool a sess).2.connectionPool ∧
      (AcquireConnection a o sess).2.startNewTransaction =
        (tryConnectionFromPool a sess).2.startNewTransaction ∧
      (AcquireConnection a o sess).2.poormansRollbackFail =
        (tryConnectionFromPool a sess).2.poormansRollbackFail := by
  unfold AcquireConnection
  rcases tryConnectionFromPool a sess with ⟨_ | conn, s⟩ <;> dsimp only
  · split <;> exact ⟨rfl, rfl, rfl⟩
  · exact ⟨rfl, rfl, rfl⟩

theorem acquireFromPool_bounded (answers : Nat → ServerAnswer) : ∀ (k i : Nat) (conns : List Nat)
    {sess : IRODSSession}, sess.connectionPool.Bounded maxCap maxIdle →
    (acquireFromPool answers k i conns sess).2.connectionPool.Bounded maxCap maxIdle
  | 0, _, _, _, hb => hb
  | k + 1, i, conns, sess, hb => by
    have hb' := tryConnectionFromPool_bounded (answers i) hb
    rw [acquireFromPool]
    rcases ht : tryConnectionFromPool (answers i) sess with ⟨_ | conn, s⟩ <;> rw [ht] at hb'
    · exact hb'
    · exact acquireFromPool_bounded answers k (i + 1) _ hb'

theorem AcquireConnectionsMulti_bounded {number : Int} {answers : Nat → ServerAnswer}
    {o : MapOrder} {fuel : Nat} {sess sess' : IRODSSession} {conns : List Nat}
    (hb : sess.connectionPool.Bounded maxCap maxIdle)
    (h : AcquireConnectionsMulti number answers o fuel sess = some (conns, sess')) :
    sess'.connectionPool.Bounded maxCap maxIdle := by
  unfold AcquireConnectionsMulti at h
  obtain ⟨⟨l1, l2⟩, -, he⟩ := Option.map_eq_some'.mp h
  simp only [Prod.mk.injEq] at he
  obtain ⟨-, rfl⟩ := he
  exact acquireFromPool_bounded answers _ 0 [] hb

theorem ReturnConnection_bounded (conn : Nat) {sess : IRODSSession} (hI : sess.Inv)
    (hb : sess.connectionPool.Bounded maxCap maxIdle) :
    (ReturnConnection conn sess).connectionPool.Bounded maxCap maxIdle := by
  unfold ReturnConnection releaseShare
  rcases hl : sess.sharedConnections.lookup conn with _ | share
  · exact hb
  have hc : conn ∈ sess.connectionPool.outstanding :=
    (hI.outstanding conn).mpr (AList.lookup_isSome.mp (by simp [hl]))
  dsimp only
  split_ifs
  · exact hb.discard conn
  · exact hb.return hc _
  · exact hb

theorem DiscardConnection_bounded (conn : Nat) {sess : IRODSSession}
    (hb : sess.connectionPool.Bounded maxCap maxIdle) :
    (DiscardConnection conn sess).connectionPool.Bounded maxCap maxIdle := by
  unfold DiscardConnection releaseShare
  split
  · exact hb
  · split_ifs
    · exact hb.discard conn
    · exact hb

end caps

/-! ## After a failed poor man's rollback -/

/-- `s'` lends out nothing that `s` held idle: the flags stay, idle connections only go, and every
shared connection was shared in `s` or is newer. -/
structure Fresh (s s' : IRODSSession) : Prop where
  startNewTransaction : s'.startNewTransaction = s.startNewTransaction
  poormansRollbackFail : s'.poormansRollbackFail = s.poormansRollbackFail
  idle : s'.connectionPool.idle.Sublist s.connectionPool.idle
  next : s.connectionPool.next ≤ s'.connectionPool.next
  shared : ∀ c ∈ s'.sharedConnections, c ∈ s.sharedConnections ∨ s.connectionPool.next ≤ c

theorem Fresh.refl (s : IRODSSession) : Fresh s s :=
  ⟨rfl, rfl, List.Sublist.refl _, le_rfl, fun _ h => .inl h⟩

theorem Fresh.trans {s₁ s₂ s₃ : IRODSSession} (h₁ : Fresh s₁ s₂) (h₂ : Fresh s₂ s₃) : Fresh s₁ s₃ :=
  ⟨h₂.1.trans h₁.1, h₂.2.trans h₁.2, h₂.idle.trans h₁.idle, h₁.next.trans h₂.next, fun c hc =>
    (h₂.shared c hc).elim (h₁.shared c) fun h => .inr (h₁.next.trans h)⟩

theorem Fresh.putToShare {s s' : IRODSSession} {c : Nat} (hF : Fresh s s')
    (hc : s.connectionPool.next ≤ c) :
    Fresh s { s' with sharedConnections := putToShare c s'.sharedConnections } := by
  refine ⟨hF.1, hF.2, hF.idle, hF.next, fun x hx => ?_⟩
  rw [putToShare_eq, AList.mem_insert] at hx
  rcases hx with rfl | hx
  exacts [.inr hc, hF.shared x hx]

section fresh
variable {sess : IRODSSession} (hs : sess.startNewTransaction = true)
  (hf : sess.poormansRollbackFail = true)
include hs hf

/-- Once the rollback has failed, a connection from the pool is a new one. -/
theorem getConnectionFromPool_fresh (a : ServerAnswer) :
    Fresh sess (getConnectionFromPool a sess).2 ∧
      ∀ c, (getConnectionFromPool a sess).1 = some c → sess.connectionPool.next ≤ c := by
  unfold getConnectionFromPool
  rcases hg : sess.connectionPool.Get a.connect with _ | ⟨⟨conn, isNew⟩, pool⟩
  · exact ⟨.refl _, fun _ => nofun⟩
  dsimp only
  rcases ConnectionPool.Get_eq_some hg with ⟨rest, rfl, hi, rfl⟩ | ⟨rfl, hi, hn⟩
  · -- a pooled connection: discarded, and a new one created in its place
    simp only [hs, hf, Bool.not_false, Bool.and_self, if_true, discardAndGetNew]
    split
    · obtain ⟨-, rfl, rfl⟩ := ConnectionPool.GetNew_eq_some ‹_›
      exact ⟨⟨hs.symm, hf.symm, by simp [ConnectionPool.Discard, hi], by simp [ConnectionPool.Discard],
        fun _ h => .inl h⟩, fun c h => by cases h; simp [ConnectionPool.Discard]⟩
    · exact ⟨⟨hs.symm, hf.symm, by simp [ConnectionPool.Discard, hi], le_rfl, fun _ h => .inl h⟩,
        fun _ => nofun⟩
  · -- a new connection: the next identity
    obtain ⟨-, rfl, rfl⟩ := ConnectionPool.GetNew_eq_some hn
    simp only [Bool.not_true, Bool.and_false, Bool.false_eq_true, if_false]
    exact ⟨⟨rfl, rfl, by simp [hi], Nat.le_succ _, fun _ h => .inl h⟩, fun c h => by cases h; rfl⟩

theorem tryConnectionFromPool_fresh (a : ServerAnswer) :
    Fresh sess (tryConnectionFromPool a sess).2 ∧
      ∀ c, (tryConnectionFromPool a sess).1 = some c → sess.connectionPool.next ≤ c := by
  unfold tryConnectionFromPool
  split_ifs
  · exact getConnectionFromPool_fresh hs hf a
  · exact ⟨.refl _, fun _ => nofun⟩

theorem AcquireConnection_fresh (a : ServerAnswer) (o : MapOrder) :
    Fresh sess (AcquireConnection a o sess).2 := by
  obtain ⟨hF, hc⟩ := tryConnectionFromPool_fresh hs hf a
  unfold AcquireConnection
  rcases ht : tryConnectionFromPool a sess with ⟨_ | conn, s⟩ <;> rw [ht] at hF hc <;>
    dsimp only at hF hc ⊢
  · -- sharing gives one more holder to a connection already shared
    split
    · exact ⟨hF.1, hF.2, hF.idle, hF.next, hF.shared⟩
    · rename_i hm
      obtain ⟨hk, -⟩ := (minShareScan_spec _ _ _ _ _ _ hm).resolve_left (by simp)
      refine ⟨hF.1, hF.2, hF.idle, hF.next, fun x hx => hF.shared x ?_⟩
      rcases (AList.mem_insert _).mp hx with rfl | hx
      exacts [AList.mem_keys.mp ((o.perm 0 _).subset hk), hx]
  · exact hF.putToShare (hc conn rfl)

omit hs hf in
theorem acquireFromPool_fresh (answers : Nat → ServerAnswer) : ∀ (k i : Nat) (conns : List Nat)
    {sess : IRODSSession}, sess.startNewTransaction = true → sess.poormansRollbackFail = true →
    Fresh sess (acquireFromPool answers k i conns sess).2
  | 0, _, _, _, _, _ => .refl _
  | k + 1, i, conns, sess, hs, hf => by
    obtain ⟨hF, hc⟩ := tryConnectionFromPool_fresh hs hf (answers i)
    rw [acquireFromPool]
    rcases ht : tryConnectionFromPool (answers i) sess with ⟨_ | conn, s⟩ <;> rw [ht] at hF hc <;>
      dsimp only at hF hc ⊢
    · exact hF
    · have hF' := hF.putToShare (hc conn rfl)
      exact hF'.trans (acquireFromPool_fresh answers k (i + 1) _ (hF'.1.trans hs) (hF'.2.trans hf))

theorem AcquireConnectionsMulti_fresh {number : Int} {answers : Nat → ServerAnswer}
    {o : MapOrder} {fuel : Nat} {sess' : IRODSSession} {conns : List Nat}
    (h : AcquireConnectionsMulti number answers o fuel sess = some (conns, sess')) :
    Fresh sess sess' := by
  have hF := acquireFromPool_fresh answers number.toNat 0 [] hs hf
  unfold AcquireConnectionsMulti at h
  obtain ⟨⟨l1, l2⟩, hl, he⟩ := Option.map_eq_some'.mp h
  simp only [Prod.mk.injEq] at he
  obtain ⟨rfl, rfl⟩ := he
  obtain ⟨-, hkeys, -, -⟩ := shareLoop_spec o fuel 0 _ _ _ _ _ hl
  exact ⟨hF.1, hF.2, hF.idle, hF.next, fun c hc => hF.shared c ((hkeys c).mp hc)⟩

/-- Once the rollback has failed, giving back a holder puts nothing back to idle. -/
theorem releaseShare_fresh {release : IRODSSession → ConnectionPool} {conn : Nat}
    (hrel : ∀ s : IRODSSession, s.startNewTransaction = true → s.poormansRollbackFail = true →
      release s = s.connectionPool.Discard conn) :
    Fresh sess (releaseShare release conn sess) := by
  unfold releaseShare
  split
  · exact .refl _
  · rename_i share hl
    have hmem : conn ∈ sess.sharedConnections := AList.lookup_isSome.mp (by simp [hl])
    split_ifs
    · have hd := hrel { sess with sharedConnections := sess.sharedConnections.erase conn } hs hf
      dsimp only
      rw [hd]
      exact ⟨rfl, rfl, List.Sublist.refl _, le_rfl, fun x hx => .inl (AList.mem_erase.mp hx).2⟩
    · refine ⟨rfl, rfl, List.Sublist.refl _, le_rfl, fun x hx => .inl ?_⟩
      rcases (AList.mem_insert _).mp hx with rfl | hx
      exacts [hmem, hx]

theorem ReturnConnection_fresh (conn : Nat) : Fresh sess (ReturnConnection conn sess) :=
  releaseShare_fresh hs hf fun s hs' hf' => by simp [hs', hf']

theorem DiscardConnection_fresh (conn : Nat) : Fresh sess (DiscardConnection conn sess) :=
  releaseShare_fresh hs hf fun _ _ _ => rfl

end fresh

end IRODSSession

namespace Holders

open IRODSSession

theorem step_bounded {maxCap maxIdle : Nat} {e : Nat → Nat} {w w' : Holders} {c : SessionCall}
    (hI : w.Inv e) (hb : w.sess.connectionPool.Bounded maxCap maxIdle) (h : w.step c = some w') :
    w'.sess.connectionPool.Bounded maxCap maxIdle := by
  cases c with
  | acquire a o =>
    cases Option.some.inj h
    rw [(AcquireConnection_frame a o w.sess).1]
    exact tryConnectionFromPool_bounded a hb
  | acquireMulti number answers o fuel =>
    obtain ⟨⟨conns, s⟩, hm, rfl⟩ := Option.map_eq_some'.mp h
    exact AcquireConnectionsMulti_bounded hb hm
  | returnConnection conn =>
    simp only [step] at h
    split_ifs at h
    cases Option.some.inj h
    exact ReturnConnection_bounded conn hI.1 hb
  | discardConnection conn =>
    simp only [step] at h
    split_ifs at h
    cases Option.some.inj h
    exact DiscardConnection_bounded conn hb
  | socketFails conn =>
    cases Option.some.inj h
    exact hb

/-- Every session `NewIRODSSession` returns keeps at most `max_cap` connections open and `max_idle`
idle in every run of calls from its holders. -/
theorem NewIRODSSession_keeps_pool_caps {clientUser : String} {startNewTransaction : Bool}
    {pool : ConnectionPool} {a : ServerAnswer} {sess : IRODSSession} {cs : List SessionCall}
    {w : Holders} (hp : pool.WF) (ho : pool.outstanding = [])
    (hb : pool.Bounded pool.maxCap pool.maxIdle)
    (h : NewIRODSSession clientUser startNewTransaction pool a = .ok sess)
    (hr : (⟨sess, []⟩ : Holders).run cs = some w) :
    ConnectionTotal w.sess ≤ pool.maxCap ∧ w.sess.connectionPool.idle.length ≤ pool.maxIdle := by
  obtain ⟨hI, hs, hb', -⟩ := NewIRODSSession_spec hp ho hb h
  have hw : Inv (fun _ => 0) ⟨sess, []⟩ := ⟨hI, fun x => by simp [hs]⟩
  have := run_invariant (fun _ => True)
    (fun w => w.Inv (fun _ => 0) ∧ w.sess.connectionPool.Bounded pool.maxCap pool.maxIdle)
    (fun _ _ _ _ hw h => ⟨step_inv hw.1 h, step_bounded hw.1 hw.2 h⟩) cs (fun _ _ => trivial)
    ⟨hw, hb'⟩ hr
  exact ⟨this.2.open_le, this.2.idle_le⟩

/-- A pool of three with two connections idle, whose test rollback fails; then two acquisitions
and a return. -/
theorem NewIRODSSession_keeps_pool_caps_after_failed_probe : ∃ sess w,
    (⟨[0, 1], [], 3, 2, 2⟩ : ConnectionPool).WF ∧
    (⟨[0, 1], [], 3, 2, 2⟩ : ConnectionPool).outstanding = [] ∧
    (⟨[0, 1], [], 3, 2, 2⟩ : ConnectionPool).Bounded 3 2 ∧
    NewIRODSSession "user" true ⟨[0, 1], [], 3, 2, 2⟩ ⟨true, false⟩ = .ok sess ∧
    (⟨sess, []⟩ : Holders).run [.acquire ⟨true, true⟩ .inOrder, .acquire ⟨true, true⟩ .inOrder,
      .returnConnection 2] = some w ∧
    ConnectionTotal w.sess ≤ 3 ∧ w.sess.connectionPool.idle.length ≤ 2 := by
  have hp : (⟨[0, 1], [], 3, 2, 2⟩ : ConnectionPool).WF := ⟨by decide, by decide⟩
  have hb : (⟨[0, 1], [], 3, 2, 2⟩ : ConnectionPool).Bounded 3 2 := ⟨rfl, rfl, by decide, by decide⟩
  obtain ⟨sess, h⟩ : ∃ sess, NewIRODSSession "user" true ⟨[0, 1], [], 3, 2, 2⟩ ⟨true, false⟩ =
    .ok sess := ⟨_, rfl⟩
  obtain ⟨w, hr⟩ : ∃ w, (⟨sess, []⟩ : Holders).run [.acquire ⟨true, true⟩ .inOrder,
      .acquire ⟨true, true⟩ .inOrder, .returnConnection 2] = some w := by
    cases h; exact ⟨_, rfl⟩
  exact ⟨sess, w, hp, rfl, hb, h, hr, NewIRODSSession_keeps_pool_caps hp rfl hb h hr⟩

theorem step_fresh {w w' : Holders} {c : SessionCall} (hs : w.sess.startNewTransaction = true)
    (hf : w.sess.poormansRollbackFail = true) (h : w.step c = some w') : Fresh w.sess w'.sess := by
  cases c with
  | acquire a o =>
    cases Option.some.inj h
    exact AcquireConnection_fresh hs hf a o
  | acquireMulti number answers o fuel =>
    obtain ⟨⟨conns, s⟩, hm, rfl⟩ := Option.map_eq_some'.mp h
    exact AcquireConnectionsMulti_fresh hs hf hm
  | returnConnection conn =>
    simp only [step] at h
    split_ifs at h
    cases Option.some.inj h
    exact ReturnConnection_fresh hs hf conn
  | discardConnection conn =>
    simp only [step] at h
    split_ifs at h
    cases Option.some.inj h
    exact DiscardConnection_fresh hs hf conn
  | socketFails conn =>
    cases Option.some.inj h
    exact ⟨rfl, rfl, List.Sublist.refl _, le_rfl, fun _ h => .inl h⟩

/-- Once a session's rollback has failed, in every later run the flag stays, the idle connections
only go, and no connection idle then is shared again. -/
theorem rollback_failure_never_reuses_idle {w w' : Holders} {cs : List SessionCall}
    (hI : w.sess.Inv) (hs : w.sess.startNewTransaction = true)
    (hf : w.sess.poormansRollbackFail = true) (h : w.run cs = some w') :
    w'.sess.poormansRollbackFail = true ∧
      w'.sess.connectionPool.idle.Sublist w.sess.connectionPool.idle ∧
      ∀ c ∈ w.sess.connectionPool.idle, c ∉ w'.sess.sharedConnections := by
  have hF : Fresh w.sess w'.sess := run_invariant (fun _ => True) (fun w' => Fresh w.sess w'.sess)
    (fun _ _ _ _ hF h => hF.trans (step_fresh (hF.1.trans hs) (hF.2.trans hf) h)) cs
    (fun _ _ => trivial) (.refl _) h
  refine ⟨hF.2.trans hf, hF.idle, fun c hc hc' => ?_⟩
  rcases hF.shared c hc' with h | h
  · exact hI.not_idle h hc
  · exact absurd (hI.pool.lt_next c (List.mem_append_left _ hc)) (not_lt.mpr h)

/-- The test rollback fails; later acquisitions discard pooled connection 1 and create 2, then 3. -/
theorem rollback_failure_never_reuses_idle_after_failed_probe : ∃ sess w,
    NewIRODSSession "user" true ⟨[0, 1], [], 3, 2, 2⟩ ⟨true, false⟩ = .ok sess ∧ sess.Inv ∧
    sess.startNewTransaction = true ∧ sess.poormansRollbackFail = true ∧
    (⟨sess, []⟩ : Holders).run [.acquire ⟨true, true⟩ .inOrder, .returnConnection 2,
      .acquire ⟨true, true⟩ .inOrder] = some w ∧
    w.sess.poormansRollbackFail = true ∧ w.sess.connectionPool.idle.Sublist sess.connectionPool.idle ∧
    ∀ c ∈ sess.connectionPool.idle, c ∉ w.sess.sharedConnections := by
  obtain ⟨sess, h⟩ : ∃ sess, NewIRODSSession "user" true ⟨[0, 1], [], 3, 2, 2⟩ ⟨true, false⟩ =
    .ok sess := ⟨_, rfl⟩
  have hI := (NewIRODSSession_spec ⟨by decide, by decide⟩ rfl ⟨rfl, rfl, by decide, by decide⟩ h).1
  obtain ⟨w, hr⟩ : ∃ w, (⟨sess, []⟩ : Holders).run [.acquire ⟨true, true⟩ .inOrder,
      .returnConnection 2, .acquire ⟨true, true⟩ .inOrder] = some w := by
    cases h; exact ⟨_, rfl⟩
  have hs : sess.startNewTransaction = true := by cases h; rfl
  have hf : sess.poormansRollbackFail = true := by cases h; rfl
  exact ⟨sess, w, h, hI, hs, hf, hr, @rollback_failure_never_reuses_idle ⟨sess, []⟩ w _ hI hs hf hr⟩

end Holders

end IrodsClient
