import Mathlib.Data.List.AList
import IrodsClient.Session.Pool

/-! `IRODSSession`: the share counts over the pool's connections, and the calls that hand
connections out and take them back, each one function of the session under `sess.mutex`. -/
namespace IrodsClient

/-- The number of holders `sharedConnections` records for `conn`; zero when it is not a key. -/
def shareCountOf (m : AList (fun _ : Nat => Nat)) (conn : Nat) : Nat := (m.lookup conn).getD 0

@[simp] theorem shareCountOf_insert (m : AList (fun _ : Nat => Nat)) (c n x : Nat) :
    shareCountOf (m.insert c n) x = if x = c then n else shareCountOf m x := by
  unfold shareCountOf
  split_ifs with h
  · subst h; simp [AList.lookup_insert]
  · simp [AList.lookup_insert_ne h]

@[simp] theorem shareCountOf_erase (m : AList (fun _ : Nat => Nat)) (c x : Nat) :
    shareCountOf (m.erase c) x = if x = c then 0 else shareCountOf m x := by
  unfold shareCountOf
  split_ifs with h
  · subst h; simp [AList.lookup_erase]
  · simp [AList.lookup_erase_ne h]

theorem shareCountOf_of_not_mem {m : AList (fun _ : Nat => Nat)} {c : Nat} (h : c ∉ m) :
    shareCountOf m c = 0 := by
  simp [shareCountOf, AList.lookup_eq_none.mpr h]

theorem shareCountOf_insert_succ (m : AList (fun _ : Nat => Nat)) (c x : Nat) :
    shareCountOf (m.insert c (shareCountOf m c + 1)) x = shareCountOf m x + [c].count x := by
  by_cases h : x = c
  · subst h; simp
  · simp [h, Ne.symm h]

@[simp] theorem shareCountOf_empty (c : Nat) : shareCountOf ∅ c = 0 :=
  shareCountOf_of_not_mem (AList.not_mem_empty c)

/-- `IRODSSession`: the pool, the share counts, the transaction flags and the pool-failure metric;
the connections' socket-failed flags are kept as the list of failed connections. -/
structure IRODSSession where
  connectionPool : ConnectionPool
  sharedConnections : AList (fun _ : Nat => Nat)
  startNewTransaction : Bool
  poormansRollbackFail : Bool
  connectionPoolFailures : Nat
  socketFailed : List Nat

/-- What the server does in one `getConnectionFromPool`: whether a connection the pool creates
connects, and whether `PoorMansRollback` succeeds. -/
structure ServerAnswer where
  connect : Bool
  rollback : Bool
  deriving DecidableEq, Repr

/-- The orders in which Go's `range` visits a map's keys: any permutation of them, a new one at
each range. -/
structure MapOrder where
  order : Nat → List Nat → List Nat
  perm : ∀ k l, (order k l).Perm l

/-- Every range visits the keys in the map's own order. -/
def MapOrder.inOrder : MapOrder := ⟨fun _ l => l, fun _ l => List.Perm.refl l⟩

namespace IRODSSession

/-- `put to share`: one more holder of `conn`, the first if it was not shared. -/
def putToShare (conn : Nat) (m : AList (fun _ : Nat => Nat)) : AList (fun _ : Nat => Nat) :=
  match m.lookup conn with
  | some shares => m.insert conn (shares + 1)
  | none => m.insert conn 1

theorem putToShare_eq (conn : Nat) (m : AList (fun _ : Nat => Nat)) :
    putToShare conn m = m.insert conn (shareCountOf m conn + 1) := by
  unfold putToShare shareCountOf
  cases m.lookup conn <;> rfl

/-- The fallback of `getConnectionFromPool`: discard `conn` and create a new connection. -/
def discardAndGetNew (a : ServerAnswer) (conn : Nat) (sess : IRODSSession) :
    Option Nat × IRODSSession :=
  let pool := sess.connectionPool.Discard conn
  match pool.GetNew a.connect with
  | some (c, pool) => (some c, { sess with connectionPool := pool })
  | none => (none, { sess with connectionPool := pool })

/-- `getConnectionFromPool`: a connection from the pool; an old one is refreshed by a poor man's
rollback, or replaced by a new one once a rollback has failed. `none` is the error. -/
def getConnectionFromPool (a : ServerAnswer) (sess : IRODSSession) : Option Nat × IRODSSession :=
  match sess.connectionPool.Get a.connect with
  | none => (none, sess)
  | some ((conn, isNewConn), pool) =>
    let sess := { sess with connectionPool := pool }
    if sess.startNewTransaction && !isNewConn then
      if sess.poormansRollbackFail then discardAndGetNew a conn sess
      else if a.rollback then (some conn, sess)
      else discardAndGetNew a conn { sess with poormansRollbackFail := true }
    else (some conn, sess)

/-- The pool step both acquisitions begin with, `none` when the pool has nothing available. -/
def tryConnectionFromPool (a : ServerAnswer) (sess : IRODSSession) : Option Nat × IRODSSession :=
  if sess.connectionPool.AvailableConnections > 0 then getConnectionFromPool a sess
  else (none, sess)

/-- The scan of `AcquireConnection` for the shared connection with the fewest holders, over the
keys in the range's order; it stops at a count of 1. -/
def minShareScan (m : AList (fun _ : Nat => Nat)) :
    List Nat → Nat → Option Nat → Nat × Option Nat
  | [], minShare, minShareConn => (minShare, minShareConn)
  | sharedConn :: rest, minShare, minShareConn =>
    let shareCount := shareCountOf m sharedConn
    if minShare = 0 ∨ shareCount < minShare then
      if shareCount = 1 then (shareCount, some sharedConn)
      else minShareScan m rest shareCount (some sharedConn)
    else if minShare = 1 then (minShare, minShareConn)
    else minShareScan m rest minShare minShareConn

/-- `AcquireConnection`: a connection from the pool, else the shared one with the fewest holders,
which gets one more. -/
def AcquireConnection (a : ServerAnswer) (o : MapOrder) (sess : IRODSSession) :
    Except String Nat × IRODSSession :=
  match tryConnectionFromPool a sess with
  | (some conn, sess) =>
    (.ok conn, { sess with sharedConnections := putToShare conn sess.sharedConnections })
  | (none, sess) =>
    match minShareScan sess.sharedConnections (o.order 0 sess.sharedConnections.keys) 0 none with
    | (_, none) => (.error "failed to get a shared connection",
        { sess with connectionPoolFailures := sess.connectionPoolFailures + 1 })
    | (minShare, some minShareConn) => (.ok minShareConn,
        { sess with sharedConnections := sess.sharedConnections.insert minShareConn (minShare + 1) })

/-- What `ReturnConnection` and `DiscardConnection` share: one holder fewer, and at the last one
the connection leaves the map and `release` gives it to the pool. -/
def releaseShare (release : IRODSSession → ConnectionPool) (conn : Nat) (sess : IRODSSession) :
    IRODSSession :=
  match sess.sharedConnections.lookup conn with
  | none => sess
  | some share =>
    if share - 1 ≤ 0 then
      let sess := { sess with sharedConnections := sess.sharedConnections.erase conn }
      { sess with connectionPool := release sess }
    else { sess with sharedConnections := sess.sharedConnections.insert conn (share - 1) }

/-- `ReturnConnection`: at the last holder the connection goes back to the pool, or is discarded
when a poor man's rollback has failed. -/
def ReturnConnection (conn : Nat) : IRODSSession → IRODSSession :=
  releaseShare (fun sess =>
    if sess.startNewTransaction && sess.poormansRollbackFail then
      sess.connectionPool.Discard conn
    else sess.connectionPool.Return (decide (conn ∈ sess.socketFailed)) conn) conn

/-- `DiscardConnection`: at the last holder the connection is discarded. -/
def DiscardConnection (conn : Nat) : IRODSSession → IRODSSession :=
  releaseShare (fun sess => sess.connectionPool.Discard conn) conn

/-! ## The session invariant -/

/-- The pool is well formed, the share map's keys are exactly the connections the pool has lent
out, and each has a holder. -/
structure Inv (sess : IRODSSession) : Prop where
  pool : sess.connectionPool.WF
  outstanding : ∀ c, c ∈ sess.connectionPool.outstanding ↔ c ∈ sess.sharedConnections
  pos : ∀ c ∈ sess.sharedConnections, 0 < shareCountOf sess.sharedConnections c

theorem Inv.mem_iff {sess : IRODSSession} (hI : sess.Inv) (c : Nat) :
    c ∈ sess.sharedConnections ↔ 0 < shareCountOf sess.sharedConnections c := by
  by_cases h : c ∈ sess.sharedConnections
  · exact iff_of_true h (hI.pos c h)
  · simp [h, shareCountOf_of_not_mem h]

theorem Inv.of_le {sess : IRODSSession} (hI : sess.Inv) {m : AList (fun _ : Nat => Nat)}
    (hkeys : ∀ c, c ∈ m ↔ c ∈ sess.sharedConnections)
    (hle : ∀ c, shareCountOf sess.sharedConnections c ≤ shareCountOf m c) :
    { sess with sharedConnections := m }.Inv :=
  ⟨hI.pool, fun c => (hI.outstanding c).trans (hkeys c).symm,
    fun c hc => Nat.lt_of_lt_of_le (hI.pos c ((hkeys c).mp hc)) (hle c)⟩

/-- The session `NewIRODSSession` builds over `pool`, before its test connection. -/
def new (pool : ConnectionPool) (startNewTransaction : Bool) : IRODSSession :=
  ⟨pool, ∅, startNewTransaction, false, 0, []⟩

theorem new_inv {pool : ConnectionPool} (hi : pool.idle = []) (ho : pool.outstanding = [])
    (startNewTransaction : Bool) : (new pool startNewTransaction).Inv :=
  ⟨⟨by simp [new, hi, ho], by simp [new, hi, ho]⟩, by simp [new, ho, AList.not_mem_empty],
    fun c hc => absurd hc (AList.not_mem_empty c)⟩

theorem Inv.not_idle {sess : IRODSSession} (hI : sess.Inv) {c : Nat}
    (h : c ∈ sess.sharedConnections) : c ∉ sess.connectionPool.idle := fun hi =>
  List.disjoint_of_nodup_append hI.pool.nodup hi ((hI.outstanding c).mpr h)

/-! ## Taking a connection from the pool -/

/-- What a pool step can do: change the pool and the rollback flag, keeping the pool well formed,
and lend out the connection it returns and nothing else. -/
def PoolStep (sess : IRODSSession) (r : Option Nat × IRODSSession) : Prop :=
  ∃ pool flag, r.2 = { sess with connectionPool := pool, poormansRollbackFail := flag } ∧
    pool.WF ∧ pool.outstanding = r.1.toList ++ sess.connectionPool.outstanding

theorem discardAndGetNew_spec (a : ServerAnswer) (conn : Nat) {sess : IRODSSession}
    (hp : sess.connectionPool.WF) : ∃ pool,
      (discardAndGetNew a conn sess).2 = { sess with connectionPool := pool } ∧ pool.WF ∧
      pool.outstanding = (discardAndGetNew a conn sess).1.toList ++
        sess.connectionPool.outstanding.erase conn := by
  obtain ⟨hw, -, hout⟩ := ConnectionPool.Discard_wf hp conn
  unfold discardAndGetNew
  dsimp only
  rcases hg : (sess.connectionPool.Discard conn).GetNew a.connect with _ | ⟨c, pool⟩
  · exact ⟨_, rfl, hw, hout⟩
  · obtain ⟨hw', -, -, -, hout'⟩ := ConnectionPool.GetNew_wf hw hg
    exact ⟨pool, rfl, hw', by rw [hout', hout]; rfl⟩

theorem getConnectionFromPool_spec (a : ServerAnswer) {sess : IRODSSession}
    (hp : sess.connectionPool.WF) : PoolStep sess (getConnectionFromPool a sess) := by
  unfold getConnectionFromPool
  rcases hg : sess.connectionPool.Get a.connect with _ | ⟨⟨conn, isNew⟩, pool⟩
  · exact ⟨_, _, rfl, hp, rfl⟩
  obtain ⟨hw, -, -, -, hout⟩ := ConnectionPool.Get_wf hp hg
  have hd : ∀ flag, PoolStep sess (discardAndGetNew a conn
      { sess with connectionPool := pool, poormansRollbackFail := flag }) := fun flag => by
    obtain ⟨pool', he, hw', hout'⟩ := @discardAndGetNew_spec a conn
      { sess with connectionPool := pool, poormansRollbackFail := flag } hw
    refine ⟨pool', flag, he, hw', ?_⟩
    rw [hout', hout, List.erase_cons_head]
  have hkeep : PoolStep sess (some conn, { sess with connectionPool := pool }) :=
    ⟨pool, _, rfl, hw, hout⟩
  dsimp only
  split_ifs <;> first | exact hkeep | exact hd _

theorem tryConnectionFromPool_spec (a : ServerAnswer) {sess : IRODSSession}
    (hp : sess.connectionPool.WF) : PoolStep sess (tryConnectionFromPool a sess) := by
  unfold tryConnectionFromPool
  split_ifs
  · exact getConnectionFromPool_spec a hp
  · exact ⟨_, _, rfl, hp, rfl⟩

theorem PoolStep.inv {sess s : IRODSSession} {r : Option Nat} (hI : sess.Inv)
    (h : PoolStep sess (r, s)) :
    { s with sharedConnections := r.elim s.sharedConnections fun c =>
        putToShare c s.sharedConnections }.Inv := by
  obtain ⟨pool, flag, rfl, hw, hout⟩ := h
  refine ⟨hw, fun c => ?_, fun c hc => ?_⟩
  · cases r <;> simp [hout, putToShare_eq, hI.outstanding, or_comm]
  · cases r <;> simp [putToShare_eq] at hc ⊢
    · exact hI.pos c hc
    · split_ifs <;> simp_all [hI.pos]

/-! ## The effect of each call on the share counts -/

theorem minShareScan_spec (m : AList (fun _ : Nat => Nat)) : ∀ (keys : List Nat) (minShare : Nat)
    (minShareConn : Option Nat) (ms c : Nat),
    minShareScan m keys minShare minShareConn = (ms, some c) →
      (minShareConn = some c ∧ ms = minShare) ∨ (c ∈ keys ∧ ms = shareCountOf m c)
  | [], _, _, _, _, h => .inl (by simp only [minShareScan, Prod.mk.injEq] at h; exact ⟨h.2, h.1.symm⟩)
  | k :: rest, minShare, minShareConn, ms, c, h => by
    simp only [minShareScan] at h
    split_ifs at h
    · simp only [Prod.mk.injEq, Option.some.injEq] at h
      exact .inr ⟨h.2 ▸ List.mem_cons_self _ _, h.2 ▸ h.1.symm⟩
    · rcases minShareScan_spec m rest _ _ ms c h with ⟨he, hms⟩ | ⟨hc, hms⟩
      · cases he; exact .inr ⟨List.mem_cons_self _ _, hms⟩
      · exact .inr ⟨List.mem_cons_of_mem _ hc, hms⟩
    · simp only [Prod.mk.injEq] at h; exact .inl ⟨h.2, h.1.symm⟩
    · rcases minShareScan_spec m rest _ _ ms c h with h' | ⟨hc, hms⟩
      · exact .inl h'
      · exact .inr ⟨List.mem_cons_of_mem _ hc, hms⟩

/-- `AcquireConnection` keeps the invariant and gives its connection exactly one more holder. -/
theorem AcquireConnection_spec (a : ServerAnswer) (o : MapOrder) {sess : IRODSSession}
    (hI : sess.Inv) : (AcquireConnection a o sess).2.Inv ∧
      (AcquireConnection a o sess).2.socketFailed = sess.socketFailed ∧
      ∀ x, shareCountOf (AcquireConnection a o sess).2.sharedConnections x =
        shareCountOf sess.sharedConnections x + (AcquireConnection a o sess).1.toOption.toList.count x := by
  have hp := tryConnectionFromPool_spec a hI.pool
  unfold AcquireConnection
  rcases ht : tryConnectionFromPool a sess with ⟨_ | conn, s⟩
  · rw [ht] at hp
    obtain ⟨pool, flag, rfl, hw, hout⟩ := hp
    have hI' : { sess with connectionPool := pool, poormansRollbackFail := flag }.Inv :=
      by simpa using PoolStep.inv hI ⟨pool, flag, rfl, hw, hout⟩
    dsimp only
    rcases hm : minShareScan sess.sharedConnections
      (o.order 0 sess.sharedConnections.keys) 0 none with ⟨ms, _ | c⟩ <;> dsimp only
    · exact ⟨⟨hI'.pool, hI'.outstanding, hI'.pos⟩, rfl, by simp [Except.toOption]⟩
    · obtain ⟨hc, rfl⟩ := (minShareScan_spec _ _ _ _ _ _ hm).resolve_left (by simp)
      have hc : c ∈ sess.sharedConnections :=
        AList.mem_keys.mpr ((o.perm 0 _).subset hc)
      refine ⟨hI'.of_le (fun x => ?_) (fun x => ?_), rfl, shareCountOf_insert_succ _ _⟩
      · rw [AList.mem_insert]
        exact ⟨fun h => h.elim (fun e => e ▸ hc) id, Or.inr⟩
      · rw [shareCountOf_insert_succ]
        exact Nat.le_add_right _ _
  · rw [ht] at hp
    obtain ⟨pool, flag, rfl, hw, hout⟩ := hp
    exact ⟨PoolStep.inv hI ⟨pool, flag, rfl, hw, hout⟩, rfl, by
      simpa [putToShare_eq] using shareCountOf_insert_succ sess.sharedConnections conn⟩

theorem tryConnectionFromPool_frame (a : ServerAnswer) (sess : IRODSSession) :
    (tryConnectionFromPool a sess).2.sharedConnections = sess.sharedConnections ∧
      (tryConnectionFromPool a sess).2.connectionPoolFailures = sess.connectionPoolFailures := by
  have hd : ∀ conn (s : IRODSSession), (discardAndGetNew a conn s).2.sharedConnections =
      s.sharedConnections ∧ (discardAndGetNew a conn s).2.connectionPoolFailures =
        s.connectionPoolFailures := fun conn s => by
    unfold discardAndGetNew
    dsimp only
    split <;> exact ⟨rfl, rfl⟩
  unfold tryConnectionFromPool getConnectionFromPool
  rcases sess.connectionPool.Get a.connect with _ | ⟨⟨conn, isNew⟩, pool⟩ <;> dsimp only <;>
    split_ifs <;> first | exact ⟨rfl, rfl⟩ | exact hd _ _

theorem minShareScan_isSome (m : AList (fun _ : Nat => Nat)) :
    ∀ (keys : List Nat) (minShare c : Nat), (minShareScan m keys minShare (some c)).2.isSome
  | [], _, _ => rfl
  | k :: rest, minShare, c => by
    simp only [minShareScan]
    split_ifs
    exacts [rfl, minShareScan_isSome m rest _ _, rfl, minShareScan_isSome m rest _ _]

theorem minShareScan_eq_none (m : AList (fun _ : Nat => Nat)) (keys : List Nat) :
    (minShareScan m keys 0 none).2 = none ↔ keys = [] := by
  cases keys with
  | nil => simp [minShareScan]
  | cons k rest =>
    simp only [minShareScan, true_or, if_true, reduceCtorEq, iff_false]
    split_ifs
    · simp
    · exact Option.isSome_iff_ne_none.mp (minShareScan_isSome m rest _ _)

theorem minShareScan_le (m : AList (fun _ : Nat => Nat)) : ∀ (keys : List Nat) (minShare : Nat)
    (minShareConn : Option Nat), (∀ k ∈ keys, 1 ≤ shareCountOf m k) →
      (∀ k ∈ keys, (minShareScan m keys minShare minShareConn).1 ≤ shareCountOf m k) ∧
      (minShare ≠ 0 → (minShareScan m keys minShare minShareConn).1 ≤ minShare)
  | [], _, _, _ => by simp [minShareScan]
  | k :: rest, minShare, minShareConn, hpos => by
    have hk := hpos k (List.mem_cons_self _ _)
    have hrest := fun k' hk' => hpos k' (List.mem_cons_of_mem _ hk')
    simp only [minShareScan, List.forall_mem_cons]
    split_ifs with h1 h2 h3
    · exact ⟨⟨le_rfl, fun k' hk' => h2 ▸ hrest k' hk'⟩, by omega⟩
    · obtain ⟨ih, ih'⟩ := minShareScan_le m rest (shareCountOf m k) (some k) hrest
      have := ih' (by omega)
      exact ⟨⟨this, ih⟩, fun hne => this.trans (h1.resolve_left hne).le⟩
    · exact ⟨⟨h3 ▸ hk, fun k' hk' => h3 ▸ hrest k' hk'⟩, fun _ => le_rfl⟩
    · obtain ⟨ih, ih'⟩ := minShareScan_le m rest minShare minShareConn hrest
      have := ih' (by omega)
      exact ⟨⟨by omega, ih⟩, fun _ => this⟩

/-- Sharing, `AcquireConnection` fails exactly when nothing is shared, and otherwise gives one more
holder to a connection with the fewest, in any map order, leaving the rest as it was. -/
theorem AcquireConnection_shares_least_held (a : ServerAnswer) (o : MapOrder) {sess : IRODSSession}
    (hfall : (tryConnectionFromPool a sess).1 = none)
    (hpos : ∀ c ∈ sess.sharedConnections, 1 ≤ shareCountOf sess.sharedConnections c) :
    ((AcquireConnection a o sess).1 = .error "failed to get a shared connection" ↔
        sess.sharedConnections.keys = []) ∧
    (AcquireConnection a o sess).2.connectionPoolFailures =
        sess.connectionPoolFailures + (if sess.sharedConnections.keys = [] then 1 else 0) ∧
    ∀ c, (AcquireConnection a o sess).1 = .ok c → c ∈ sess.sharedConnections ∧
      (∀ x ∈ sess.sharedConnections,
        shareCountOf sess.sharedConnections c ≤ shareCountOf sess.sharedConnections x) ∧
      ∀ x, (AcquireConnection a o sess).2.sharedConnections.lookup x =
        if x = c then some (shareCountOf sess.sharedConnections c + 1)
        else sess.sharedConnections.lookup x := by
  obtain ⟨hshared, hfail⟩ := tryConnectionFromPool_frame a sess
  have hperm := o.perm 0 sess.sharedConnections.keys
  have hkeys : (minShareScan sess.sharedConnections (o.order 0 sess.sharedConnections.keys) 0 none).2 =
      none ↔ sess.sharedConnections.keys = [] :=
    (minShareScan_eq_none _ _).trans (by rw [← List.length_eq_zero, hperm.length_eq, List.length_eq_zero])
  unfold AcquireConnection
  rcases ht : tryConnectionFromPool a sess with ⟨_ | conn, s⟩
  · rw [ht] at hshared hfail
    dsimp only at hshared hfail ⊢
    rw [hshared, hfail]
    rcases hm : minShareScan sess.sharedConnections (o.order 0 sess.sharedConnections.keys) 0 none
      with ⟨ms, _ | c⟩ <;> dsimp only
    · simp [hkeys.mp (by rw [hm])]
    · have hk : sess.sharedConnections.keys ≠ [] := fun h => by
        have := hkeys.mpr h
        rw [hm] at this
        cases this
      obtain ⟨hc, rfl⟩ := (minShareScan_spec _ _ _ _ _ _ hm).resolve_left (by simp)
      have hle := (minShareScan_le sess.sharedConnections _ 0 none fun k hk =>
        hpos k (AList.mem_keys.mp (hperm.subset hk))).1
      rw [hm] at hle
      refine ⟨by simp [hk], by simp [hk], fun c' hc' => ?_⟩
      cases hc'
      refine ⟨AList.mem_keys.mp (hperm.subset hc),
        fun x hx => hle x (hperm.mem_iff.mpr (AList.mem_keys.mpr hx)), fun x => ?_⟩
      split_ifs with h
      · subst h; simp [AList.lookup_insert]
      · simp [AList.lookup_insert_ne h]
  · simp [ht] at hfall

theorem AcquireConnection_shares_least_held_two_shared :
    (tryConnectionFromPool ⟨true, true⟩ ⟨⟨[], [3, 5], 2, 0, 6⟩,
      ((∅ : AList fun _ : Nat => Nat).insert 3 2).insert 5 1, false, false, 0, []⟩).1 = none ∧
    (∀ c ∈ ((∅ : AList fun _ : Nat => Nat).insert 3 2).insert 5 1,
      1 ≤ shareCountOf (((∅ : AList fun _ : Nat => Nat).insert 3 2).insert 5 1) c) ∧
    (AcquireConnection ⟨true, true⟩ MapOrder.inOrder ⟨⟨[], [3, 5], 2, 0, 6⟩,
      ((∅ : AList fun _ : Nat => Nat).insert 3 2).insert 5 1, false, false, 0, []⟩).1 = .ok 5 ∧
    ∀ x ∈ ((∅ : AList fun _ : Nat => Nat).insert 3 2).insert 5 1,
      shareCountOf (((∅ : AList fun _ : Nat => Nat).insert 3 2).insert 5 1) 5 ≤
        shareCountOf (((∅ : AList fun _ : Nat => Nat).insert 3 2).insert 5 1) x := by
  have hpos : ∀ c ∈ ((∅ : AList fun _ : Nat => Nat).insert 3 2).insert 5 1,
      1 ≤ shareCountOf (((∅ : AList fun _ : Nat => Nat).insert 3 2).insert 5 1) c := by
    intro c hc
    have hc' : c ∈ [5, 3] := AList.mem_keys.mpr hc
    simp only [List.mem_cons, List.mem_singleton, List.not_mem_nil, or_false] at hc'
    rcases hc' with rfl | rfl <;> decide
  have hok : (AcquireConnection ⟨true, true⟩ MapOrder.inOrder ⟨⟨[], [3, 5], 2, 0, 6⟩,
      ((∅ : AList fun _ : Nat => Nat).insert 3 2).insert 5 1, false, false, 0, []⟩).1 = .ok 5 :=
    rfl
  exact ⟨by decide, hpos, hok,
    ((AcquireConnection_shares_least_held ⟨true, true⟩ MapOrder.inOrder (by decide) hpos).2.2 5
      hok).2.1⟩

/-- What `release` must do with the last holder's connection: take it off the lent-out ones,
keeping the pool well formed. -/
def GivesBack (conn : Nat) (release : IRODSSession → ConnectionPool) : Prop :=
  ∀ sess : IRODSSession, sess.connectionPool.WF → conn ∈ sess.connectionPool.outstanding →
    (release sess).WF ∧ (release sess).outstanding = sess.connectionPool.outstanding.erase conn

/-- `releaseShare` keeps the invariant and takes one holder from `conn`. -/
theorem releaseShare_spec {release : IRODSSession → ConnectionPool} {conn : Nat}
    (hrel : GivesBack conn release) {sess : IRODSSession} (hI : sess.Inv) :
    (releaseShare release conn sess).Inv ∧
      (releaseShare release conn sess).socketFailed = sess.socketFailed ∧
      ∀ x, shareCountOf (releaseShare release conn sess).sharedConnections x =
        shareCountOf sess.sharedConnections x - [conn].count x := by
  have hcount : ∀ n, sess.sharedConnections.lookup conn = some n →
      shareCountOf sess.sharedConnections conn = n := fun n h => by simp [shareCountOf, h]
  unfold releaseShare
  rcases hl : sess.sharedConnections.lookup conn with _ | share
  · have h0 : shareCountOf sess.sharedConnections conn = 0 := by simp [shareCountOf, hl]
    refine ⟨hI, rfl, fun x => ?_⟩
    by_cases h : x = conn
    · subst h; simp [h0]
    · simp [List.count_singleton, Ne.symm h]
  have hmem : conn ∈ sess.sharedConnections := AList.lookup_isSome.mp (by simp [hl])
  have hpos := hcount share hl ▸ hI.pos conn hmem
  dsimp only
  split_ifs with h1
  · obtain ⟨hw, hout⟩ := hrel { sess with sharedConnections := sess.sharedConnections.erase conn }
      hI.pool ((hI.outstanding conn).mpr hmem)
    refine ⟨⟨hw, fun c => ?_, fun c hc => ?_⟩, rfl, fun x => ?_⟩
    · rw [hout, hI.pool.nodup.of_append_right.mem_erase_iff, AList.mem_erase, hI.outstanding]
    · have hc' := AList.mem_erase.mp hc
      simpa [hc'.1] using hI.pos c hc'.2
    · by_cases h : x = conn
      · subst h; simp [hcount share hl]; omega
      · simp [h, Ne.symm h]
  · refine ⟨⟨hI.pool, fun c => ?_, fun c hc => ?_⟩, rfl, fun x => ?_⟩
    · rw [AList.mem_insert, hI.outstanding]
      exact ⟨Or.inr, fun h => h.elim (fun e => e ▸ hmem) id⟩
    · simp only [shareCountOf_insert]
      split_ifs with h
      · omega
      · exact hI.pos c ((AList.mem_insert _).mp hc |>.resolve_left h)
    · by_cases h : x = conn
      · subst h; simp [hcount share hl]
      · simp [h, Ne.symm h]

theorem ReturnConnection_givesBack (conn : Nat) : GivesBack conn (fun sess =>
    if sess.startNewTransaction && sess.poormansRollbackFail then sess.connectionPool.Discard conn
    else sess.connectionPool.Return (decide (conn ∈ sess.socketFailed)) conn) := by
  intro sess hp hc
  dsimp only
  split_ifs
  · exact ⟨(ConnectionPool.Discard_wf hp conn).1, rfl⟩
  · exact ⟨(ConnectionPool.Return_wf hp hc _).1, (ConnectionPool.Return_wf hp hc _).2.2⟩

theorem DiscardConnection_givesBack (conn : Nat) :
    GivesBack conn (fun sess => sess.connectionPool.Discard conn) :=
  fun _ hp _ => ⟨(ConnectionPool.Discard_wf hp conn).1, rfl⟩

theorem ReturnConnection_spec (conn : Nat) {sess : IRODSSession} (hI : sess.Inv) :
    (ReturnConnection conn sess).Inv ∧
      (ReturnConnection conn sess).socketFailed = sess.socketFailed ∧
      ∀ x, shareCountOf (ReturnConnection conn sess).sharedConnections x =
        shareCountOf sess.sharedConnections x - [conn].count x :=
  releaseShare_spec (ReturnConnection_givesBack conn) hI

theorem DiscardConnection_spec (conn : Nat) {sess : IRODSSession} (hI : sess.Inv) :
    (DiscardConnection conn sess).Inv ∧
      (DiscardConnection conn sess).socketFailed = sess.socketFailed ∧
      ∀ x, shareCountOf (DiscardConnection conn sess).sharedConnections x =
        shareCountOf sess.sharedConnections x - [conn].count x :=
  releaseShare_spec (DiscardConnection_givesBack conn) hI

end IRODSSession

end IrodsClient
