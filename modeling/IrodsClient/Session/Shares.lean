import IrodsClient.Session.Multi

/-! Runs of session calls by many holders, one at a time under `sess.mutex`, with the references the
holders hold. `AcquireConnectionsMulti` can count a share that no holder holds. -/
namespace IrodsClient

open IRODSSession

/-- One call into the session, or a connection's socket failing. -/
inductive SessionCall
  | acquire (a : ServerAnswer) (o : MapOrder)
  | acquireMulti (number : Int) (answers : Nat → ServerAnswer) (o : MapOrder) (fuel : Nat)
  | returnConnection (conn : Nat)
  | discardConnection (conn : Nat)
  | socketFails (conn : Nat)

/-- `AcquireConnectionsMulti`, the one call that can hand out fewer references than it counts. -/
def SessionCall.isAcquireMulti : SessionCall → Bool
  | .acquireMulti .. => true
  | _ => false

/-- A session and the references it has handed out and its holders have not given back: one per
`AcquireConnection` result and one per element of an `AcquireConnectionsMulti` result. -/
structure Holders where
  sess : IRODSSession
  held : List Nat

namespace Holders

/-- One call. A holder gives back only a reference it holds: `none` is a call no holder can
make, or an `AcquireConnectionsMulti` still running when its fuel runs out. -/
def step (w : Holders) : SessionCall → Option Holders
  | .acquire a o =>
    some ⟨(AcquireConnection a o w.sess).2, (AcquireConnection a o w.sess).1.toOption.toList ++ w.held⟩
  | .acquireMulti number answers o fuel =>
    (AcquireConnectionsMulti number answers o fuel w.sess).map fun r => ⟨r.2, r.1 ++ w.held⟩
  | .returnConnection conn =>
    if conn ∈ w.held then some ⟨ReturnConnection conn w.sess, w.held.erase conn⟩ else none
  | .discardConnection conn =>
    if conn ∈ w.held then some ⟨DiscardConnection conn w.sess, w.held.erase conn⟩ else none
  | .socketFails conn => some ⟨{ w.sess with socketFailed := conn :: w.sess.socketFailed }, w.held⟩

/-- A run of calls; `none` once a call cannot be made. -/
def run (w : Holders) : List SessionCall → Option Holders
  | [] => some w
  | c :: cs => (w.step c).bind fun w' => w'.run cs

theorem run_append (w : Holders) (cs cs' : List SessionCall) :
    w.run (cs ++ cs') = (w.run cs).bind fun w' => w'.run cs' := by
  induction cs generalizing w with
  | nil => rfl
  | cons c cs ih =>
    show ((w.step c).bind fun w' => w'.run (cs ++ cs')) = _
    simp only [ih, run, Option.bind_assoc]

theorem run_invariant (Q : SessionCall → Prop) (P : Holders → Prop)
    (hstep : ∀ w c w', Q c → P w → w.step c = some w' → P w') :
    ∀ (cs : List SessionCall) {w w' : Holders}, (∀ c ∈ cs, Q c) → P w → w.run cs = some w' → P w'
  | [], _, _, _, hw, h => Option.some.inj h ▸ hw
  | c :: cs, w, w', hq, hw, h => by
    obtain ⟨w₁, h₁, h₂⟩ := Option.bind_eq_some.mp h
    exact run_invariant Q P hstep cs (fun c hc => hq c (List.mem_cons_of_mem _ hc))
      (hstep w c w₁ (hq c (List.mem_cons_self _ _)) hw h₁) h₂

/-- The session invariant holds, and each count covers the references held plus `e`. -/
def Inv (e : Nat → Nat) (w : Holders) : Prop :=
  w.sess.Inv ∧ ∀ x, w.held.count x + e x ≤ shareCountOf w.sess.sharedConnections x

theorem count_erase_le {held : List Nat} {conn x k n : Nat} (hm : conn ∈ held)
    (hle : held.count x + k ≤ n) :
    (held.erase conn).count x + k ≤ n - [conn].count x := by
  by_cases h : x = conn
  · subst h
    have := List.count_pos_iff.mpr hm
    simp only [List.count_erase_self, List.count_singleton_self]
    omega
  · simpa [List.count_erase_of_ne h, List.count_singleton, Ne.symm h] using hle

/-- Every call keeps the invariant: no count falls below the references held, nor its excess. -/
theorem step_inv {e : Nat → Nat} {w w' : Holders} {c : SessionCall} (hI : w.Inv e)
    (h : w.step c = some w') : w'.Inv e := by
  obtain ⟨hs, hc⟩ := hI
  cases c with
  | acquire a o =>
    obtain ⟨h1, -, h3⟩ := AcquireConnection_spec a o hs
    cases Option.some.inj h
    exact ⟨h1, fun x => by rw [h3, List.count_append]; have := hc x; omega⟩
  | acquireMulti number answers o fuel =>
    obtain ⟨⟨conns, s⟩, hm, rfl⟩ := Option.map_eq_some'.mp h
    obtain ⟨h1, -, h3, -, -, h6⟩ := AcquireConnectionsMulti_spec hs hm
    refine ⟨h1, fun x => ?_⟩
    have := hc x
    have := h6 x
    dsimp only
    rw [List.count_append, List.count_eq_of_nodup h3]
    split_ifs at * <;> omega
  | returnConnection conn =>
    simp only [step] at h
    split_ifs at h with hm
    cases Option.some.inj h
    obtain ⟨h1, -, h3⟩ := ReturnConnection_spec conn hs
    exact ⟨h1, fun x => by rw [h3]; exact count_erase_le hm (hc x)⟩
  | discardConnection conn =>
    simp only [step] at h
    split_ifs at h with hm
    cases Option.some.inj h
    obtain ⟨h1, -, h3⟩ := DiscardConnection_spec conn hs
    exact ⟨h1, fun x => by rw [h3]; exact count_erase_le hm (hc x)⟩
  | socketFails conn =>
    cases Option.some.inj h
    exact ⟨⟨hs.pool, hs.outstanding, hs.pos⟩, hc⟩

theorem run_inv {e : Nat → Nat} (cs : List SessionCall) {w w' : Holders} (hw : w.Inv e)
    (h : w.run cs = some w') : w'.Inv e :=
  run_invariant (fun _ => True) (Inv e) (fun _ _ _ _ hw h => step_inv hw h) cs
    (fun _ _ => trivial) hw h

/-- A connection counted above the references held stays shared and lent out for ever. -/
theorem Inv.shared {e : Nat → Nat} {w : Holders} (hw : w.Inv e) {x : Nat} (hx : 0 < e x) :
    x ∈ w.sess.sharedConnections ∧ x ∈ w.sess.connectionPool.outstanding := by
  have hmem := (hw.1.mem_iff x).mpr (by have := hw.2 x; omega)
  exact ⟨hmem, (hw.1.outstanding x).mpr hmem⟩

/-! ## Without `AcquireConnectionsMulti` -/

/-- The session invariant holds, and each count is the number of references held. -/
def Exact (w : Holders) : Prop :=
  w.sess.Inv ∧ ∀ x, shareCountOf w.sess.sharedConnections x = w.held.count x

theorem step_exact {w w' : Holders} {c : SessionCall} (hc : c.isAcquireMulti = false)
    (hw : w.Exact) (h : w.step c = some w') : w'.Exact := by
  obtain ⟨hs, hx⟩ := hw
  have hle : w'.Inv (fun _ => 0) := step_inv ⟨hs, fun x => by simp [hx]⟩ h
  refine ⟨hle.1, fun x => le_antisymm ?_ (by simpa using hle.2 x)⟩
  cases c with
  | acquire a o =>
    obtain ⟨-, -, h3⟩ := AcquireConnection_spec a o hs
    cases Option.some.inj h
    rw [h3, hx, List.count_append]
    omega
  | acquireMulti => cases hc
  | returnConnection conn =>
    simp only [step] at h
    split_ifs at h with hm
    cases Option.some.inj h
    rw [(ReturnConnection_spec conn hs).2.2, hx, List.count_erase, List.count_singleton]
  | discardConnection conn =>
    simp only [step] at h
    split_ifs at h with hm
    cases Option.some.inj h
    rw [(DiscardConnection_spec conn hs).2.2, hx, List.count_erase, List.count_singleton]
  | socketFails conn =>
    cases Option.some.inj h
    exact (hx x).le

/-- Without `AcquireConnectionsMulti` each count stays the number of references held, so the pool
gets a connection back exactly with its last reference. -/
theorem run_exact (cs : List SessionCall) (hcs : ∀ c ∈ cs, c.isAcquireMulti = false)
    {w w' : Holders} (hw : w.Exact) (h : w.run cs = some w') :
    w'.Exact ∧ ∀ x, (x ∈ w'.sess.sharedConnections ↔ x ∈ w'.held) ∧
      (x ∈ w'.sess.connectionPool.outstanding ↔ x ∈ w'.held) := by
  have hw' := run_invariant (fun c => c.isAcquireMulti = false) Exact
    (fun _ _ _ hc hw h => step_exact hc hw h) cs hcs hw h
  have hmem : ∀ x, x ∈ w'.sess.sharedConnections ↔ x ∈ w'.held := fun x => by
    rw [hw'.1.mem_iff, hw'.2, List.count_pos_iff]
  exact ⟨hw', fun x => ⟨hmem x, (hw'.1.outstanding x).trans (hmem x)⟩⟩

/-! ## Runs that break the bookkeeping -/

/-- `AcquireConnectionsMulti(2)` over a pool of one hands out `[0]` and counts two shares, one of
which no holder can give back. -/
theorem AcquireConnectionsMulti_leaks_a_share : ∃ w,
    (⟨new ⟨[], [], 1, 1, 0⟩ false, []⟩ : Holders).run
      [.acquireMulti 2 (fun _ => ⟨true, true⟩) .inOrder 1, .returnConnection 0] = some w ∧
    w.held = [] ∧ ∀ cs w', w.run cs = some w' →
      0 ∈ w'.sess.sharedConnections ∧ 0 ∈ w'.sess.connectionPool.outstanding := by
  obtain ⟨w, hrun, hheld, hcount⟩ : ∃ w, (⟨new ⟨[], [], 1, 1, 0⟩ false, []⟩ : Holders).run
      [.acquireMulti 2 (fun _ => ⟨true, true⟩) .inOrder 1, .returnConnection 0] = some w ∧
      w.held = [] ∧ 1 ≤ shareCountOf w.sess.sharedConnections 0 := ⟨_, rfl, rfl, by decide⟩
  refine ⟨w, hrun, hheld, fun cs w' h => ?_⟩
  have hw : w.Inv (fun x => if x = 0 then 1 else 0) :=
    ⟨(run_inv (e := fun _ => 0) _ ⟨new_inv rfl rfl false, fun x => by simp [new]⟩ hrun).1,
      fun x => by
      by_cases hx : x = 0
      · subst hx; simpa [hheld] using hcount
      · simp [hheld, hx]⟩
  exact (run_inv cs hw h).shared (by simp)

/-- With no connection available in the pool and `c` the only shared one, `AcquireConnection`
returns `c`, whatever the state of its socket. -/
theorem AcquireConnection_of_unavailable (a : ServerAnswer) (o : MapOrder) {sess : IRODSSession}
    {c : Nat} (hp : sess.connectionPool.AvailableConnections = 0)
    (hk : sess.sharedConnections.keys = [c]) : (AcquireConnection a o sess).1 = .ok c := by
  have ho : o.order 0 [c] = [c] := List.perm_singleton.mp (o.perm 0 [c])
  simp only [AcquireConnection, tryConnectionFromPool, hp, gt_iff_lt, lt_self_iff_false, if_false,
    hk, ho, minShareScan, true_or, if_true]
  split_ifs <;> rfl

/-- Tasks A and B share connection 0 of a pool of one, and its socket fails. Task A gives it back
and acquires again, as a download task does after a socket failure, and gets connection 0. -/
theorem AcquireConnection_returns_failed_socket (a : ServerAnswer) (o : MapOrder) : ∃ w,
    (⟨new ⟨[], [], 1, 1, 0⟩ false, []⟩ : Holders).run
      [.acquire ⟨true, true⟩ .inOrder, .acquire ⟨true, true⟩ .inOrder, .socketFails 0,
        .returnConnection 0] = some w ∧
    (AcquireConnection a o w.sess).1 = .ok 0 ∧ 0 ∈ w.sess.socketFailed :=
  ⟨_, rfl, AcquireConnection_of_unavailable a o (by decide) (by decide), by decide⟩

end Holders

end IrodsClient
