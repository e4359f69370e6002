import IrodsClient.Session.Acquire

/-! `AcquireConnectionsMulti`: a pool loop, then an unbounded share loop; the result is deduplicated. -/
namespace IrodsClient

namespace IRODSSession

/-- The pool loop of `AcquireConnectionsMulti`, with `k` iterations left; iteration `i` sees the
server answer `answers i`. The map `connections` is kept as a list without duplicates. -/
def acquireFromPool (answers : Nat → ServerAnswer) :
    Nat → Nat → List Nat → IRODSSession → List Nat × IRODSSession
  | 0, _, connections, sess => (connections, sess)
  | k + 1, i, connections, sess =>
    match tryConnectionFromPool (answers i) sess with
    | (none, sess) => (connections, sess)
    | (some conn, sess) => acquireFromPool answers k (i + 1) (connections.insert conn)
        { sess with sharedConnections := putToShare conn sess.sharedConnections }

/-- One `range` of the share loop of `AcquireConnectionsMulti`, over the keys in its order. -/
def sharePass : List Nat → Int → List Nat → AList (fun _ : Nat => Nat) →
    Int × List Nat × AList (fun _ : Nat => Nat)
  | [], connectionsInNeed, connections, m => (connectionsInNeed, connections, m)
  | sharedConn :: rest, connectionsInNeed, connections, m =>
    let shareCount := shareCountOf m sharedConn + 1
    let connections := connections.insert sharedConn
    let m := m.insert sharedConn shareCount
    if connectionsInNeed - 1 ≤ 0 then (connectionsInNeed - 1, connections, m)
    else sharePass rest (connectionsInNeed - 1) connections m

/-- `for connectionsInNeed > 0`, one range per round. Go's loop has no bound: `fuel` counts the
rounds this model runs, and `none` is a loop still running when the fuel runs out. -/
def shareLoop (o : MapOrder) : Nat → Nat → Int → List Nat → AList (fun _ : Nat => Nat) →
    Option (List Nat × AList (fun _ : Nat => Nat))
  | 0, _, connectionsInNeed, connections, m =>
    if connectionsInNeed > 0 then none else some (connections, m)
  | fuel + 1, round, connectionsInNeed, connections, m =>
    if connectionsInNeed > 0 then
      let r := sharePass (o.order round m.keys) connectionsInNeed connections m
      shareLoop o fuel (round + 1) r.1 r.2.1 r.2.2
    else some (connections, m)

/-- `AcquireConnectionsMulti`: connections from the pool, then shares until `number` have been
counted; the deduplicated result, `none` when the share loop runs past `fuel`. -/
def AcquireConnectionsMulti (number : Int) (answers : Nat → ServerAnswer) (o : MapOrder)
    (fuel : Nat) (sess : IRODSSession) : Option (List Nat × IRODSSession) :=
  let r := acquireFromPool answers number.toNat 0 [] sess
  (shareLoop o fuel 0 (number - r.1.length) r.1 r.2.sharedConnections).map
    fun l => (l.1, { r.2 with sharedConnections := l.2 })

/-! ## What the loops collect -/

/-- A loop took `(conns, m)` to `(conns', m')`: it collected without duplicates, each with one more holder. -/
structure Collects (conns : List Nat) (m : AList (fun _ : Nat => Nat)) (conns' : List Nat)
    (m' : AList (fun _ : Nat => Nat)) : Prop where
  nodup : conns.Nodup → conns'.Nodup
  subset : conns ⊆ conns'
  grows : ∀ x, shareCountOf m x + (if x ∈ conns' then 1 else 0) ≤
    shareCountOf m' x + (if x ∈ conns then 1 else 0)

theorem Collects.refl (conns : List Nat) (m : AList (fun _ : Nat => Nat)) :
    Collects conns m conns m :=
  ⟨id, List.Subset.refl _, fun _ => le_refl _⟩

theorem Collects.trans {c₁ c₂ c₃ : List Nat} {m₁ m₂ m₃ : AList (fun _ : Nat => Nat)}
    (h₁ : Collects c₁ m₁ c₂ m₂) (h₂ : Collects c₂ m₂ c₃ m₃) : Collects c₁ m₁ c₃ m₃ :=
  ⟨h₂.nodup ∘ h₁.nodup, h₁.subset.trans h₂.subset, fun x => by
    have := h₁.grows x; have := h₂.grows x; omega⟩

theorem Collects.insert (conns : List Nat) (m : AList (fun _ : Nat => Nat)) (c : Nat) :
    Collects conns m (conns.insert c) (m.insert c (shareCountOf m c + 1)) := by
  refine ⟨List.Nodup.insert, fun x hx => List.mem_insert_iff.mpr (.inr hx), fun x => ?_⟩
  rw [shareCountOf_insert_succ]
  by_cases h : x = c
  · subst h; split_ifs <;> simp_all
  · simp [h, Ne.symm h]

theorem Collects.le {conns conns' : List Nat} {m m' : AList (fun _ : Nat => Nat)}
    (h : Collects conns m conns' m') (x : Nat) : shareCountOf m x ≤ shareCountOf m' x := by
  have := h.grows x
  by_cases hx : x ∈ conns
  · simp only [hx, h.subset hx, if_true] at this; omega
  · simp only [hx, if_false] at this; omega

theorem length_insert_le (l : List Nat) (c : Nat) : (l.insert c).length ≤ l.length + 1 := by
  by_cases h : c ∈ l <;> simp [h]

/-! ## The pool loop -/

theorem acquireFromPool_spec (answers : Nat → ServerAnswer) : ∀ (k i : Nat) (conns : List Nat)
    {sess : IRODSSession}, sess.Inv →
    (acquireFromPool answers k i conns sess).2.Inv ∧
      (acquireFromPool answers k i conns sess).2.socketFailed = sess.socketFailed ∧
      (acquireFromPool answers k i conns sess).1.length ≤ conns.length + k ∧
      Collects conns sess.sharedConnections (acquireFromPool answers k i conns sess).1
        (acquireFromPool answers k i conns sess).2.sharedConnections
  | 0, _, conns, _, hI => ⟨hI, rfl, le_refl _, .refl _ _⟩
  | k + 1, i, conns, sess, hI => by
    have hp := tryConnectionFromPool_spec (answers i) hI.pool
    rw [acquireFromPool]
    rcases ht : tryConnectionFromPool (answers i) sess with ⟨_ | conn, s⟩ <;> rw [ht] at hp
    · have hI' := PoolStep.inv hI hp
      obtain ⟨pool, flag, rfl, -⟩ := hp
      exact ⟨hI', rfl, by simp, .refl _ _⟩
    · have hI' := PoolStep.inv hI hp
      obtain ⟨pool, flag, rfl, -⟩ := hp
      dsimp only [Option.elim] at hI' ⊢
      obtain ⟨h1, h2, h3, h4⟩ := acquireFromPool_spec answers k (i + 1) (conns.insert conn) hI'
      refine ⟨h1, h2, by have := length_insert_le conns conn; omega, ?_⟩
      have hc := Collects.insert conns sess.sharedConnections conn
      rw [← putToShare_eq] at hc
      exact hc.trans h4

/-! ## The share loop -/

/-- One range of the share loop collects each key it visits and takes one from `need` per key. -/
theorem sharePass_spec : ∀ (keys : List Nat) (need : Int) (conns : List Nat)
    (m : AList (fun _ : Nat => Nat)), 0 < need →
    Collects conns m (sharePass keys need conns m).2.1 (sharePass keys need conns m).2.2 ∧
      (∀ x ∈ m, x ∈ (sharePass keys need conns m).2.2) ∧
      (∀ x ∈ (sharePass keys need conns m).2.2, x ∈ m ∨ x ∈ keys) ∧
      (sharePass keys need conns m).2.1.length + (sharePass keys need conns m).1 ≤
        conns.length + need ∧
      0 ≤ (sharePass keys need conns m).1 ∧ (sharePass keys need conns m).1 ≤ need ∧
      (keys ≠ [] → (sharePass keys need conns m).1 < need ∧ (sharePass keys need conns m).2.1 ≠ [])
  | [], need, conns, m, _ => ⟨.refl _ _, fun _ => id, fun _ => .inl, by simp [sharePass], by
      simp only [sharePass]; omega, le_refl _, by simp⟩
  | c :: rest, need, conns, m, hneed => by
    have hlen := length_insert_le conns c
    have hne : conns.insert c ≠ [] := List.ne_nil_of_mem (List.mem_insert_self c conns)
    have hins : ∀ x ∈ m, x ∈ m.insert c (shareCountOf m c + 1) := fun x hx =>
      (AList.mem_insert _).mpr (.inr hx)
    have hback : ∀ x ∈ m.insert c (shareCountOf m c + 1), x ∈ m ∨ x ∈ c :: rest := fun x hx =>
      ((AList.mem_insert _).mp hx).elim (fun e => .inr (e ▸ List.mem_cons_self _ _)) .inl
    simp only [sharePass]
    split_ifs with h
    · dsimp only
      exact ⟨.insert _ _ _, hins, hback, by omega, by omega, by omega, fun _ => ⟨by omega, hne⟩⟩
    · obtain ⟨h1, h2, h3, h4, h5, h6, -⟩ := sharePass_spec rest (need - 1) (conns.insert c)
        (m.insert c (shareCountOf m c + 1)) (by omega)
      refine ⟨(Collects.insert _ _ _).trans h1, fun x hx => h2 x (hins x hx),
        fun x hx => (h3 x hx).elim (hback x) (.inr ∘ List.mem_cons_of_mem _), by omega, h5,
        by omega, fun _ => ⟨by omega, ?_⟩⟩
      exact List.ne_nil_of_mem (h1.subset (List.mem_insert_self c conns))

/-- The share loop collects at most `need` more connections, at least one if it needed one. -/
theorem shareLoop_spec (o : MapOrder) : ∀ (fuel round : Nat) (need : Int) (conns : List Nat)
    (m : AList (fun _ : Nat => Nat)) (conns' : List Nat) (m' : AList (fun _ : Nat => Nat)),
    shareLoop o fuel round need conns m = some (conns', m') →
    Collects conns m conns' m' ∧ (∀ x, x ∈ m' ↔ x ∈ m) ∧
      conns'.length ≤ conns.length + need.toNat ∧ (0 < need → conns' ≠ [])
  | 0, round, need, conns, m, conns', m', h => by
    simp only [shareLoop] at h
    split_ifs at h with hn
    cases h
    exact ⟨.refl _ _, fun _ => Iff.rfl, by omega, fun h => absurd h hn⟩
  | fuel + 1, round, need, conns, m, conns', m', h => by
    simp only [shareLoop] at h
    split_ifs at h with hn
    · have hkeys : ∀ x, x ∈ o.order round m.keys → x ∈ m := fun x hx =>
        AList.mem_keys.mpr ((o.perm round _).subset hx)
      obtain ⟨p1, p2, p3, p4, p5, -, p6⟩ := sharePass_spec (o.order round m.keys) need conns m hn
      obtain ⟨h1, h2, h3, h4⟩ := shareLoop_spec o fuel (round + 1) _ _ _ conns' m' h
      refine ⟨p1.trans h1, fun x => by rw [h2]; exact ⟨fun h => (p3 x h).elim id (hkeys x), p2 x⟩,
        by omega, fun _ => ?_⟩
      by_cases hk : o.order round m.keys = []
      · simp only [hk, sharePass] at h4
        exact h4 hn
      · exact fun he => (p6 hk).2 (List.eq_nil_of_subset_nil (he ▸ h1.subset))
    · cases h
      exact ⟨.refl _ _, fun _ => Iff.rfl, by omega, fun h => absurd h hn⟩

/-! ## `AcquireConnectionsMulti` -/

/-- `AcquireConnectionsMulti` keeps the invariant and hands out at most `number` distinct
connections, at least one when `number` is positive, each with one more holder. -/
theorem AcquireConnectionsMulti_spec {number : Int} {answers : Nat → ServerAnswer} {o : MapOrder}
    {fuel : Nat} {sess sess' : IRODSSession} {conns : List Nat} (hI : sess.Inv)
    (h : AcquireConnectionsMulti number answers o fuel sess = some (conns, sess')) :
    sess'.Inv ∧ sess'.socketFailed = sess.socketFailed ∧ conns.Nodup ∧
      conns.length ≤ number.toNat ∧ (0 < number → conns ≠ []) ∧
      ∀ x, shareCountOf sess.sharedConnections x + (if x ∈ conns then 1 else 0) ≤
        shareCountOf sess'.sharedConnections x := by
  obtain ⟨a1, a2, a3, a4⟩ := acquireFromPool_spec answers number.toNat 0 [] hI
  unfold AcquireConnectionsMulti at h
  obtain ⟨⟨l1, l2⟩, hl, he⟩ := Option.map_eq_some'.mp h
  simp only [Prod.mk.injEq] at he
  obtain ⟨rfl, rfl⟩ := he
  obtain ⟨s1, s2, s3, s4⟩ := shareLoop_spec o fuel 0 _ _ _ _ _ hl
  refine ⟨a1.of_le s2 s1.le, a2, s1.nodup (a4.nodup List.nodup_nil),
    by simp only [List.length_nil] at a3; omega, fun hn => ?_,
    fun x => by simpa using (a4.trans s1).grows x⟩
  by_cases hr : (acquireFromPool answers number.toNat 0 [] sess).1 = []
  · exact s4 (by rw [hr, List.length_nil]; omega)
  · exact fun he => hr (List.eq_nil_of_subset_nil (he ▸ s1.subset))

/-- With nothing shared and connections still needed, the share loop never ends. -/
theorem shareLoop_eq_none {o : MapOrder} {m : AList (fun _ : Nat => Nat)} (hm : m.keys = []) :
    ∀ (fuel round : Nat) {need : Int} (conns : List Nat), 0 < need →
      shareLoop o fuel round need conns m = none
  | 0, _, _, _, hn => by simp [shareLoop, hn]
  | fuel + 1, round, need, conns, hn => by
    have hk : o.order round m.keys = [] := by rw [hm]; exact List.perm_nil.mp (o.perm round [])
    simp only [shareLoop, if_pos hn, hk, sharePass]
    exact shareLoop_eq_none hm fuel (round + 1) conns hn

/-- With no pooled connection and nothing shared, `AcquireConnectionsMulti` never returns. -/
theorem AcquireConnectionsMulti_eq_none {number : Int} {answers : Nat → ServerAnswer}
    {o : MapOrder} {sess : IRODSSession} (hp : sess.connectionPool.WF) (hn : 0 < number)
    (hpool : (tryConnectionFromPool (answers 0) sess).1 = none)
    (hm : sess.sharedConnections.keys = []) (fuel : Nat) :
    AcquireConnectionsMulti number answers o fuel sess = none := by
  obtain ⟨k, hk⟩ : ∃ k, number.toNat = k + 1 := ⟨number.toNat - 1, by omega⟩
  have hs := tryConnectionFromPool_spec (answers 0) hp
  rcases ht : tryConnectionFromPool (answers 0) sess with ⟨r, s⟩
  rw [ht] at hs hpool
  subst hpool
  obtain ⟨pool, flag, rfl, -⟩ := hs
  simp only [AcquireConnectionsMulti, hk, acquireFromPool, ht, List.length_nil]
  rw [@shareLoop_eq_none o _ hm fuel 0 (number - ((0 : Nat) : Int)) [] (by omega), Option.map_none']

/-- Over a map with a key, the share loop returns with fuel for `need` rounds. -/
theorem shareLoop_isSome {o : MapOrder} : ∀ (fuel round : Nat) {need : Int} (conns : List Nat)
    {m : AList (fun _ : Nat => Nat)}, m.keys ≠ [] → need.toNat ≤ fuel →
      (shareLoop o fuel round need conns m).isSome
  | 0, _, need, _, _, _, hf => by simp [shareLoop, show ¬0 < need by omega]
  | fuel + 1, round, need, conns, m, hm, hf => by
    simp only [shareLoop]
    split_ifs with hn
    · have hk : o.order round m.keys ≠ [] := fun h => hm (by
        have := o.perm round m.keys
        rw [h] at this
        exact (List.Perm.nil_eq this).symm)
      obtain ⟨-, p2, -, -, p5, -, p6⟩ := sharePass_spec (o.order round m.keys) need conns m hn
      obtain ⟨x, hx⟩ := List.exists_mem_of_ne_nil _ hm
      exact shareLoop_isSome fuel (round + 1) _
        (List.ne_nil_of_mem (AList.mem_keys.mp (p2 x (AList.mem_keys.mpr hx)))) (by
          have := (p6 hk).1; omega)
    · rfl

theorem AcquireConnectionsMulti_isSome {number : Int} (answers : Nat → ServerAnswer)
    (o : MapOrder) {fuel : Nat} {sess : IRODSSession} (hI : sess.Inv)
    (hm : sess.sharedConnections.keys ≠ []) (hf : number.toNat ≤ fuel) :
    (AcquireConnectionsMulti number answers o fuel sess).isSome := by
  obtain ⟨a1, -, -, a4⟩ := acquireFromPool_spec answers number.toNat 0 [] hI
  obtain ⟨x, hx⟩ := List.exists_mem_of_ne_nil _ hm
  have hx' : x ∈ (acquireFromPool answers number.toNat 0 [] sess).2.sharedConnections :=
    (a1.mem_iff x).mpr (Nat.lt_of_lt_of_le ((hI.mem_iff x).mp (AList.mem_keys.mpr hx)) (a4.le x))
  unfold AcquireConnectionsMulti
  rw [Option.isSome_map']
  exact shareLoop_isSome fuel 0 _ (List.ne_nil_of_mem (AList.mem_keys.mp hx')) (by omega)

/-- A server that refuses every connection. -/
theorem AcquireConnectionsMulti_spins_on_unreachable_server (o : MapOrder) (fuel : Nat) :
    AcquireConnectionsMulti 1 (fun _ => ⟨false, false⟩) o fuel (new ⟨[], [], 4, 4, 0⟩ false) =
      none :=
  AcquireConnectionsMulti_eq_none (new_inv (by rfl) (by rfl) false).pool (by decide) (by decide)
    (by decide) fuel

/-- The slice `AcquireConnectionsMulti` returns has no duplicates, and at least one and at most
`number` elements. -/
theorem AcquireConnectionsMulti_returns_distinct {number : Int} {answers : Nat → ServerAnswer}
    {o : MapOrder} {fuel : Nat} {sess sess' : IRODSSession} {conns : List Nat} (hI : sess.Inv)
    (hn : 1 ≤ number) (h : AcquireConnectionsMulti number answers o fuel sess = some (conns, sess')) :
    conns.Nodup ∧ 1 ≤ conns.length ∧ (conns.length : Int) ≤ number := by
  obtain ⟨-, -, h3, h4, h5, -⟩ := AcquireConnectionsMulti_spec hI h
  exact ⟨h3, List.length_pos.mpr (h5 (by omega)), by omega⟩

/-- Three tasks over a pool of two connections: the share loop shares connection 1 again. -/
theorem AcquireConnectionsMulti_returns_distinct_three_tasks : ∃ sess',
    AcquireConnectionsMulti 3 (fun _ => ⟨true, true⟩) MapOrder.inOrder 1
      (new ⟨[], [], 2, 2, 0⟩ false) = some ([1, 0], sess') ∧
    ([1, 0] : List Nat).Nodup ∧ 1 ≤ [1, 0].length ∧ (([1, 0] : List Nat).length : Int) ≤ 3 :=
  ⟨_, rfl, @AcquireConnectionsMulti_returns_distinct 3 (fun _ => ⟨true, true⟩) MapOrder.inOrder 1
    (new ⟨[], [], 2, 2, 0⟩ false) _ [1, 0] (new_inv rfl rfl false) (by decide) rfl⟩

/-- Two tasks over a pool of one connection get a slice of one: `connections[1]` is out of
range. -/
theorem AcquireConnectionsMulti_one_connection_for_two_tasks :
    (AcquireConnectionsMulti 2 (fun _ => ⟨true, true⟩) MapOrder.inOrder 1
      (new ⟨[], [], 1, 1, 0⟩ false)).map Prod.fst = some [0] := by
  decide

end IRODSSession

end IrodsClient
