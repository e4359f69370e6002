import Mathlib.Data.List.Nodup
import Mathlib.Tactic.Lemma
import Mathlib.Tactic.SplitIfs

/-! The connection pool the session borrows its connections from. `ConnectionPool` is not under
`src/`: what is here follows the spec's account of it. -/
namespace IrodsClient

/-- Modelled from the spec (not under `src/`): idle and lent-out connections by identity, and the
next identity. Lifespan and idle timeouts are not modelled. -/
structure ConnectionPool where
  idle : List Nat
  outstanding : List Nat
  maxCap : Nat
  maxIdle : Nat
  next : Nat
  deriving DecidableEq, Repr

namespace ConnectionPool

/-- Modelled from the spec: `available_connections()`, the idle count plus the headroom to
`max_cap`. -/
def AvailableConnections (p : ConnectionPool) : Nat :=
  p.idle.length + (p.maxCap - (p.idle.length + p.outstanding.length))

/-- Modelled from the spec: `get_new()`, a new connection while fewer than `max_cap` are
outstanding, `connect` saying whether connecting to the server succeeds. -/
def GetNew (p : ConnectionPool) (connect : Bool) : Option (Nat × ConnectionPool) :=
  if p.outstanding.length < p.maxCap ∧ connect then
    some (p.next, { p with outstanding := p.next :: p.outstanding, next := p.next + 1 })
  else none

/-- Modelled from the spec: `get()`, an idle connection if there is one, else a new one; the
flag says whether it is new. `none` is `POOL_FULL` or a failure to connect. -/
def Get (p : ConnectionPool) (connect : Bool) : Option ((Nat × Bool) × ConnectionPool) :=
  match p.idle with
  | c :: rest => some ((c, false), { p with idle := rest, outstanding := c :: p.outstanding })
  | [] => (p.GetNew connect).map fun r => ((r.1, true), r.2)

/-- Modelled from the spec: `return(c)`: a connection whose socket failed, or one more than
`max_idle` allows, is destroyed; any other goes back to idle. -/
def Return (p : ConnectionPool) (socketFailed : Bool) (c : Nat) : ConnectionPool :=
  if socketFailed ∨ p.maxIdle ≤ p.idle.length then { p with outstanding := p.outstanding.erase c }
  else { p with idle := p.idle ++ [c], outstanding := p.outstanding.erase c }

/-- Modelled from the spec: `discard(c)` destroys `c`. -/
def Discard (p : ConnectionPool) (c : Nat) : ConnectionPool :=
  { p with outstanding := p.outstanding.erase c }

/-- Modelled from the spec: `release()` destroys every idle connection and forgets the lent-out
ones. -/
def Release (p : ConnectionPool) : ConnectionPool := { p with idle := [], outstanding := [] }

/-- The pool keeps each connection in one place, and has not yet used the identity `next`. -/
structure WF (p : ConnectionPool) : Prop where
  nodup : (p.idle ++ p.outstanding).Nodup
  lt_next : ∀ c ∈ p.idle ++ p.outstanding, c < p.next

theorem GetNew_wf {p p' : ConnectionPool} {connect : Bool} {c : Nat} (hp : p.WF)
    (h : p.GetNew connect = some (c, p')) : p'.WF ∧ c ∈ p'.outstanding ∧ c ∉ p'.idle ∧
      p'.idle = p.idle ∧ p'.outstanding = c :: p.outstanding := by
  unfold GetNew at h
  split_ifs at h
  cases h
  have hn : p.next ∉ p.idle ++ p.outstanding := fun hm => (hp.lt_next _ hm).false
  refine ⟨⟨?_, ?_⟩, by simp, fun hm => hn (List.mem_append_left _ hm), rfl, rfl⟩
  · simpa [List.nodup_middle, hn] using hp.nodup
  · intro x hx
    simp only [List.mem_append, List.mem_cons] at hx
    rcases hx with hx | rfl | hx
    · exact Nat.lt_succ_of_lt (hp.lt_next x (List.mem_append_left _ hx))
    · exact Nat.lt_succ_self _
    · exact Nat.lt_succ_of_lt (hp.lt_next x (List.mem_append_right _ hx))

theorem Get_wf {p p' : ConnectionPool} {connect isNew : Bool} {c : Nat} (hp : p.WF)
    (h : p.Get connect = some ((c, isNew), p')) : p'.WF ∧ c ∈ p'.outstanding ∧ c ∉ p'.idle ∧
      p'.idle ⊆ p.idle ∧ p'.outstanding = c :: p.outstanding := by
  unfold Get at h
  split at h
  · rename_i rest hidle
    cases h
    have hnd := hp.nodup
    rw [hidle, List.cons_append] at hnd
    refine ⟨⟨?_, ?_⟩, by simp, (List.nodup_cons.mp hnd).1 ∘ List.mem_append_left _, by
      simp [hidle], rfl⟩
    · simpa [List.nodup_middle] using hnd
    · intro x hx
      apply hp.lt_next
      rw [hidle]
      simp only [List.mem_append, List.mem_cons] at hx ⊢
      tauto
  · obtain ⟨⟨c', p''⟩, hg, he⟩ := Option.map_eq_some'.mp h
    cases he
    obtain ⟨hw, hc, hi, hidle, hout⟩ := GetNew_wf hp hg
    exact ⟨hw, hc, hi, hidle ▸ List.Subset.refl _, hout⟩

theorem Return_wf {p : ConnectionPool} {c : Nat} (hp : p.WF) (hc : c ∈ p.outstanding)
    (failed : Bool) : (p.Return failed c).WF ∧ (p.Return failed c).idle ⊆ c :: p.idle ∧
      (p.Return failed c).outstanding = p.outstanding.erase c := by
  have hsub : ∀ l : List Nat, (l ++ p.outstanding.erase c).Sublist (l ++ p.outstanding) :=
    fun l => (List.Sublist.refl l).append (List.erase_sublist c _)
  unfold Return
  split_ifs
  · refine ⟨⟨(hsub _).nodup hp.nodup, fun x hx => hp.lt_next x ((hsub _).subset hx)⟩,
      List.subset_cons_self _ _, rfl⟩
  · have hperm : (p.idle ++ [c] ++ p.outstanding.erase c).Perm (p.idle ++ p.outstanding) := by
      rw [List.append_assoc]
      exact List.Perm.append_left _ (List.perm_cons_erase hc).symm
    refine ⟨⟨hperm.nodup_iff.mpr hp.nodup, fun x hx => hp.lt_next x (hperm.subset hx)⟩,
      fun x hx => ?_, rfl⟩
    simp only [List.mem_append, List.mem_singleton] at hx
    rcases hx with hx | rfl
    · exact List.mem_cons_of_mem _ hx
    · exact List.mem_cons_self _ _

theorem Discard_wf {p : ConnectionPool} (hp : p.WF) (c : Nat) : (p.Discard c).WF ∧
    (p.Discard c).idle = p.idle ∧ (p.Discard c).outstanding = p.outstanding.erase c := by
  have hsub : (p.idle ++ p.outstanding.erase c).Sublist (p.idle ++ p.outstanding) :=
    (List.Sublist.refl _).append (List.erase_sublist c _)
  exact ⟨⟨hsub.nodup hp.nodup, fun x hx => hp.lt_next x (hsub.subset hx)⟩, rfl, rfl⟩

/-- Modelled from the spec: `open_connections()`, the idle connections and the lent-out ones. -/
def OpenConnections (p : ConnectionPool) : Nat := p.idle.length + p.outstanding.length

/-- The pool within the caps `maxCap` and `maxIdle` it was configured with: at most `maxCap`
connections open, at most `maxIdle` of them idle. -/
structure Bounded (maxCap maxIdle : Nat) (p : ConnectionPool) : Prop where
  maxCap_eq : p.maxCap = maxCap
  maxIdle_eq : p.maxIdle = maxIdle
  open_le : p.OpenConnections ≤ maxCap
  idle_le : p.idle.length ≤ maxIdle

theorem GetNew_eq_some {p p' : ConnectionPool} {connect : Bool} {c : Nat}
    (h : p.GetNew connect = some (c, p')) : p.outstanding.length < p.maxCap ∧ c = p.next ∧
      p' = { p with outstanding := p.next :: p.outstanding, next := p.next + 1 } := by
  unfold GetNew at h
  split_ifs at h with hc
  cases h
  exact ⟨hc.1, rfl, rfl⟩

theorem Get_eq_some {p p' : ConnectionPool} {connect isNew : Bool} {c : Nat}
    (h : p.Get connect = some ((c, isNew), p')) :
    (∃ rest, isNew = false ∧ p.idle = c :: rest ∧
      p' = { p with idle := rest, outstanding := c :: p.outstanding }) ∨
    (isNew = true ∧ p.idle = [] ∧ p.GetNew connect = some (c, p')) := by
  unfold Get at h
  split at h
  · cases h
    exact .inl ⟨_, rfl, ‹_›, rfl⟩
  · obtain ⟨⟨c', p''⟩, hg, he⟩ := Option.map_eq_some'.mp h
    cases he
    exact .inr ⟨rfl, ‹_›, hg⟩

section bounded
variable {maxCap maxIdle : Nat}

theorem Bounded.get {p p' : ConnectionPool} {connect isNew : Bool} {c : Nat}
    (hb : p.Bounded maxCap maxIdle) (h : p.Get connect = some ((c, isNew), p')) :
    p'.Bounded maxCap maxIdle := by
  obtain ⟨hm, hi', hb1, hb2⟩ := hb
  unfold OpenConnections at hb1
  rcases Get_eq_some h with ⟨rest, -, hi, rfl⟩ | ⟨-, hi, hg⟩
  · rw [hi, List.length_cons] at hb1 hb2
    exact ⟨hm, hi', by simp only [OpenConnections, List.length_cons]; omega, by dsimp only; omega⟩
  · obtain ⟨hlt, -, rfl⟩ := GetNew_eq_some hg
    exact ⟨hm, hi', by simp only [OpenConnections, hi, List.length_cons, List.length_nil]; omega, hb2⟩

theorem Bounded.discard {p : ConnectionPool} (hb : p.Bounded maxCap maxIdle) (c : Nat) :
    (p.Discard c).Bounded maxCap maxIdle :=
  ⟨hb.maxCap_eq, hb.maxIdle_eq,
    (Nat.add_le_add_left (List.length_erase_le _ _) _).trans hb.open_le, hb.idle_le⟩

/-- Giving back a lent-out connection keeps the caps: it becomes idle only below `max_idle`. -/
theorem Bounded.return {p : ConnectionPool} {c : Nat} (hb : p.Bounded maxCap maxIdle)
    (hc : c ∈ p.outstanding) (failed : Bool) : (p.Return failed c).Bounded maxCap maxIdle := by
  obtain ⟨hm, hi', hb1, hb2⟩ := hb
  unfold OpenConnections at hb1
  have hl := List.length_erase_of_mem hc
  have hpos := List.length_pos_of_mem hc
  unfold Return
  split_ifs with h
  · exact ⟨hm, hi', by simp only [OpenConnections]; omega, hb2⟩
  · simp only [not_or, not_le] at h
    exact ⟨hm, hi', by simp only [OpenConnections, List.length_append, List.length_singleton]; omega,
      by simp only [List.length_append, List.length_singleton]; omega⟩

/-- Destroying a lent-out connection and creating one in its place keeps the caps. -/
theorem Bounded.discard_getNew {p p' : ConnectionPool} {connect : Bool} {c c' : Nat}
    (hb : p.Bounded maxCap maxIdle) (hc : c ∈ p.outstanding)
    (h : (p.Discard c).GetNew connect = some (c', p')) : p'.Bounded maxCap maxIdle := by
  obtain ⟨hm, hi', hb1, hb2⟩ := hb
  unfold OpenConnections at hb1
  have hl := List.length_erase_of_mem hc
  have hpos := List.length_pos_of_mem hc
  obtain ⟨-, -, rfl⟩ := GetNew_eq_some h
  exact ⟨hm, hi', by simp only [OpenConnections, Discard, List.length_cons]; omega, hb2⟩

end bounded

end ConnectionPool

end IrodsClient
