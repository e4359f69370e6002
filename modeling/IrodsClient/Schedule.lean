import Mathlib.Data.List.Basic
import Mathlib.Tactic.Lemma
import Mathlib.Tactic.SplitIfs

/-! Runs of concurrent tasks under an arbitrary schedule, with the trace of their effects. -/
namespace IrodsClient

/-- The error a read returned together with its bytes. -/
inductive ReadErr
  | none
  | eof
  | fail
  deriving DecidableEq, Repr

/-- The answer a task gets to its next action. -/
inductive Move
  | ok
  | fail
  /-- a remote seek that left the handle at offset `v` -/
  | seekTo (v : Nat)
  /-- a read that returned `k` bytes (fewer at the end of the data) and the error `err` -/
  | read (k : Nat) (err : ReadErr)
  /-- a write that failed after its first `j` bytes -/
  | writeFail (j : Nat)
  /-- the state in which a replica close finds the connection and the server, and the iRODS
  error code its request returned, `none` when it succeeded -/
  | closeReply (connected supportParallelUpload : Bool) (code : Option Int)
  deriving DecidableEq, Repr

/-- How a transfer function ends, with what it leaves behind. A panic ends the process where
it stands; one in a task is taken to come before the other tasks run. -/
inductive Outcome (α : Type)
  | nil (obs : α)
  | error (err : String) (obs : α)
  | panic (obs : α)
  deriving DecidableEq, Repr

/-- What the call leaves behind, however it ends. -/
def Outcome.obs {α : Type} : Outcome α → α
  | .nil obs | .error _ obs | .panic obs => obs

/-- The call returned, with nil or an error, rather than panicked. -/
def Outcome.returned {α : Type} : Outcome α → Bool
  | .panic _ => false
  | _ => true

/-- `bufferLen := common.ReadWriteBufferSize; if taskRemain < bufferLen { bufferLen = taskRemain }`. -/
def bufferLen (B taskRemain : Nat) : Nat := if taskRemain < B then taskRemain else B

theorem bufferLen_le (B r : Nat) : bufferLen B r ≤ r := by
  unfold bufferLen; split_ifs <;> omega

/-- A run of tasks sharing one state: at `(i, m)` task `i` makes the move `m`, `none` where it cannot.
The trace records every effect with its task, in order. -/
def runSchedule {σ μ ε : Type} (step : σ → Nat → μ → Option (σ × ε)) :
    σ → List (Nat × ε) → List (Nat × μ) → Option (σ × List (Nat × ε))
  | s, tr, [] => some (s, tr)
  | s, tr, (i, m) :: rest =>
    match step s i m with
    | none => none
    | some (s', e) => runSchedule step s' (tr ++ [(i, e)]) rest

section
variable {σ μ ε : Type} {step : σ → Nat → μ → Option (σ × ε)}

@[simp] theorem runSchedule_nil (s : σ) (tr : List (Nat × ε)) :
    runSchedule step s tr [] = some (s, tr) := rfl

theorem runSchedule_cons (s : σ) (tr : List (Nat × ε)) (i : Nat) (m : μ) (rest : List (Nat × μ)) :
    runSchedule step s tr ((i, m) :: rest) =
      (step s i m).bind fun r => runSchedule step r.1 (tr ++ [(i, r.2)]) rest := by
  simp only [runSchedule]
  cases step s i m <;> rfl

/-- A property of a state and the trace so far that every step keeps holds after every run. -/
theorem runSchedule_invariant (Inv : σ → List (Nat × ε) → Prop)
    (hstep : ∀ s tr i m s' e, step s i m = some (s', e) → Inv s tr → Inv s' (tr ++ [(i, e)])) :
    ∀ (sched : List (Nat × μ)) s tr r, runSchedule step s tr sched = some r → Inv s tr →
      Inv r.1 r.2
  | [], s, tr, r, h, hi => by cases h; exact hi
  | (i, m) :: rest, s, tr, r, h, hi => by
    rw [runSchedule_cons] at h
    obtain ⟨⟨s', e⟩, hs, hr⟩ := Option.bind_eq_some.mp h
    exact runSchedule_invariant Inv hstep rest _ _ r hr (hstep s tr i m s' e hs hi)

theorem runSchedule_invariant_of (P : μ → Prop) (Inv : σ → List (Nat × ε) → Prop)
    (hstep : ∀ s tr i m s' e, P m → step s i m = some (s', e) → Inv s tr → Inv s' (tr ++ [(i, e)])) :
    ∀ (sched : List (Nat × μ)) s tr r, (∀ p ∈ sched, P p.2) → runSchedule step s tr sched = some r →
      Inv s tr → Inv r.1 r.2
  | [], s, tr, r, _, h, hi => by cases h; exact hi
  | (i, m) :: rest, s, tr, r, hP, h, hi => by
    rw [runSchedule_cons] at h
    obtain ⟨⟨s', e⟩, hs, hr⟩ := Option.bind_eq_some.mp h
    exact runSchedule_invariant_of P Inv hstep rest _ _ r (fun p hp => hP p (.tail _ hp)) hr
      (hstep s tr i m s' e (hP _ (.head _)) hs hi)

/-- Runs of a step function that allows fewer moves are runs of the larger one. -/
theorem runSchedule_mono {step' : σ → Nat → μ → Option (σ × ε)}
    (h : ∀ s i m r, step' s i m = some r → step s i m = some r) :
    ∀ (sched : List (Nat × μ)) s tr res, runSchedule step' s tr sched = some res →
      runSchedule step s tr sched = some res
  | [], _, _, _, hr => hr
  | (i, m) :: rest, s, tr, res, hr => by
    rw [runSchedule_cons] at hr ⊢
    obtain ⟨⟨s', e⟩, hs, hr⟩ := Option.bind_eq_some.mp hr
    rw [h s i m _ hs]
    exact runSchedule_mono h rest _ _ res hr

theorem countP_set {α : Type} (p : α → Bool) (l : List α) (i : Nat) (a : α) (h : i < l.length) :
    (l.set i a).countP p + (if p l[i] then 1 else 0) = l.countP p + (if p a then 1 else 0) := by
  induction l generalizing i with
  | nil => simp at h
  | cons x l ih =>
    cases i with
    | zero => simp [List.countP_cons]; omega
    | succ i =>
      have := ih i (by simpa using h)
      simp only [List.set_cons_succ, List.countP_cons, List.getElem_cons_succ]
      omega

theorem runSchedule_stuck {s : σ} (hs : ∀ i m, step s i m = none) (tr : List (Nat × ε)) :
    ∀ sched r, runSchedule step s tr sched = some r → sched = [] ∧ r = (s, tr)
  | [], r, h => ⟨rfl, (Option.some.inj h).symm⟩
  | (i, m) :: _, _, h => by simp [runSchedule, hs i m] at h

theorem runSchedule_append (a b : List (Nat × μ)) (s : σ) (tr : List (Nat × ε)) :
    runSchedule step s tr (a ++ b) = (runSchedule step s tr a).bind fun r => runSchedule step r.1 r.2 b := by
  induction a generalizing s tr with
  | nil => rfl
  | cons x a ih =>
    obtain ⟨i, m⟩ := x
    simp only [List.cons_append, runSchedule_cons, ih, Option.bind_assoc]

end

/-- An early return `if c then .inl a else rest`, read back from its result. -/
theorem ite_inl_eq_inl {α β : Type} {c : Prop} [Decidable c] {a o : α} {x : α ⊕ β} :
    (if c then Sum.inl a else x) = Sum.inl o ↔ c ∧ a = o ∨ ¬c ∧ x = Sum.inl o := by
  by_cases hc : c <;> simp [hc]

theorem ite_inl_eq_inr {α β : Type} {c : Prop} [Decidable c] {a : α} {x : α ⊕ β} {b : β} :
    (if c then Sum.inl a else x) = Sum.inr b ↔ ¬c ∧ x = Sum.inr b := by
  by_cases hc : c <;> simp [hc]

end IrodsClient
