import Mathlib.Algebra.BigOperators.Group.List
import Mathlib.Data.List.Range
import Mathlib.Tactic.Lemma
import Mathlib.Tactic.Ring

/-! The partition of a parallel transfer into tasks: `lengthPerThread` and the launch loop of
`UploadDataObjectParallel`, `DownloadDataObjectParallel` and `DownloadDataObjectParallelResumable`. -/
namespace IrodsClient

/-- `lengthPerThread := fileLength / int64(numTasks)`, plus one when the division leaves a
remainder: the length every task is given, the last one included. -/
def lengthPerThread (fileLength numTasks : Nat) : Nat :=
  fileLength / numTasks + if fileLength % numTasks > 0 then 1 else 0

/-- The launch loop `for i := 0; i < numTasks; i++ { go task(i, offset, lengthPerThread);
offset += lengthPerThread }`, as the pairs `(taskID, taskOffset)` it starts. -/
def launchLoop (lengthPerThread : Nat) : Nat → Nat → Nat → List (Nat × Nat)
  | 0, _, _ => []
  | n+1, i, offset => (i, offset) :: launchLoop lengthPerThread n (i+1) (offset + lengthPerThread)

/-- The running sum of the loop gives task `i` the offset `i * lengthPerThread`. -/
theorem launchLoop_eq (L n i off : Nat) :
    launchLoop L n i off = (List.range n).map fun j => (i + j, off + j * L) := by
  induction n generalizing i off with
  | zero => rfl
  | succ n ih =>
    rw [launchLoop, ih, List.range_succ_eq_map]
    simp only [List.map_cons, List.map_map, Nat.add_zero, Nat.zero_mul, List.cons.injEq, true_and]
    apply List.map_congr_left
    intro j _
    simp only [Function.comp, Prod.mk.injEq, Nat.succ_eq_add_one]
    constructor <;> ring

theorem lengthPerThread_mul (N T : Nat) (hT : 0 < T) :
    N ≤ T * lengthPerThread N T ∧ T * lengthPerThread N T < N + T := by
  have h := Nat.div_add_mod N T
  have hm := Nat.mod_lt N hT
  unfold lengthPerThread
  split_ifs with hr
  · rw [Nat.mul_add]; omega
  · rw [Nat.add_zero]; omega

theorem le_mul_lengthPerThread (N T : Nat) (hT : 0 < T) : N ≤ T * lengthPerThread N T :=
  (lengthPerThread_mul N T hT).1

theorem lengthPerThread_pos {N T : Nat} (hN : 0 < N) (hT : 0 < T) : 0 < lengthPerThread N T := by
  have := le_mul_lengthPerThread N T hT
  rcases Nat.eq_zero_or_pos (lengthPerThread N T) with h | h
  · rw [h] at this; omega
  · exact h

theorem div_mem_task {o T L : Nat} (hL : 0 < L) (ho : o < T * L) :
    o / L < T ∧ o / L * L ≤ o ∧ o < o / L * L + L := by
  refine ⟨(Nat.div_lt_iff_lt_mul hL).mpr ho, Nat.div_mul_le_self o L, ?_⟩
  have := Nat.lt_div_mul_add (a := o) hL
  omega

theorem div_eq_iff_mem_task {o i L : Nat} (hL : 0 < L) :
    o / L = i ↔ i * L ≤ o ∧ o < i * L + L := by
  constructor
  · rintro rfl
    exact ⟨Nat.div_mul_le_self o L, by have := Nat.lt_div_mul_add (a := o) hL; omega⟩
  · rintro ⟨h1, h2⟩
    apply le_antisymm
    · exact Nat.lt_succ_iff.mp ((Nat.div_lt_iff_lt_mul hL).mpr (by rw [Nat.succ_mul]; omega))
    · exact (Nat.le_div_iff_mul_le hL).mpr h1

theorem task_ranges_disjoint {i j L o : Nat} (hij : i ≠ j) (hi : i * L ≤ o ∧ o < i * L + L) :
    ¬(j * L ≤ o ∧ o < j * L + L) := fun hj =>
  hij (((div_eq_iff_mem_task (by omega)).mpr hi).symm.trans ((div_eq_iff_mem_task (by omega)).mpr hj))

theorem task_ranges_cover {N T o : Nat} (hT : 0 < T) (ho : o < N) :
    ∃ i < T, i * lengthPerThread N T ≤ o ∧ o < i * lengthPerThread N T + lengthPerThread N T := by
  obtain ⟨h1, h2, h3⟩ := div_mem_task (lengthPerThread_pos (by omega) hT)
    (lt_of_lt_of_le ho (le_mul_lengthPerThread N T hT))
  exact ⟨_, h1, h2, h3⟩

theorem sum_map_le_range {α : Type} (f : α → Nat) : ∀ (l : List α) (g : Nat → Nat),
    (∀ j (hj : j < l.length), f l[j] ≤ g j) → (l.map f).sum ≤ ((List.range l.length).map g).sum
  | [], _, _ => by simp
  | a :: l, g, h => by
    have h0 : f a ≤ g 0 := h 0 (by simp)
    have ih := sum_map_le_range f l (fun j => g (j + 1)) fun j hj => h (j + 1) (by simp; omega)
    rw [List.map_cons, List.sum_cons, List.length_cons, List.range_succ_eq_map, List.map_cons,
      List.sum_cons, List.map_map]
    exact Nat.add_le_add h0 ih

theorem sum_map_eq_range {α : Type} (f : α → Nat) : ∀ (l : List α) (g : Nat → Nat),
    (∀ j (hj : j < l.length), f l[j] = g j) → (l.map f).sum = ((List.range l.length).map g).sum
  | [], _, _ => by simp
  | a :: l, g, h => by
    have h0 : f a = g 0 := h 0 (by simp)
    have ih := sum_map_eq_range f l (fun j => g (j + 1)) fun j hj => h (j + 1) (by simp; omega)
    rw [List.map_cons, List.sum_cons, List.length_cons, List.range_succ_eq_map, List.map_cons,
      List.sum_cons, List.map_map, h0, ih]
    rfl

/-- Task `j` holds `min L (N - j * L)` of the object; the first `T` tasks hold `min N (T * L)`. -/
theorem sum_range_min (N L : Nat) :
    ∀ T, ((List.range T).map fun j => min L (N - j * L)).sum = min N (T * L)
  | 0 => by simp
  | T + 1 => by
    rw [List.range_succ, List.map_append, List.sum_append, sum_range_min N L T, Nat.succ_mul]
    simp only [List.map_cons, List.map_nil, List.sum_cons, List.sum_nil, Nat.add_zero]
    omega

theorem sum_map_set {α : Type} (f g : α → Nat) (l : List α) (i : Nat) (a : α) (h : i < l.length)
    (hfg : ∀ j (hj : j < l.length), j ≠ i → g l[j] = f l[j]) :
    ((l.set i a).map g).sum + f l[i] = (l.map f).sum + g a := by
  induction l generalizing i with
  | nil => simp at h
  | cons x l ih =>
    cases i with
    | zero =>
      simp only [List.set_cons_zero, List.map_cons, List.sum_cons, List.getElem_cons_zero]
      have hl : (l.map g) = (l.map f) := List.map_congr_left fun y hy => by
        obtain ⟨j, hj, rfl⟩ := List.getElem_of_mem hy
        simpa using hfg (j + 1) (by simp [hj]) (by omega)
      rw [hl]; omega
    | succ i =>
      have := ih i (by simpa using h) fun j hj hji => by
        simpa using hfg (j + 1) (by simp [hj]) (by omega)
      have hx : g x = f x := by simpa using hfg 0 (by simp) (by omega)
      simp only [List.set_cons_succ, List.map_cons, List.sum_cons, List.getElem_cons_succ, hx]
      omega

end IrodsClient
