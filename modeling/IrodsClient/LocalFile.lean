import Mathlib.Data.List.Basic
import Mathlib.Tactic.Lemma
import Mathlib.Tactic.SplitIfs

/-! Files as byte lists: positional writes (`f.WriteAt`) and reads of a chunk of an object.
Every transfer proof reads a file pointwise through `getElem?_writeAt`. -/
namespace IrodsClient

/-- `WriteAt(d, off)` on a file holding `f`. A write past the end leaves a hole of zero
bytes; a write of no bytes changes nothing, as `os.File.WriteAt` issues no call for it. -/
def writeAt (f : List UInt8) (off : Nat) (d : List UInt8) : List UInt8 :=
  if d = [] then f else
    let g := f ++ List.replicate (off - f.length) 0
    g.take off ++ d ++ g.drop (off + d.length)

/-- The at most `k` bytes of `S` from offset `off`: what a read of `k` bytes there returns. -/
def chunk (S : List UInt8) (off k : Nat) : List UInt8 := (S.drop off).take k

@[simp] theorem writeAt_nil (f : List UInt8) (off : Nat) : writeAt f off [] = f := by
  simp [writeAt]

lemma getElem?_pad (f : List UInt8) (n o : Nat) :
    (f ++ List.replicate n 0)[o]? = if o < f.length + n then some (f[o]?.getD 0) else none := by
  by_cases hf : o < f.length
  · simp [List.getElem?_append_left hf, hf]; omega
  · rw [List.getElem?_append_right (by omega)]
    simp [List.getElem?_replicate, List.getElem?_eq_none (show f.length ≤ o by omega)]
    split_ifs <;> first | rfl | omega

/-- A byte after a write: the hole below `off`, the written bytes, and the old file above them. -/
theorem getElem?_writeAt (f d : List UInt8) (off o : Nat) (h : d ≠ []) :
    (writeAt f off d)[o]? =
      if o < off then some (f[o]?.getD 0) else if o < off + d.length then d[o - off]? else f[o]? := by
  have hd : 0 < d.length := List.length_pos.mpr h
  simp only [writeAt, h, if_false, List.append_assoc]
  have hg : (f ++ List.replicate (off - f.length) 0).length = max f.length off := by
    simp; omega
  split_ifs with h1 h2
  · rw [List.getElem?_append_left (by simp; omega), List.getElem?_take_of_lt h1, getElem?_pad,
      if_pos (by omega)]
  · rw [List.getElem?_append_right (by simp; omega), List.getElem?_append_left (by simp; omega)]
    simp only [List.length_take, hg]
    congr 1; omega
  · rw [List.getElem?_append_right (by simp; omega), List.getElem?_append_right (by simp; omega),
      List.getElem?_drop, getElem?_pad]
    simp only [List.length_take, hg]
    have e : off + d.length + (o - min off (max f.length off) - d.length) = o := by omega
    rw [e]
    split_ifs with h3
    · by_cases hf : o < f.length
      · simp [hf]
      · omega
    · rw [List.getElem?_eq_none (by omega)]

theorem length_writeAt {f d : List UInt8} (off : Nat) (h : d ≠ []) :
    (writeAt f off d).length = max f.length (off + d.length) := by
  simp only [writeAt, h, if_false, List.length_append, List.length_take, List.length_drop,
    List.length_replicate]
  omega

theorem getElem?_writeAt_of_le {f d : List UInt8} {off o : Nat} (h : off + d.length ≤ o) :
    (writeAt f off d)[o]? = f[o]? := by
  by_cases hd : d = []
  · simp [hd]
  · rw [getElem?_writeAt f d off o hd, if_neg (by omega), if_neg (by omega)]

theorem getElem?_chunk (S : List UInt8) (off k j : Nat) :
    (chunk S off k)[j]? = if j < k then S[off + j]? else none := by
  simp only [chunk, List.getElem?_take, List.getElem?_drop]

@[simp] theorem length_chunk (S : List UInt8) (off k : Nat) :
    (chunk S off k).length = min k (S.length - off) := by
  simp [chunk]

theorem take_chunk (S : List UInt8) (off k j : Nat) :
    (chunk S off k).take j = chunk S off (min j k) := by
  simp [chunk, List.take_take]

theorem chunk_eq_chunk_length (S : List UInt8) (off k : Nat) :
    chunk S off k = chunk S off (chunk S off k).length := by
  simp [chunk, List.take_take]

/-- The object's bytes, once in the file, stay there through a write of a chunk of the object. -/
theorem getElem?_writeAt_chunk {S f : List UInt8} {off k o : Nat} (ho : o < S.length)
    (hf : f[o]? = S[o]?) : (writeAt f off (chunk S off k))[o]? = S[o]? := by
  by_cases hd : chunk S off k = []
  · simpa [hd] using hf
  have hlt : o < f.length := by
    by_contra h
    rw [List.getElem?_eq_none (by omega), eq_comm, List.getElem?_eq_none_iff] at hf
    omega
  rw [getElem?_writeAt f _ off o hd]
  split_ifs with h1 h2
  · simp [List.getElem?_eq_getElem hlt, ← hf]
  · rw [getElem?_chunk, if_pos (by simp at h2; omega)]
    congr 1; omega
  · exact hf

theorem getElem?_writeAt_chunk_self {S f : List UInt8} {off k o : Nat} (h1 : off ≤ o)
    (h2 : o < off + k) (ho : o < S.length) : (writeAt f off (chunk S off k))[o]? = S[o]? := by
  have hd : chunk S off k ≠ [] := by
    rw [← List.length_pos, length_chunk]; omega
  rw [getElem?_writeAt f _ off o hd, if_neg (by omega), if_pos (by simp; omega), getElem?_chunk,
    if_pos (by omega)]
  congr 1; omega

theorem getElem?_writeAt_chunk_of_le {S f : List UInt8} {off k o : Nat}
    (h : min S.length (off + k) ≤ o) : (writeAt f off (chunk S off k))[o]? = f[o]? := by
  by_cases hd : chunk S off k = []
  · simp [hd]
  · have := List.length_pos.mpr hd
    simp only [length_chunk] at this
    exact getElem?_writeAt_of_le (by simp; omega)

/-- The file holds the object `S`'s bytes at every offset of `[a, b)` that `S` has. -/
def Covers (S f : List UInt8) (a b : Nat) : Prop :=
  ∀ o, a ≤ o → o < b → o < S.length → f[o]? = S[o]?

theorem Covers.writeAt_chunk {S f : List UInt8} {a b : Nat} (h : Covers S f a b) (off k : Nat) :
    Covers S (writeAt f off (chunk S off k)) a b :=
  fun o h1 h2 ho => getElem?_writeAt_chunk ho (h o h1 h2 ho)

/-- Writing the chunk that starts where a covered range ends extends the range over it. -/
theorem Covers.extend {S f : List UInt8} {a off : Nat} (h : Covers S f a off) (k : Nat) :
    Covers S (writeAt f off (chunk S off k)) a (off + k) := by
  intro o h1 h2 ho
  by_cases hlt : o < off
  · exact getElem?_writeAt_chunk ho (h o h1 hlt ho)
  · exact getElem?_writeAt_chunk_self (by omega) h2 ho

theorem Covers.mono {S f : List UInt8} {a b a' b' : Nat} (h : Covers S f a b) (ha : a ≤ a')
    (hb : b' ≤ b) : Covers S f a' b' :=
  fun o h1 h2 ho => h o (by omega) (by omega) ho

theorem Covers.empty (S f : List UInt8) (a : Nat) : Covers S f a a :=
  fun _ h1 h2 _ => absurd h2 (by omega)

end IrodsClient
