import Mathlib.Data.List.GetD
import Mathlib.Data.List.Induction
import Mathlib.Data.Nat.Find

/-!
# Turns at the workers

Statements that come all at once take the workers in order, each for as long as its answer takes.

* `freeAt n ends`: the first time at which one of `n` workers is free, if statements were taken that
  end at the given times.
* `startOf n delays i`, `endOf n delays i`: when the statement `i` of those that take the given
  times gets a worker, and when it is answered.

Results: `startOf_le_iff` says when a statement has got its worker, `startOf_of_lt` that the first
`n` statements get theirs at once.
-/

namespace QueryGate

variable {n i T : Nat} {delays ends : List Nat}

/-! ## The first free worker -/

theorem exists_free (n : Nat) (ends : List Nat) : ∃ T, ends.countP (T < ·) < max 1 n := by
  have hlast : ∃ T, ∀ e ∈ ends, e ≤ T := by
    induction ends with
    | nil => exact ⟨0, by simp⟩
    | cons e ends ih =>
      obtain ⟨T, hT⟩ := ih
      refine ⟨max e T, List.forall_mem_cons.mpr ⟨Nat.le_max_left .., fun d hd => ?_⟩⟩
      exact Nat.le_trans (hT d hd) (Nat.le_max_right ..)
  obtain ⟨T, hT⟩ := hlast
  refine ⟨T, ?_⟩
  rw [List.countP_eq_zero.mpr fun e he => by simpa using hT e he]
  omega

/-- The first time at which fewer than `n` statements of those that end at the given times are still
to end. There is one worker at least. -/
def freeAt (n : Nat) (ends : List Nat) : Nat := Nat.find (exists_free n ends)

/-- **A worker is free from the first such time on.** -/
theorem freeAt_le_iff : freeAt n ends ≤ T ↔ ends.countP (T < ·) < max 1 n := by
  unfold freeAt
  rw [Nat.find_le_iff]
  constructor
  · rintro ⟨T', hle, hlt⟩
    refine Nat.lt_of_le_of_lt (List.countP_mono_left fun e _ he => ?_) hlt
    rw [decide_eq_true_eq] at he ⊢
    omega
  · exact fun h => ⟨T, Nat.le_refl T, h⟩

/-! ## Starts and ends -/

/-- When the statements that take the given times are answered. -/
def endTimes (n : Nat) (delays : List Nat) : List Nat :=
  delays.foldl (fun ends delay => ends ++ [freeAt n ends + delay]) []

theorem endTimes_concat (n : Nat) (delays : List Nat) (delay : Nat) :
    endTimes n (delays ++ [delay]) =
      endTimes n delays ++ [freeAt n (endTimes n delays) + delay] := by
  unfold endTimes
  rw [List.foldl_append]
  rfl

theorem length_endTimes (n : Nat) (delays : List Nat) :
    (endTimes n delays).length = delays.length := by
  induction delays using List.reverseRecOn with
  | nil => rfl
  | append_singleton delays delay ih =>
    rw [endTimes_concat, List.length_append, List.length_append, ih]
    rfl

/-- When statement `i` gets a worker: at the first time at which one is free of the statements
before it. -/
def startOf (n : Nat) (delays : List Nat) (i : Nat) : Nat :=
  freeAt n ((endTimes n delays).take i)

/-- When statement `i` is answered. -/
def endOf (n : Nat) (delays : List Nat) (i : Nat) : Nat := startOf n delays i + delays.getD i 0

theorem getElem?_endTimes (hi : i < delays.length) :
    (endTimes n delays)[i]? = some (endOf n delays i) := by
  induction delays using List.reverseRecOn with
  | nil => exact absurd hi (Nat.not_lt_zero i)
  | append_singleton delays delay ih =>
    have hlen := length_endTimes n delays
    have htake : (endTimes n (delays ++ [delay])).take i = (endTimes n delays).take i := by
      rw [endTimes_concat, List.take_append_of_le_length]
      rw [List.length_append, List.length_singleton] at hi
      omega
    unfold endOf startOf
    rw [htake, endTimes_concat]
    rcases Nat.lt_or_ge i delays.length with hlt | hge
    · rw [List.getElem?_append_left (by omega), ih hlt, List.getD_append _ _ _ _ hlt]
      rfl
    · obtain rfl : i = delays.length := by
        rw [List.length_append, List.length_singleton] at hi
        omega
      rw [← hlen, List.take_length, hlen]
      simp [← hlen]

/-- **Statement `i` has its worker at a time iff fewer than `n` of those before it end later.** -/
theorem startOf_le_iff : startOf n delays i ≤ T ↔
    ((endTimes n delays).take i).countP (T < ·) < max 1 n :=
  freeAt_le_iff

/-- As many statements as there are workers start at once. -/
theorem startOf_of_lt (h : i < max 1 n) : startOf n delays i = 0 := by
  refine Nat.le_zero.mp (startOf_le_iff.mpr ?_)
  refine Nat.lt_of_le_of_lt List.countP_le_length ?_
  rw [List.length_take]
  omega

end QueryGate
