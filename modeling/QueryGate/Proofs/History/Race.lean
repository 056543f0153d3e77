import Mathlib.Logic.Function.Basic
import QueryGate.Proofs.History.Openings

/-!
# Two openings at once

Two callers open one history. Each does its steps one by one, and the other may do steps in between.

* `Race.turn`, `Race.run`: one step of a caller, and the steps of both in the order of a schedule.
* `Race.Overlap`: both callers have read the version before either of them noted it.

Results:
* `finished_run`: the own steps of a caller bring it to its end, whatever the other does.
* `completion_run`: when one caller has come to its end, the other goes on alone.
-/

namespace QueryGate

open Opening

variable {place : HistoryPlace} {who winner : Bool} {schedule : List Bool}

/-! ## The race -/

/-- The caller has read the version, and its migration is not over. -/
def Opening.HasRead : Opening → Prop
  | .migrating _ m _ => m.hasRead = true
  | _ => False

instance : DecidablePred Opening.HasRead
  | .migrating _ m _ => inferInstanceAs (Decidable (m.hasRead = true))
  | .preparing => inferInstanceAs (Decidable False)
  | .connecting .. => inferInstanceAs (Decidable False)
  | .recovering => inferInstanceAs (Decidable False)
  | .finished _ => inferInstanceAs (Decidable False)

/-- Two callers that open one history, and the disk that they share. -/
structure Race where
  caller : Bool → Opening := fun _ => .preparing
  disk : Disk Content

namespace Race

/-- The next step of one caller. -/
def turn (place : HistoryPlace) (r : Race) (who : Bool) : Race where
  caller := Function.update r.caller who ((r.caller who).step place r.disk).1
  disk := ((r.caller who).step place r.disk).2

/-- The steps of both callers, in the order of a schedule. -/
def run (place : HistoryPlace) (r : Race) (schedule : List Bool) : Race :=
  schedule.foldl (turn place) r

/-- Both callers have read the version, and neither migration is over. -/
def Both (r : Race) : Prop := ∀ who, (r.caller who).HasRead

/-- At some time of the schedule, both callers have read the version and neither migration is
over. -/
def Overlap (place : HistoryPlace) (r : Race) (schedule : List Bool) : Prop :=
  ∃ n, (r.run place (schedule.take n)).Both

variable {r : Race}

theorem caller_turn (place : HistoryPlace) (r : Race) (who : Bool) :
    (r.turn place who).caller who = ((r.caller who).step place r.disk).1 :=
  Function.update_self ..

theorem caller_turn_other (h : winner ≠ who) :
    (r.turn place who).caller winner = r.caller winner :=
  Function.update_of_ne h ..

theorem run_cons : r.run place (who :: schedule) = (r.turn place who).run place schedule := rfl

theorem overlap_cons : r.Overlap place (who :: schedule) ↔
    r.Both ∨ (r.turn place who).Overlap place schedule := by
  constructor
  · rintro ⟨n, h⟩
    cases n with
    | zero => exact .inl h
    | succ n => exact .inr ⟨n, h⟩
  · rintro (h | ⟨n, h⟩)
    · exact ⟨0, h⟩
    · exact ⟨n + 1, h⟩

theorem turn_finished {result : Except Failure Nat} (h : r.caller who = .finished result) :
    r.turn place who = r := by
  rw [turn, h, step]
  exact congrArg (Race.mk · r.disk) (h ▸ Function.update_eq_self who r.caller)

/-- The own steps of a caller bring it to its end, whatever the other does. -/
theorem remaining_run (place : HistoryPlace) (who : Bool) (r : Race) (schedule : List Bool) :
    ((r.run place schedule).caller who).remaining ≤
      (r.caller who).remaining - schedule.count who := by
  induction schedule generalizing r with
  | nil => exact Nat.le_refl _
  | cons other schedule ih =>
    rw [run_cons]
    refine (ih _).trans ?_
    by_cases hsame : other = who
    · subst hsame
      rw [caller_turn, List.count_cons_self]
      by_cases hdone : (r.caller other).remaining = 0
      · obtain ⟨result, hresult⟩ := remaining_eq_zero_iff.mp hdone
        rw [hresult, step, remaining_finished, Nat.zero_sub]
        exact Nat.zero_le _
      · have hlt := remaining_step_lt place r.disk hdone
        omega
    · rw [caller_turn_other (Ne.symm hsame), List.count_cons_of_ne hsame]

theorem finished_run (r : Race) (h : (r.caller who).remaining ≤ schedule.count who) :
    ∃ result, (r.run place schedule).caller who = .finished result := by
  have hremaining := remaining_run place who r schedule
  exact remaining_eq_zero_iff.mp (by omega)

/-- When one caller has come to its end, the other goes on alone. -/
theorem completion_run {result : Except Failure Nat} (h : r.caller winner = .finished result)
    (schedule : List Bool) :
    (r.run place schedule).caller winner = .finished result ∧
      completion place ((r.run place schedule).caller !winner) (r.run place schedule).disk =
        completion place (r.caller !winner) r.disk := by
  induction schedule generalizing r with
  | nil => exact ⟨h, rfl⟩
  | cons who schedule ih =>
    rw [run_cons]
    by_cases hsame : who = winner
    · subst hsame
      rw [turn_finished h]
      exact ih h
    · obtain rfl : who = !winner := Bool.eq_not_of_ne hsame
      have hstays : (r.turn place !winner).caller winner = r.caller winner :=
        caller_turn_other (by simp)
      obtain ⟨hwon, hend⟩ := ih (hstays.trans h)
      refine ⟨hwon, hend.trans ?_⟩
      rw [caller_turn, turn, ← completion_step]

end Race

end QueryGate
