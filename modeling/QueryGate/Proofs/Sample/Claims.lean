import QueryGate.Sample.Monitor

/-!
# Claims on a monitor

Holders begin, report, give their claims back and look, in any order. The monitor only keeps a flag
for them all, and giving a claim back clears it whoever else there may be. Yet the flag tells of one
claim at most: while a claim is held nobody else gets one, and without a claim nothing is changed.

* `Past`, `Monitor.after`: what was done and answered, and the monitor that is left.
* `live past`: the claims that were begun and not given back.
* `latest? past`: the latest begin or report that took effect.
* `Faithful m past`: the monitor shows what was done.

Headline: `single_writer`.
-/

namespace QueryGate.Sample

/-- What was done to a monitor and what it answered, the latest first. -/
abbrev Past := List (Action × Reply)

/-- The claims that were begun and not given back. -/
def live : Past → List String
  | [] => []
  | (.begin claim, .begun) :: past => claim :: live past
  | (.release claim, .released true) :: past => (live past).erase claim
  | _ :: past => live past

/-- What a holder made the monitor show. -/
structure Showing where
  holder : String
  progress : Nat
  task : String
  deriving DecidableEq, Repr

/-- What a begin or a report shows, if it took effect. -/
def showing? : Action × Reply → Option Showing
  | (.begin claim, .begun) => some ⟨claim, 0, "Starting..."⟩
  | (.report claim progress task, .reported) => some ⟨claim, min progress 100, task⟩
  | _ => none

/-- The latest begin or report that took effect. -/
def latest? (past : Past) : Option Showing := past.findSome? showing?

/-- Only the holder of the one live claim made the monitor show anything. -/
def ShownByHolders (past : Past) : Prop :=
  ∀ event earlier s, event :: earlier <:+ past → showing? event = some s →
    live (event :: earlier) = [s.holder]

theorem ShownByHolders.cons {past : Past} {event : Action × Reply} (h : ShownByHolders past)
    (hevent : ∀ s, showing? event = some s → live (event :: past) = [s.holder]) :
    ShownByHolders (event :: past) := by
  intro later earlier s hsuffix hs
  rcases List.suffix_cons_iff.mp hsuffix with hall | hpart
  · obtain ⟨rfl, rfl⟩ := List.cons.inj hall
    exact hevent s hs
  · exact h later earlier s hpart hs

namespace Monitor

/-- The monitor after the actions, and what was done. The latest action comes first. -/
def after : List Action → Monitor × Past
  | [] => ({}, [])
  | action :: earlier =>
    let (m, past) := after earlier
    ((m.act action).1, (action, (m.act action).2) :: past)

/-- The monitor shows what was done. -/
structure Faithful (m : Monitor) (past : Past) : Prop where
  claims : m.claims = live past
  single : (live past).length ≤ 1
  generating : m.status.generating = true ↔ live past ≠ []
  bounded : m.status.progress ≤ 100
  shown : (m.status.progress, m.status.task) =
    ((latest? past).map fun s => (s.progress, s.task)).getD (0, "")
  holders : ShownByHolders past

variable {m : Monitor} {past : Past} {claim : String}

namespace Faithful

theorem eq_singleton (h : Faithful m past) (hlive : claim ∈ live past) : live past = [claim] := by
  obtain ⟨holder, hholder⟩ := List.length_eq_one_iff.mp
    (Nat.le_antisymm h.single (List.length_pos_of_mem hlive))
  rw [hholder, List.mem_singleton] at hlive
  rw [hholder, hlive]

/-- A claim is given to whom asks first. -/
theorem act_begin (h : Faithful m past) (claim : String) :
    m.act (.begin claim) =
      if live past = [] then (⟨.starting, [claim]⟩, .begun)
      else (m, .refused alreadyGenerating) := by
  by_cases hnone : live past = []
  · have hidle : m.status.generating = false := by
      rw [← Bool.not_eq_true, h.generating, hnone]
      simp
    simp [act, begin, hidle, h.claims, hnone]
  · have hbusy := h.generating.mpr hnone
    simp [act, begin, hbusy, hnone]

/-- What the monitor is after its holder reports. -/
theorem report (h : Faithful m past) (hlive : claim ∈ live past) (progress : Nat) (task : String) :
    m.report progress task = ⟨⟨true, min progress 100, task⟩, [claim]⟩ := by
  have hbusy : m.status.generating = true := h.generating.mpr (List.ne_nil_of_mem hlive)
  rw [Monitor.report, Status.report, hbusy, h.claims, h.eq_singleton hlive]

/-- Nobody reports without a claim. -/
theorem act_report (h : Faithful m past) (claim : String) (progress : Nat) (task : String) :
    m.act (.report claim progress task) =
      if claim ∈ live past then (m.report progress task, .reported) else (m, .noClaim) := by
  simp [act, h.claims]

/-- Nobody gives back the claim of another. -/
theorem act_release (h : Faithful m past) (claim : String) :
    m.act (.release claim) =
      if claim ∈ live past then (⟨m.status.stop, []⟩, .released true)
      else (m, .released false) := by
  by_cases hlive : claim ∈ live past
  · simp [act, release, h.claims, h.eq_singleton hlive]
  · simp [act, h.claims, hlive]

/-- An action that changes nothing may be answered in any way that shows nothing. -/
theorem unchanged (h : Faithful m past) {event : Action × Reply} (hlive : live (event :: past) =
    live past) (hshows : showing? event = none) : Faithful m (event :: past) where
  claims := h.claims.trans hlive.symm
  single := hlive ▸ h.single
  generating := hlive ▸ h.generating
  bounded := h.bounded
  shown := by rw [h.shown, latest?, latest?, List.findSome?_cons, hshows]
  holders := h.holders.cons fun s hs => absurd (hshows.symm.trans hs) (by simp)

/-- **An action leaves the monitor faithful.** -/
theorem act (h : Faithful m past) (a : Action) :
    Faithful (m.act a).1 ((a, (m.act a).2) :: past) := by
  cases a with
  | begin claim =>
    rw [h.act_begin]
    by_cases hnone : live past = []
    · rw [if_pos hnone]
      have hlive : live ((.begin claim, .begun) :: past) = [claim] := by rw [live, hnone]
      refine ⟨hlive.symm, by simp [hlive], by simp [hlive, Status.starting], Nat.zero_le _, rfl, ?_⟩
      refine h.holders.cons fun s hs => ?_
      obtain rfl := Option.some.inj hs
      exact hlive
    · rw [if_neg hnone]
      exact h.unchanged rfl rfl
  | report claim progress task =>
    rw [h.act_report]
    by_cases hlive : claim ∈ live past
    · rw [if_pos hlive]
      refine ⟨h.claims, h.single, h.generating, Nat.min_le_right _ _, rfl, ?_⟩
      refine h.holders.cons fun s hs => ?_
      obtain rfl := Option.some.inj hs
      exact h.eq_singleton hlive
    · rw [if_neg hlive]
      exact h.unchanged rfl rfl
  | release claim =>
    rw [h.act_release]
    by_cases hlive : claim ∈ live past
    · rw [if_pos hlive]
      have hnone : live ((.release claim, .released true) :: past) = [] := by
        rw [live, h.eq_singleton hlive, List.erase_cons_head]
      refine ⟨hnone.symm, by simp [hnone], by simp [hnone, Status.stop], h.bounded, ?_, ?_⟩
      · exact h.shown
      · exact h.holders.cons fun s hs => absurd hs (by simp [showing?])
    · rw [if_neg hlive]
      exact h.unchanged rfl rfl
  | look => exact h.unchanged rfl rfl

end Faithful

/-- A monitor is faithful whatever was done to it. -/
theorem faithful_after (actions : List Action) : Faithful (after actions).1 (after actions).2 := by
  induction actions with
  | nil =>
    refine ⟨rfl, Nat.zero_le 1, by simp [after, live], Nat.zero_le _, rfl, ?_⟩
    exact fun event earlier s hsuffix => absurd (List.suffix_nil.mp hsuffix) (by simp)
  | cons action earlier ih => exact ih.act action

/-- **There is a single writer at any time**, whatever holders do in whatever order. At most one
claim is live, and the flag is set exactly while one is. A claim is given exactly when none is live,
and asking for it in vain changes nothing. What the holder of the live claim reports is shown, and
giving the claim back clears the flag and nothing else; without the claim both change nothing. The
monitor shows one hundred percent at most, and what it shows is what the latest begin or report made
it show; that was made by the holder of the one live claim. -/
theorem single_writer (actions : List Action) :
    let m := (after actions).1
    let past := (after actions).2
    (live past).length ≤ 1 ∧ (m.status.generating = true ↔ live past ≠ []) ∧
      (∀ claim, m.act (.begin claim) =
        if live past = [] then (⟨.starting, [claim]⟩, .begun)
        else (m, .refused alreadyGenerating)) ∧
      (∀ claim ∈ live past,
        (∀ progress task, m.act (.report claim progress task) =
          (⟨⟨true, min progress 100, task⟩, [claim]⟩, .reported)) ∧
        m.act (.release claim) =
          (⟨⟨false, m.status.progress, m.status.task⟩, []⟩, .released true)) ∧
      (∀ claim, claim ∉ live past →
        (∀ progress task, m.act (.report claim progress task) = (m, .noClaim)) ∧
          m.act (.release claim) = (m, .released false)) ∧
      m.status.progress ≤ 100 ∧
      (m.status.progress, m.status.task) =
        ((latest? past).map fun s => (s.progress, s.task)).getD (0, "") ∧
      ShownByHolders past := by
  intro m past
  have h := faithful_after actions
  refine ⟨h.single, h.generating, h.act_begin, fun claim hlive => ⟨fun progress task => ?_, ?_⟩,
    fun claim hout => ⟨fun progress task => ?_, ?_⟩, h.bounded, h.shown, h.holders⟩
  · rw [h.act_report, if_pos hlive, h.report hlive]
  · rw [h.act_release, if_pos hlive]
    rfl
  · rw [h.act_report, if_neg hout]
  · rw [h.act_release, if_neg hout]

/-- A second holder asks in vain, and what it does without the claim is not seen. -/
example :
    (after [.look, .release "b", .report "b" 90 "b", .begin "b", .report "a" 250 "a",
      .begin "a"]).1 = ⟨⟨true, 100, "a"⟩, ["a"]⟩ := by decide +kernel

end Monitor

end QueryGate.Sample
