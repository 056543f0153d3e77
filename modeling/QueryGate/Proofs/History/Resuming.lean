import QueryGate.Proofs.History.Migrations

/-!
# Migrations that were stopped

A migration may be stopped between any two statements, and several programs may be at work on one
file. So what only this program has written is not always a file at version zero or one. But it
always lacks the effects of the last few statements of a migration and of no others, whatever was
recorded in it meanwhile.

* `Schema.Written s running`: the files that this program writes, with the migrations at work.
* `Schema.lacking n log`: the file that lacks the effects of the last `n` statements.

Results:
* `step_lacking`, `run_lacking`: a statement in its turn, and a migration from there on.
* `Written.lacks`, `exists_written_iff`: these files are all that is written.

Headline: **`Written.migration_resumes`**: wherever migrations were stopped, one that is not stopped
ends at the supported version, and the records are the same afterwards.
-/

namespace QueryGate.Schema

open Migration

variable {s : Schema} {m : Migration} {n k : Nat} {log : Log} {running : List Migration}

/-- The records that the file holds. -/
def records (s : Schema) : Log :=
  match s.log with
  | .table log => log
  | _ => {}

/-- What only this program has written. Programs begin migrations, carry out their statements in
any interleaving and stop anywhere; `running` are the next statements of those that have neither
ended nor stopped. Once there is a log, it may hold any records. -/
inductive Written : Schema → List Migration → Prop
  | empty : Written {} []
  | begins {s : Schema} {running : List Migration} (h : Written s running) :
      Written s (.makeVersions :: running)
  | statement {s : Schema} {before after : List Migration} {m : Migration}
      (h : Written s (before ++ m :: after)) :
      Written (m.step s).1 (before ++ (m.step s).2.toOption.join.toList ++ after)
  | stops {s : Schema} {before after : List Migration} {m : Migration}
      (h : Written s (before ++ m :: after)) : Written s (before ++ after)
  | recorded {s : Schema} {running : List Migration} {log : Log} (h : Written s running)
      (hlog : s.log = .table log) (log' : Log) : Written { s with log := .table log' } running

/-- The file that lacks the effects of the last `n` statements of a migration, with these records
if it has a log. -/
def lacking (n : Nat) (log : Log) : Schema :=
  match n with
  | 0 => { versions := .table (some [supportedVersion]), log := .table log, indexed := true }
  | 1 => { versions := .table (some []), log := .table log, indexed := true }
  | 2 => { versions := .table (some []), log := .table log }
  -- reading the version has no effect
  | 3 => { versions := .table (some []) }
  | 4 => { versions := .table (some []) }
  | _ => {}

/-! ## Statements in their turn -/

theorem lacking_records (n : Nat) (log : Log) :
    lacking n (lacking n log).records = lacking n log := by
  rcases n with - | - | - | - | - | n <;> rfl

theorem records_lacking (hk : k ≤ n) (log : Log) :
    (lacking k (lacking n log).records).records = (lacking n log).records := by
  rcases k with - | - | - | - | - | k
  · rfl
  · rfl
  · rfl
  all_goals
    obtain ⟨n, rfl⟩ : ∃ i, n = i + 3 := ⟨n - 3, by omega⟩
    rcases n with - | - | n <;> rfl

/-- **A statement in its turn** makes up for what the file lacks of it, and keeps the records. -/
theorem step_lacking (h : n ≤ m.remaining) (log : Log) :
    ∃ result noted, m.step (lacking n log) =
        (lacking (min n (m.remaining - 1)) (lacking n log).records, result) ∧
      Course (n == 0) m result noted ∧
      ∀ next, result = .ok (some next) → next.remaining + 1 = m.remaining := by
  cases m with
  | makeVersions =>
    refine ⟨.ok (some .readVersion), _, ?_, .next _ (by simp [hasRead]) (by simp), ?_⟩
    · rcases n with - | - | - | - | - | n <;> rfl
    · rintro next ⟨⟩
      rfl
  | readVersion =>
    rcases Nat.eq_zero_or_pos n with rfl | hn
    · exact ⟨.ok none, _, rfl, .found rfl rfl, by simp⟩
    · refine ⟨.ok (some .makeLog), _, ?_, .next _ (by simp [hasRead]) fun _ => ?_, ?_⟩
      · change n ≤ 4 at h
        rcases n with - | - | - | - | - | n <;> first | rfl | omega
      · exact beq_false_of_ne hn.ne'
      · rintro next ⟨⟩
        rfl
  | makeLog =>
    refine ⟨.ok (some .makeIndex), _, ?_, .next _ (by simp [hasRead]) (by simp), ?_⟩
    · change n ≤ 3 at h
      rcases n with - | - | - | - | n <;> first | rfl | omega
    · rintro next ⟨⟩
      rfl
  | makeIndex =>
    refine ⟨.ok (some .noteVersion), _, ?_, .next _ (by simp [hasRead]) (by simp), ?_⟩
    · change n ≤ 2 at h
      rcases n with - | - | - | n <;> first | rfl | omega
    · rintro next ⟨⟩
      rfl
  | noteVersion =>
    change n ≤ 1 at h
    rcases n with - | - | n
    · exact ⟨_, _, rfl, .refused _ rfl rfl, by simp⟩
    · exact ⟨.ok none, _, rfl, .note rfl rfl, by simp⟩
    · omega

/-- The same, read off what a statement did. -/
theorem of_step_lacking {t : Schema} {result : Except MigrationError (Option Migration)}
    (h : n ≤ m.remaining) (hstep : m.step (lacking n log) = (t, result)) :
    t = lacking (min n (m.remaining - 1)) (lacking n log).records ∧
      (∃ noted, Course (n == 0) m result noted) ∧
      ∀ next, result = .ok (some next) → next.remaining + 1 = m.remaining := by
  obtain ⟨_, noted, hstep', hcourse, hturn⟩ := step_lacking h log
  obtain ⟨rfl, rfl⟩ := Prod.mk.inj (hstep.symm.trans hstep')
  exact ⟨rfl, ⟨noted, hcourse⟩, hturn⟩

/-! ## Runs -/

theorem remaining_pos (m : Migration) : 0 < m.remaining := by
  cases m <;> decide

/-- **A migration from one of its statements on** ends at the supported version, with the records
as they were, unless the version was noted since it was read. -/
theorem run_lacking (h : n ≤ m.remaining) (hread : m.hasRead = true → n ≠ 0) :
    m.run (lacking n log) = (lacking 0 (lacking n log).records, .ok ()) := by
  generalize hs : lacking n log = s
  induction s, m using Migration.run.induct generalizing n log with
  | case1 s m t next hstep ih =>
    subst hs
    obtain ⟨rfl, ⟨_, hcourse⟩, hturn⟩ := of_step_lacking h hstep
    have hturn := hturn next rfl
    have hpos := remaining_pos next
    have hread' : next.hasRead = true → min n (m.remaining - 1) ≠ 0 := by
      intro hnext
      have hn : n ≠ 0 := by
        cases hcourse with
        | next _ hiff hnoted =>
          rcases hiff.mp hnext with hm | hm
          · exact hread hm
          · simpa using hnoted hm
      omega
    rw [run_next hstep, ih (by omega) hread' rfl, records_lacking (by omega)]
  | case2 s m t hstep =>
    subst hs
    obtain ⟨rfl, ⟨_, hcourse⟩, -⟩ := of_step_lacking h hstep
    have hzero : min n (m.remaining - 1) = 0 := by
      cases hcourse with
      | found hm hnoted => rw [beq_iff_eq.mp hnoted, Nat.zero_min]
      | note hm hnoted => rw [hm]; exact Nat.min_zero n
    rw [run_last hstep, hzero]
  | case3 s m t err hstep =>
    subst hs
    obtain ⟨-, ⟨_, hcourse⟩, -⟩ := of_step_lacking h hstep
    cases hcourse with
    | refused err hm hnoted => exact absurd (beq_iff_eq.mp hnoted) (hread (hm ▸ rfl))

/-- A migration that is stopped leaves a file that lacks no more than before, and its records. -/
theorem interrupted_lacking (h : n ≤ m.remaining) (log : Log) (k : Nat) :
    ∃ n' ≤ n, Migration.interrupted k (lacking n log) m = lacking n' (lacking n log).records := by
  induction k generalizing n m log with
  | zero => exact ⟨n, Nat.le_refl n, (lacking_records n log).symm⟩
  | succ k ih =>
    obtain ⟨result, _, hstep, -, hturn⟩ := step_lacking h log
    have hle : min n (m.remaining - 1) ≤ n := Nat.min_le_left ..
    rw [Migration.interrupted, hstep]
    rcases result with err | - | next
    · exact ⟨_, hle, rfl⟩
    · exact ⟨_, hle, rfl⟩
    · have hturn := hturn next rfl
      have hin : min n (m.remaining - 1) ≤ next.remaining := by omega
      obtain ⟨n', hn', heq⟩ := ih hin (lacking n log).records
      exact ⟨n', hn'.trans hle, heq.trans (by rw [records_lacking hle])⟩

/-- A migration of a file ends at the supported version. -/
theorem migrate_lacking (hn : n ≤ 5) (log : Log) :
    (lacking n log).migrate = (lacking 0 (lacking n log).records, .ok ()) :=
  run_lacking hn fun h => absurd h Bool.false_ne_true

/-! ## What is written -/

/-- **What was written lacks the effects of the last few statements**, and every migration that is
at work has its turn. -/
theorem Written.lacks (h : Written s running) :
    ∃ n ≤ 5, ∃ log, s = lacking n log ∧ ∀ m ∈ running, n ≤ m.remaining := by
  induction h with
  | empty => exact ⟨5, Nat.le_refl 5, {}, rfl, by simp⟩
  | begins _ ih =>
    obtain ⟨n, hn, log, rfl, hturn⟩ := ih
    exact ⟨n, hn, log, rfl, List.forall_mem_cons.mpr ⟨hn, hturn⟩⟩
  | @statement s before after m _ ih =>
    obtain ⟨n, hn, log, rfl, hturn⟩ := ih
    obtain ⟨result, _, hstep, -, hnext⟩ := step_lacking (hturn m (by simp)) log
    refine ⟨min n (m.remaining - 1), (Nat.min_le_left ..).trans hn, (lacking n log).records,
      by rw [hstep], fun m' hm' => ?_⟩
    rw [hstep, List.mem_append, List.mem_append] at hm'
    rcases hm' with (hbefore | hself) | hafter
    · exact (Nat.min_le_left ..).trans (hturn m' (by simp [hbefore]))
    · rcases result with err | - | next
      · exact absurd hself (by simp [Except.toOption])
      · exact absurd hself (by simp [Except.toOption])
      · have := hnext next rfl
        obtain rfl : m' = next := by simpa [Except.toOption] using hself
        omega
    · exact (Nat.min_le_left ..).trans (hturn m' (by simp [hafter]))
  | @stops s before after m _ ih =>
    obtain ⟨n, hn, log, rfl, hturn⟩ := ih
    refine ⟨n, hn, log, rfl, fun m' hm' => hturn m' ?_⟩
    rcases List.mem_append.mp hm' with hbefore | hafter
    · exact List.mem_append_left _ hbefore
    · exact List.mem_append_right _ (List.mem_cons_of_mem _ hafter)
  | recorded _ hlog log' ih =>
    obtain ⟨n, hn, log, rfl, hturn⟩ := ih
    refine ⟨n, hn, log', ?_, hturn⟩
    rcases n with - | - | - | - | - | n
    · rfl
    · rfl
    · rfl
    all_goals exact absurd hlog (by simp [lacking])

/-- **These files are all that is written**, each of them with any records. -/
theorem exists_written_iff : (∃ running, Written s running) ↔ ∃ n log, s = lacking n log := by
  constructor
  · rintro ⟨running, h⟩
    obtain ⟨n, -, log, hs, -⟩ := h.lacks
    exact ⟨n, log, hs⟩
  · rintro ⟨n, log, rfl⟩
    have h5 : Written (lacking 5 log) [.makeVersions] := .begins .empty
    have h4 : Written (lacking 4 log) [.readVersion] := @Written.statement _ [] [] _ h5
    have h3 : Written (lacking 3 log) [.makeLog] := @Written.statement _ [] [] _ h4
    have hempty : Written (lacking 2 {}) [.makeIndex] := @Written.statement _ [] [] _ h3
    have h2 : Written (lacking 2 log) [.makeIndex] := hempty.recorded rfl log
    have h1 : Written (lacking 1 log) [.noteVersion] := @Written.statement _ [] [] _ h2
    have h0 : Written (lacking 0 log) [] := @Written.statement _ [] [] _ h1
    rcases n with - | - | - | - | - | n
    · exact ⟨_, h0⟩
    · exact ⟨_, h1⟩
    · exact ⟨_, h2⟩
    · exact ⟨_, h3⟩
    · exact ⟨_, h4⟩
    · exact ⟨_, .empty⟩

/-- **A stopped migration can be taken up.** Take any file that only this program has written, by
any number of migrations that were stopped anywhere, with any records. However far one more
migration gets before it is stopped, the next one that is not stopped succeeds: the supported
version is noted once and is the only one, the log and its index are there, and no record was
changed. One more changes nothing. -/
theorem Written.migration_resumes (h : Written s running) (k : Nat) :
    let stopped := Migration.interrupted k s .makeVersions
    stopped.records = s.records ∧
      ∃ t, stopped.migrate = (t, .ok ()) ∧ t.versions = .table (some [supportedVersion]) ∧
        t.log = .table s.records ∧ t.indexed = true ∧ t.migrate = (t, .ok ()) := by
  obtain ⟨n, hn, log, rfl, -⟩ := h.lacks
  obtain ⟨n', hn', hstopped⟩ := interrupted_lacking (m := .makeVersions) hn log k
  have hrecords := records_lacking hn' log
  rw [hstopped]
  refine ⟨hrecords, lacking 0 (lacking n log).records, ?_, rfl, rfl, rfl, ?_⟩
  · rw [migrate_lacking (hn'.trans hn), hrecords]
  · exact migrate_lacking (Nat.zero_le 5) _

/-- A log with one record. -/
def oneRecorded : Log := Log.insert {} 7 { userId := 1, sql := "SELECT 1".toList }

/-- The program was stopped before the index was made, and again after reading the version. -/
theorem Written.migration_resumes_record :
    let s : Schema := { versions := .table (some []), log := .table oneRecorded }
    Written s [] ∧
      ∃ t, (Migration.interrupted 2 s .makeVersions).migrate = (t, .ok ()) ∧
        t.versions = .table (some [1]) ∧ t.log = .table oneRecorded ∧ t.indexed = true := by
  have h5 : Written {} [.makeVersions] := .begins .empty
  have h4 : Written (lacking 4 {}) [.readVersion] := @Written.statement _ [] [] _ h5
  have h3 : Written (lacking 3 {}) [.makeLog] := @Written.statement _ [] [] _ h4
  have h2 : Written (lacking 2 {}) [.makeIndex] := @Written.statement _ [] [] _ h3
  have hstopped : Written (lacking 2 {}) [] := @Written.stops _ [] [] _ h2
  have hwritten : Written (lacking 2 oneRecorded) [] := hstopped.recorded rfl oneRecorded
  obtain ⟨-, t, hmigrate, hversions, hlog, hindexed, -⟩ := hwritten.migration_resumes 2
  exact ⟨hwritten, t, hmigrate, hversions, hlog, hindexed⟩

end QueryGate.Schema
