import QueryGate.History.Opening
import QueryGate.Proofs.Disk.Files
import QueryGate.Proofs.History.Migrations

/-!
# To the end of an opening

Every step of an opening leaves fewer steps to do, whatever others do to the disk between the steps.
So an opening comes to its end, and what it ends with is said step by step.

* `remaining o`: the most steps that are left.
* `completion place o disk`: what comes of an opening that nobody interrupts.

Results:
* `step_preparing_cases`, `step_connecting_ok`, `step_migrating`, `step_recovering_ok` and the like:
  what a step does.
* `remaining_step_lt`: a step leaves fewer steps to do.
* `completion_step`, `openHistory_eq`: an opening ends as after its next step.
* `completion_migrating`: a migration is carried out as a whole.
-/

namespace QueryGate

namespace Opening

variable {place : HistoryPlace} {disk d e : Disk Content} {o : Opening} {k n : Nat} {m : Migration}
  {recovered : Bool} {f : Failure} {db : Relational.Database}

/-! ## What a step does -/

/-- The directory is there or is made, or there is no opening. -/
theorem step_preparing_cases (place : HistoryPlace) (disk : Disk Content) :
    (∃ d, step place disk .preparing = (.connecting maxAttempts false, d) ∧
      Disk.Grows disk d ∧ d.files = disk.files ∧
      ∀ e, Disk.Grows d e → step place e .preparing = (.connecting maxAttempts false, e)) ∨
    ∃ detail, step place disk .preparing = (.finished (.error (persistence detail)), disk) := by
  cases hparent : place.path.parent? with
  | none =>
    exact .inl ⟨disk, by simp [step, hparent], .refl _, rfl, fun e _ => by simp [step, hparent]⟩
  | some parent =>
    by_cases hempty : parent.isEmpty = true
    · exact .inl ⟨disk, by simp only [step, hparent, if_pos hempty], .refl _, rfl,
        fun e _ => by simp only [step, hparent, if_pos hempty]⟩
    · cases hmade : disk.makeDirectories (parent.names place.base) with
      | error err =>
        refine .inr ⟨"Failed to create state directory " ++ String.ofList parent ++ ": " ++
          err.message, ?_⟩
        simp only [step, hparent, if_neg hempty, hmade]
      | ok d =>
        obtain ⟨hgrows, hfiles, hdir⟩ := Disk.makeDirectories_ok hmade
        refine .inl ⟨d, ?_, hgrows, hfiles, fun e he => ?_⟩
        · simp only [step, hparent, if_neg hempty, hmade]
        · have hthere := Disk.makeDirectories_of_directory (he.leads hdir)
          simp only [step, hparent, if_neg hempty, hthere]

theorem step_connecting_ok {attempts : Nat} (h : disk.openDatabase place.way = (.ok k, d)) :
    step place disk (.connecting attempts recovered) =
      (.migrating k .makeVersions recovered, d) := by
  simp only [step, h]

theorem step_connecting_error {attempts : Nat} {fault : OpenFault}
    (h : disk.openDatabase place.way = (.error fault, d)) :
    step place disk (.connecting attempts recovered) =
      (if 1 < attempts then .connecting (attempts - 1) recovered
        else giveUp recovered (connectFailure fault), d) := by
  simp only [step, h]
  split <;> rfl

/-- What follows a statement of the migration. -/
def follow (k : Nat) (recovered : Bool) : Except MigrationError (Option Migration) → Opening
  | .ok (some following) => .migrating k following recovered
  | .ok none => .finished (.ok k)
  | .error e => giveUp recovered (persistence e.message)

theorem step_migrating (h : disk.database? k = some db) :
    step place disk (.migrating k m recovered) =
      (follow k recovered (m.step db.history).2,
        disk.updateDatabase k { db with history := (m.step db.history).1 }) := by
  simp only [step, h, follow]
  split <;> simp_all

theorem step_migrating_none (h : disk.database? k = none) :
    step place disk (.migrating k m recovered) =
      (giveUp recovered (connectFailure .notDatabase), disk) := by
  simp only [step, h]

theorem step_recovering_ok (hthere : disk.isPresent place.way = true)
    (h : disk.rename place.way place.backupWay = .ok d) :
    step place disk .recovering = (.connecting maxAttempts true, d) := by
  simp only [step, hthere, if_true, h]

theorem step_recovering_error {err : DiskError} (hthere : disk.isPresent place.way = true)
    (h : disk.rename place.way place.backupWay = .error err) :
    step place disk .recovering =
      (.finished (.error (persistence ("Failed to backup corrupted database to " ++
        String.ofList place.backupPath ++ ": " ++ err.message))), disk) := by
  simp only [step, hthere, if_true, h]

theorem step_recovering_absent (h : disk.isPresent place.way = false) :
    step place disk .recovering = (.connecting maxAttempts true, disk) := by
  simp [step, h]

/-! ## Steps that are left -/

/-- The steps that a recovery may still take. -/
def toRecover (recovered : Bool) : Nat := if recovered then 0 else 9

/-- The most steps that are left. -/
def remaining : Opening → Nat
  | .preparing => maxSteps
  | .connecting attempts recovered =>
    max 1 attempts + Migration.makeVersions.remaining + toRecover recovered
  | .migrating _ next recovered => next.remaining + toRecover recovered
  | .recovering => toRecover false
  | .finished _ => 0

theorem remaining_connecting (attempts : Nat) (recovered : Bool) :
    (connecting attempts recovered).remaining =
      max 1 attempts + Migration.makeVersions.remaining + toRecover recovered := rfl

theorem remaining_migrating (k : Nat) (m : Migration) (recovered : Bool) :
    (migrating k m recovered).remaining = m.remaining + toRecover recovered := rfl

theorem remaining_finished (result : Except Failure Nat) : (finished result).remaining = 0 := rfl

theorem remaining_pos (m : Migration) : 0 < m.remaining := by cases m <;> decide

theorem remaining_eq_zero_iff : o.remaining = 0 ↔ ∃ result, o = .finished result := by
  cases o with
  | preparing => simp [remaining, maxSteps]
  | connecting attempts recovered => simp [remaining]
  | migrating k m recovered => simp [remaining, Nat.ne_of_gt (remaining_pos m)]
  | recovering => simp [remaining, toRecover]
  | finished result => simp [remaining]

theorem remaining_giveUp (recovered : Bool) (f : Failure) :
    (giveUp recovered f).remaining ≤ toRecover recovered := by
  cases recovered <;> simp [giveUp, remaining, toRecover]

/-- **A step leaves fewer steps to do**, on any disk. -/
theorem remaining_step_lt (place : HistoryPlace) (disk : Disk Content) (h : o.remaining ≠ 0) :
    (o.step place disk).1.remaining < o.remaining := by
  cases o with
  | preparing =>
    rcases step_preparing_cases place disk with ⟨d, hstep, -⟩ | ⟨detail, hstep⟩
    · rw [hstep]
      exact (by decide : (connecting maxAttempts false).remaining < maxSteps)
    · rw [hstep]
      exact (by decide : 0 < maxSteps)
  | connecting attempts recovered =>
    rw [remaining_connecting]
    rcases hopen : disk.openDatabase place.way with ⟨fault | k, d⟩
    · have hgave := remaining_giveUp recovered (connectFailure fault)
      rw [step_connecting_error hopen]
      by_cases hmore : 1 < attempts
      · rw [if_pos hmore, remaining_connecting]
        omega
      · rw [if_neg hmore]
        exact Nat.lt_of_le_of_lt hgave (by simp [Migration.remaining])
    · rw [step_connecting_ok hopen, remaining_migrating]
      omega
  | migrating k m recovered =>
    have hpos := remaining_pos m
    rw [remaining_migrating]
    cases hdb : disk.database? k with
    | none =>
      have hgave := remaining_giveUp recovered (connectFailure .notDatabase)
      rw [step_migrating_none hdb]
      exact Nat.lt_of_le_of_lt hgave (Nat.lt_add_of_pos_left hpos)
    | some db =>
      rw [step_migrating hdb]
      rcases hresult : m.step db.history with ⟨s, err | _ | following⟩
      · have hgave := remaining_giveUp recovered (persistence err.message)
        exact Nat.lt_of_le_of_lt hgave (Nat.lt_add_of_pos_left hpos)
      · exact Nat.add_pos_left hpos _
      · exact Nat.add_lt_add_right (Migration.remaining_lt hresult) _
  | recovering =>
    by_cases hthere : disk.isPresent place.way = true
    · cases hmoved : disk.rename place.way place.backupWay with
      | ok d =>
        rw [step_recovering_ok hthere hmoved]
        exact (by decide : (connecting maxAttempts true).remaining < toRecover false)
      | error err =>
        rw [step_recovering_error hthere hmoved]
        exact (by decide : 0 < toRecover false)
    · rw [step_recovering_absent ((Bool.not_eq_true _).mp hthere)]
      exact (by decide : (connecting maxAttempts true).remaining < toRecover false)
  | finished result => exact absurd rfl h

/-! ## The end -/

/-- What comes of an opening that nobody interrupts. -/
def completion (place : HistoryPlace) (o : Opening) (disk : Disk Content) :
    Except Failure Nat × Disk Content :=
  runIn place o.remaining o disk

theorem runIn_finished (place : HistoryPlace) (fuel : Nat) (result : Except Failure Nat)
    (disk : Disk Content) : runIn place fuel (.finished result) disk = (result, disk) := by
  cases fuel <;> rfl

theorem runIn_succ (h : o.remaining ≠ 0) (fuel : Nat) (disk : Disk Content) :
    runIn place (fuel + 1) o disk =
      runIn place fuel (o.step place disk).1 (o.step place disk).2 := by
  cases o with
  | finished result => exact absurd rfl h
  | _ => rfl

/-- An opening comes to its end when it may do the steps that are left. -/
theorem runIn_eq_completion {fuel : Nat} (h : o.remaining ≤ fuel) (disk : Disk Content) :
    runIn place fuel o disk = completion place o disk := by
  have hall : ∀ fuel fuel' o disk, o.remaining ≤ fuel → o.remaining ≤ fuel' →
      runIn place fuel o disk = runIn place fuel' o disk := by
    intro fuel
    induction fuel with
    | zero =>
      intro fuel' o disk h _
      obtain ⟨result, rfl⟩ := remaining_eq_zero_iff.mp (Nat.le_zero.mp h)
      rw [runIn_finished, runIn_finished]
    | succ fuel ih =>
      intro fuel' o disk h h'
      by_cases hdone : o.remaining = 0
      · obtain ⟨result, rfl⟩ := remaining_eq_zero_iff.mp hdone
        rw [runIn_finished, runIn_finished]
      · obtain ⟨fuel', rfl⟩ : ∃ n, fuel' = n + 1 := ⟨fuel' - 1, by omega⟩
        have hlt := remaining_step_lt place disk hdone
        rw [runIn_succ hdone, runIn_succ hdone]
        exact ih _ _ _ (by omega) (by omega)
  exact hall _ _ _ _ h (Nat.le_refl _)

theorem openHistory_eq (place : HistoryPlace) (disk : Disk Content) :
    openHistory place disk = completion place .preparing disk := rfl

theorem completion_finished (place : HistoryPlace) (result : Except Failure Nat)
    (disk : Disk Content) : completion place (.finished result) disk = (result, disk) := rfl

/-- **An opening ends as after its next step.** -/
theorem completion_step (place : HistoryPlace) (o : Opening) (disk : Disk Content) :
    completion place o disk = completion place (o.step place disk).1 (o.step place disk).2 := by
  by_cases hdone : o.remaining = 0
  · obtain ⟨result, rfl⟩ := remaining_eq_zero_iff.mp hdone
    rfl
  · have hlt := remaining_step_lt place disk hdone
    obtain ⟨fuel, hfuel⟩ : ∃ n, o.remaining = n + 1 := ⟨o.remaining - 1, by omega⟩
    rw [completion, hfuel, runIn_succ hdone, runIn_eq_completion (by omega)]

/-- **A migration is carried out as a whole.** -/
theorem completion_migrating (h : disk.database? k = some db) (m : Migration) :
    completion place (.migrating k m recovered) disk =
      completion place
        (match (m.run db.history).2 with
          | .ok () => .finished (.ok k)
          | .error e => giveUp recovered (persistence e.message))
        (disk.updateDatabase k { db with history := (m.run db.history).1 }) := by
  generalize hs : db.history = s
  induction s, m using Migration.run.induct generalizing disk db with
  | case1 s m t next hstep ih =>
    subst hs
    rw [completion_step, step_migrating h, hstep, Migration.run_next hstep]
    dsimp only [follow]
    rw [ih (Disk.database?_updateDatabase h) rfl, Disk.updateDatabase_updateDatabase]
  | case2 s m t hstep =>
    subst hs
    rw [completion_step, step_migrating h, hstep, Migration.run_last hstep]
    rfl
  | case3 s m t err hstep =>
    subst hs
    rw [completion_step, step_migrating h, hstep, Migration.run_refused hstep]
    rfl

end Opening

end QueryGate
