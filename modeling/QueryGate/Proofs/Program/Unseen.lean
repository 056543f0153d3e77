import QueryGate.Program.Basic

/-!
# What a caller sees of the history

What is recorded of a caller's statements, and whether it can be recorded, makes no difference to
what the caller sees. But the history is opened before anything is run, and a history that cannot be
opened ends the run there.

* `Run.shown`: the exit status of a run and what it printed.
* `Answers engine s b c a`: the database `b` answers the command `c` with `a`, whatever is kept of
  it.
* `Opens engine keeping w i`: the run opens its history, if it comes to that.
* `Refuses w i`: the run is asked to compare no statements, or too many.

Results:
* `record_unseen`: recording fails nowhere.
* `perform_started`, `perform_unstarted`: what a command with statements comes to, by how its
  session starts.

Headline: **`history_unseen_iff`**; `blocked_history_seen` is a run in which it is seen.
-/

namespace QueryGate

/-! ## Steps -/

section Steps

variable {α β : Type} {x : DiskStep α} {f : α → DiskStep β} {disk disk' : Disk Content} {a : α}
  {e : Failure}

theorem step_bind (x : DiskStep α) (f : α → DiskStep β) (disk : Disk Content) :
    (x >>= f) disk = ExceptT.bindCont f (x disk).1 (x disk).2 := rfl

/-- A step behind one that succeeded. -/
theorem step_of_ok (h : x disk = (.ok a, disk')) : (x >>= f) disk = f a disk' := by
  rw [step_bind, h]
  rfl

/-- Behind a step that failed nothing is done. -/
theorem step_of_error (h : x disk = (.error e, disk')) :
    (x >>= f) disk = (.error e, disk') := by
  rw [step_bind, h]
  rfl

end Steps

/-! ## Sessions -/

section Sessions

variable {β σ : Type} {engine : Engine β} {keeping : Keeping σ} {s : Settings}
  {disk disk' opened : Disk Content} {b : β} {e : Failure}

theorem start_unconnected (h : engine.connect disk = (.error e, disk')) :
    Session.start engine keeping s disk = (.error e, disk') :=
  step_of_error h

/-- A session whose history is kept needs it to be opened. -/
theorem start_unopened (hconnect : engine.connect disk = (.ok b, disk'))
    (henabled : s.history.enabled = true) (hopening : keeping.opening disk' = (.error e, opened)) :
    Session.start engine keeping s disk = (.error e, opened) := by
  have hsome : (some <$> keeping.opening : DiskStep (Option σ)) disk' = (.error e, opened) := by
    rw [← bind_pure_comp]
    exact step_of_error hopening
  unfold Session.start
  rw [step_of_ok hconnect, if_pos henabled, step_of_error hsome]

theorem start_opened (hconnect : engine.connect disk = (.ok b, disk'))
    (hopens : s.history.enabled = true →
      ∃ store opened, keeping.opening disk' = (.ok store, opened)) :
    ∃ x opened, Session.start engine keeping s disk = (.ok x, opened) ∧ x.backing = b := by
  unfold Session.start
  rw [step_of_ok hconnect]
  by_cases henabled : s.history.enabled = true
  · obtain ⟨store, opened, hopening⟩ := hopens henabled
    have hsome : (some <$> keeping.opening : DiskStep (Option σ)) disk' =
        (.ok (some store), opened) := by
      rw [← bind_pure_comp]
      exact step_of_ok hopening
    rw [if_pos henabled, step_of_ok hsome]
    exact ⟨_, opened, rfl, rfl⟩
  · rw [if_neg henabled]
    exact ⟨_, disk', rfl, rfl⟩

/-- **Recording fails nowhere**, whatever the sink says. -/
theorem record_unseen (keeping : Keeping σ) (x : Session β σ) (user : Int)
    (outcomes : List Outcome) (disk : Disk Content) :
    ∃ disk', x.record keeping user outcomes disk = (.ok (), disk') := by
  unfold Session.record
  cases x.store? with
  | none => exact ⟨disk, rfl⟩
  | some store => exact ⟨_, rfl⟩

end Sessions

/-! ## Commands with statements -/

/-- The command has statements of the caller. -/
def CommandLine.Command.hasStatements : CommandLine.Command → Bool
  | .query _ => true
  | .explain _ => true
  | .compare _ => true
  | .history .. => false
  | .generate _ => false

section Commands

variable {β σ : Type} {engine : Engine β} {keeping : Keeping σ} {w : World} {s : Settings}
  {i : CommandLine.Invocation} {disk disk' : Disk Content} {b : β} {e : Failure}
  {c : CommandLine.Command} {a : Except Failure Json}

/-- The answer of a database to a command with statements. -/
inductive Answers (engine : Engine β) (s : Settings) (b : β) :
    CommandLine.Command → Except Failure Json → Prop
  | query (sql : Sql) : Answers engine s b (.query sql) (.ok (engine.execute b sql).toJson)
  | explain (sql : Sql) : Answers engine s b (.explain sql) (.ok (engine.explain b sql).toJson)
  | compare {sqls : List Sql} (fits : compareFault? s sqls = none) :
      Answers engine s b (.compare sqls)
        (.ok (.arr ((engine.executeAll b sqls).map Outcome.toJson)))
  | refused {sqls : List Sql} {e : Failure} (fault : compareFault? s sqls = some e) :
      Answers engine s b (.compare sqls) (.error e)

theorem exists_answers (engine : Engine β) (s : Settings) (b : β) (h : c.hasStatements = true) :
    ∃ a, Answers engine s b c a := by
  cases c with
  | query sql => exact ⟨_, .query sql⟩
  | explain sql => exact ⟨_, .explain sql⟩
  | compare sqls =>
    cases hfault : compareFault? s sqls with
    | none => exact ⟨_, .compare hfault⟩
    | some e => exact ⟨_, .refused hfault⟩
  | history limit offset => exact absurd h Bool.false_ne_true
  | generate r => exact absurd h Bool.false_ne_true

/-- **A command whose session has started** comes to the answer of the database. -/
theorem perform_started {x : Session β σ}
    (hstart : Session.start engine keeping s disk = (.ok x, disk'))
    (h : Answers engine s x.backing i.command a) :
    (perform engine keeping w s i disk).1 = a := by
  unfold perform
  generalize i.command = c at h ⊢
  cases h with
  | query sql =>
    obtain ⟨saved, hrecord⟩ := record_unseen keeping x i.userId
      [engine.execute x.backing sql] disk'
    simp only
    rw [step_of_ok hstart, step_of_ok hrecord]
    rfl
  | explain sql =>
    simp only
    rw [step_of_ok hstart]
    rfl
  | @compare sqls fits =>
    obtain ⟨saved, hrecord⟩ := record_unseen keeping x i.userId
      (engine.executeAll x.backing sqls) disk'
    simp only
    rw [step_of_ok hstart, fits]
    simp only
    rw [step_of_ok hrecord]
    rfl
  | @refused sqls e fault =>
    simp only
    rw [step_of_ok hstart, fault]
    rfl

/-- **A command whose session does not start** comes to nothing. -/
theorem perform_unstarted (hstart : Session.start engine keeping s disk = (.error e, disk'))
    (h : i.command.hasStatements = true) : (perform engine keeping w s i disk).1 = .error e := by
  unfold perform
  generalize i.command = c at h ⊢
  cases c with
  | query sql => exact congrArg Prod.fst (step_of_error hstart)
  | explain sql => exact congrArg Prod.fst (step_of_error hstart)
  | compare sqls => exact congrArg Prod.fst (step_of_error hstart)
  | history limit offset => exact absurd h Bool.false_ne_true
  | generate r => exact absurd h Bool.false_ne_true

end Commands

/-! ## Runs -/

/-- What a caller sees of a run: the exit status and what was printed. -/
def Run.shown (r : Run) : Exit × Option Printed := (r.exit, r.printed?)

/-- What is shown of the result of a command. -/
def shownOf : Except Failure Json → Exit × Option Printed
  | .ok j => (.done, some (.result j))
  | .error _ => (.failed, none)

theorem exists_error_of_shownOf {a : Except Failure Json} (h : shownOf a = (.failed, none)) :
    ∃ e, a = .error e := by
  cases a with
  | error e => exact ⟨e, rfl⟩
  | ok j => exact absurd (congrArg Prod.fst h) (by simp [shownOf])

namespace Program

variable {β σ σ' : Type}

/-- The world of a run whose log has started. -/
def logged (w : World) (i : CommandLine.Invocation) : World :=
  { w with disk := (startLog w i.logFile).2.2 }

theorem shown_writeLog (r : Run) (place : LogPlace) (line : List Char) :
    (writeLog r place line).shown = r.shown := by
  cases place <;> rfl

/-- What is shown of a run, by what its command comes to. -/
theorem shown_invokeWith (engine : World → Settings → Engine β)
    (keeping : World → Settings → Keeping σ) (w : World) (i : CommandLine.Invocation) :
    (invokeWith engine keeping w i).shown = shownOf ((logged w i).settings i >>= fun s =>
      (perform (engine (logged w i) s) (keeping (logged w i) s) (logged w i) s i
        (logged w i).disk).1) := by
  unfold invokeWith logged
  rcases startLog w i.logFile with ⟨place, complaints, disk⟩
  dsimp only
  have hwork : ∀ (x : Except Failure Settings) (f : Settings → DiskStep Json),
      (x >>= fun s => (f s disk).1) =
        (((DiskStep.ofFunction fun d => (x, d)) >>= f : DiskStep Json) disk).1 := by
    intro x f
    cases x <;> rfl
  rw [hwork]
  unfold ExceptT.run
  generalize (DiskStep.ofFunction _ >>= _ : DiskStep Json) disk = result
  rcases result with ⟨e | j, disk'⟩
  · show (if _ then writeLog _ _ _ else _ : Run).shown = _
    split
    · exact shown_writeLog _ place _
    · rfl
  · rfl

/-- The run opens its history, if it comes to that: if there are settings by which the history is
kept, and the database can be connected to. -/
def Opens (engine : World → Settings → Engine β) (keeping : World → Settings → Keeping σ)
    (w : World) (i : CommandLine.Invocation) : Prop :=
  ∀ s b disk, (logged w i).settings i = .ok s → s.history.enabled = true →
    (engine (logged w i) s).connect (logged w i).disk = (.ok b, disk) →
    ∃ store opened, (keeping (logged w i) s).opening disk = (.ok store, opened)

/-- The run is asked for a comparison that its settings do not allow. -/
def Refuses (w : World) (i : CommandLine.Invocation) : Prop :=
  ∃ s sqls e, (logged w i).settings i = .ok s ∧ i.command = .compare sqls ∧
    compareFault? s sqls = some e

variable {engine : World → Settings → Engine β} {keeping : World → Settings → Keeping σ}
  {keeping' : World → Settings → Keeping σ'} {w : World} {i : CommandLine.Invocation}

/-- A history that does not open ends the run with nothing to show. -/
theorem shown_of_not_opens (hstatements : i.command.hasStatements = true)
    (h : ¬ Opens engine keeping w i) :
    (invokeWith engine keeping w i).shown = (.failed, none) := by
  refine Classical.byContradiction fun hshown => h fun s b disk hsettings henabled hconnect => ?_
  rcases hopening : (keeping (logged w i) s).opening disk with ⟨e | store, opened⟩
  · refine absurd ?_ hshown
    rw [shown_invokeWith, hsettings]
    show shownOf (perform _ _ _ s i (logged w i).disk).1 = _
    rw [perform_unstarted (start_unopened hconnect henabled hopening) hstatements]
    rfl
  · exact ⟨store, opened, rfl⟩

/-- **What a run shows whose history opens** does not depend on the history. It is a failure only if
the comparison is refused, or if the run does not come to its history. -/
theorem exists_shown (engine : World → Settings → Engine β) (w : World)
    (hstatements : i.command.hasStatements = true) : ∃ a : Except Failure Json,
      (∀ (σ : Type) (keeping : World → Settings → Keeping σ), Opens engine keeping w i →
        (invokeWith engine keeping w i).shown = shownOf a) ∧
      (Refuses w i → ∃ e, a = .error e) ∧
      ((∃ e, a = .error e) → Refuses w i ∨
        ∀ (σ : Type) (keeping : World → Settings → Keeping σ), Opens engine keeping w i) := by
  cases hsettings : (logged w i).settings i with
  | error e =>
    refine ⟨.error e, fun σ keeping _ => ?_, fun _ => ⟨e, rfl⟩, fun _ => Or.inr ?_⟩
    · rw [shown_invokeWith, hsettings]
      rfl
    · intro σ keeping s b disk hs
      exact absurd (hsettings.symm.trans hs) (by simp)
  | ok s =>
    rcases hconnect : (engine (logged w i) s).connect (logged w i).disk with ⟨e | b, disk⟩
    · refine ⟨.error e, fun σ keeping _ => ?_, fun _ => ⟨e, rfl⟩, fun _ => Or.inr ?_⟩
      · rw [shown_invokeWith, hsettings]
        show shownOf (perform _ _ _ s i (logged w i).disk).1 = _
        rw [perform_unstarted (start_unconnected hconnect) hstatements]
      · intro σ keeping s' b disk' hs _ hok
        obtain rfl : s = s' := Except.ok.inj (hsettings.symm.trans hs)
        rw [hconnect] at hok
        exact absurd (congrArg Prod.fst hok) (by simp)
    · obtain ⟨a, ha⟩ := exists_answers (engine (logged w i) s) s b hstatements
      refine ⟨a, fun σ keeping hopens => ?_, ?_, ?_⟩
      · obtain ⟨x, opened, hstart, rfl⟩ := start_opened hconnect
          (hopens s b disk hsettings · hconnect)
        rw [shown_invokeWith, hsettings]
        show shownOf (perform _ _ _ s i (logged w i).disk).1 = _
        rw [perform_started hstart ha]
      · rintro ⟨s', sqls, e, hs, hcommand, hfault⟩
        obtain rfl : s = s' := Except.ok.inj (hsettings.symm.trans hs)
        rw [hcommand] at ha
        cases ha with
        | compare fits => exact absurd (fits.symm.trans hfault) (by simp)
        | refused _ => exact ⟨_, rfl⟩
      · rintro ⟨e, rfl⟩
        generalize hcommand : i.command = c at ha
        cases ha with
        | refused fault => exact Or.inl ⟨s, _, e, hsettings, hcommand, fault⟩

/-- **The history is unseen but for its opening.** Let a command line run, explain or compare
statements, with any settings and any behaviour of the database. Two ways in which the history
behaves show the caller the same, the exit status and what is printed, if and only if the history
opens in both or in neither, or the comparison is refused anyway; so no failure to record anything
is seen. Where the history does not open the run fails and prints nothing. -/
theorem history_unseen_iff (engine : World → Settings → Engine β)
    (keeping : World → Settings → Keeping σ) (keeping' : World → Settings → Keeping σ') (w : World)
    (hstatements : i.command.hasStatements = true) :
    ((invokeWith engine keeping w i).shown = (invokeWith engine keeping' w i).shown ↔
        (Opens engine keeping w i ↔ Opens engine keeping' w i) ∨ Refuses w i) ∧
      (¬ Opens engine keeping' w i → (invokeWith engine keeping' w i).shown = (.failed, none)) := by
  obtain ⟨a, hshown, hrefused, herror⟩ := exists_shown engine w hstatements
  -- one of the two opens and the other does not, and they show the same
  have hdiffer : ∀ (σ τ : Type) (k : World → Settings → Keeping σ)
      (k' : World → Settings → Keeping τ), Opens engine k w i → ¬ Opens engine k' w i →
      (invokeWith engine k w i).shown = (invokeWith engine k' w i).shown → Refuses w i := by
    intro σ τ k k' hopens hclosed hsame
    rw [hshown σ k hopens, shown_of_not_opens hstatements hclosed] at hsame
    rcases herror (exists_error_of_shownOf hsame) with hrefuses | hall
    · exact hrefuses
    · exact absurd (hall τ k') hclosed
  refine ⟨⟨fun hsame => ?_, ?_⟩, shown_of_not_opens hstatements⟩
  · by_cases hopens : Opens engine keeping w i <;> by_cases hopens' : Opens engine keeping' w i
    · exact Or.inl ⟨fun _ => hopens', fun _ => hopens⟩
    · exact Or.inr (hdiffer _ _ _ _ hopens hopens' hsame)
    · exact Or.inr (hdiffer _ _ _ _ hopens' hopens hsame.symm)
    · exact Or.inl ⟨fun h => absurd h hopens, fun h => absurd h hopens'⟩
  · rintro (halike | hrefuses)
    · by_cases hopens : Opens engine keeping w i
      · rw [hshown σ keeping hopens, hshown σ' keeping' (halike.mp hopens)]
      · rw [shown_of_not_opens hstatements hopens,
          shown_of_not_opens hstatements (mt halike.mpr hopens)]
    · obtain ⟨e, rfl⟩ := hrefused hrefuses
      have hfailed : ∀ (τ : Type) (k : World → Settings → Keeping τ),
          (invokeWith engine k w i).shown = (.failed, none) := fun τ k =>
        (Classical.em (Opens engine k w i)).elim (hshown τ k) (shown_of_not_opens hstatements)
      rw [hfailed, hfailed]

/-- A database that refuses every statement. -/
def refusingEngine : Engine Unit where
  connect := fun disk => (.ok (), disk)
  execute _ sql := .refused sql "no"
  explain _ _ := .failed "no"
  executeAll _ sqls := sqls.map (.refused · "no")

/-- A history that records every attempt. -/
def collecting : Keeping (List Attempt) where
  opening := fun disk => (.ok [], disk)
  sink := { write := fun a l => (none, a :: l) }
  saved _ disk := disk

/-- A history that records no attempt. -/
def failing : Keeping (List Attempt) where
  opening := fun disk => (.ok [], disk)
  sink := { write := fun _ l => (some ⟨.persistence, "disk full"⟩, l) }
  saved _ disk := disk

/-- A history that does not open. -/
def unopened : Keeping (List Attempt) where
  opening := fun disk => (.error ⟨.persistence, "disk full"⟩, disk)
  sink := { write := fun _ l => (none, l) }
  saved _ disk := disk

/-- A run of one statement. -/
def oneQuery : CommandLine.Invocation := { command := .query "SELECT 1".toList }

/-- A history whose every write fails is not seen; one that does not open is. -/
theorem history_unseen_iff_sample :
    (invokeWith (fun _ _ => refusingEngine) (fun _ _ => collecting) {} oneQuery).shown =
        (invokeWith (fun _ _ => refusingEngine) (fun _ _ => failing) {} oneQuery).shown ∧
      (invokeWith (fun _ _ => refusingEngine) (fun _ _ => collecting) {} oneQuery).shown ≠
        (invokeWith (fun _ _ => refusingEngine) (fun _ _ => unopened) {} oneQuery).shown := by
  have hcollecting : Opens (fun _ _ => refusingEngine) (fun _ _ => collecting) {} oneQuery :=
    fun _ _ disk _ _ _ => ⟨[], disk, rfl⟩
  have hfailing : Opens (fun _ _ => refusingEngine) (fun _ _ => failing) {} oneQuery :=
    fun _ _ disk _ _ _ => ⟨[], disk, rfl⟩
  have hunopened : ¬ Opens (fun _ _ => refusingEngine) (fun _ _ => unopened) {} oneQuery := by
    intro h
    obtain ⟨store, opened, hopening⟩ := h {} () {} rfl rfl rfl
    exact absurd (congrArg Prod.fst hopening) (by simp [unopened])
  have hrefuses : ¬ Refuses {} oneQuery := by
    rintro ⟨s, sqls, e, -, hcommand, -⟩
    exact absurd hcommand (by simp [oneQuery])
  refine ⟨(history_unseen_iff _ _ _ {} rfl).1.mpr
    (Or.inl ⟨fun _ => hfailing, fun _ => hcollecting⟩), fun hsame => ?_⟩
  rcases (history_unseen_iff _ _ _ {} rfl).1.mp hsame with halike | hr
  · exact hunopened (halike.mp hcollecting)
  · exact hrefuses hr

/-- A world in which a file stands where the history belongs. -/
def blockedWorld : World where
  disk :=
    { nodes :=
        [([".config".toList], .directory), ([".config".toList, "sql-sandbox".toList], .file 0)]
      files := [.text ['x']] }

/-- The arguments of a run of one statement on a file database. -/
def queryArguments : List (List Char) :=
  ["--database-url".toList, "sqlite:a.db".toList, "query".toList, "SELECT 1 AS n".toList]

/-- **A history that cannot be opened is seen**: the statement is not run, and nothing is
printed. -/
theorem blocked_history_seen :
    ((run {} queryArguments).exit = .done ∧ (run {} queryArguments).printed?.isSome = true) ∧
      (run blockedWorld queryArguments).exit = .failed ∧
      (run blockedWorld queryArguments).printed?.isSome = false := by
  decide +kernel

end Program

end QueryGate
