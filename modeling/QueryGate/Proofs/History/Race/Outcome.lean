import QueryGate.Proofs.History.Race.Shared

/-!
# What comes of two openings

Callers that do not overlap on a sound file both get it. Of callers that overlap one is refused, and
moves the history aside in which the other records. A blocked file is opened by nobody.

What the one who is refused gets in its place is not said here: it makes a file at a name whose log
the other may still have open.

* `Barred`: what holds of a blocked file, whoever opens it.
* `Parted`: one caller got the file and the other did not.

Results:
* `keeps_step`, `Barred.run`: nobody gets past what is in the way in a blocked file.
* `shared_of_apart`, `parted_of_overlap`, `blocked_unopened`: the three outcomes.

Headline: `opened_twice`.
-/

namespace QueryGate

open Opening

variable {place : HistoryPlace} {disk d d₁ : Disk Content} {k : Nat} {db : Relational.Database}
  {m : Migration} {o : Opening} {versions : List Int} {winner : Bool} {schedule : List Bool}

/-! ## Blocked files -/

/-- The opening did not get past what is in the way in file `k`. -/
def Opening.Behind (k : Nat) (s : Schema) : Opening → Prop
  | .migrating file m _ => file = k → s.Open m
  | .finished (.ok file) => file ≠ k
  | _ => True

theorem Opening.behind_giveUp (k : Nat) (s : Schema) (recovered : Bool) (f : Failure) :
    (giveUp recovered f).Behind k s := by
  cases recovered <;> trivial

namespace Race

variable {r : Race}

/-- The history in file `k` is blocked, and no caller got past what is in the way. -/
structure Barred (k : Nat) (s : Schema) (r : Race) : Prop where
  held : ∃ db, r.disk.database? k = some db ∧ db.history = s
  blocked : s.Blocked
  callers : ∀ who, (r.caller who).Behind k s

/-- What a step leaves: the history in file `k`, which is `t` now, is blocked still, and neither the
opening nor another that was behind `s` gets past what is in the way. -/
structure Keeps (k : Nat) (s t : Schema) (after : Opening × Disk Content) : Prop where
  held : ∃ db, after.2.database? k = some db ∧ db.history = t
  blocked : t.Blocked
  stepped : after.1.Behind k t
  others : ∀ other : Opening, other.Behind k s → other.Behind k t

/-- A statement on the blocked file. -/
theorem keeps_statement (place : HistoryPlace) (recovered : Bool)
    (hdb : disk.database? k = some db) (hblocked : db.history.Blocked)
    (hopen : db.history.Open m) :
    ∃ t, Keeps k db.history t (step place disk (.migrating k m recovered)) := by
  obtain ⟨t, result, hstatement, hblocked', hgoes, hstays, hnext⟩ := hblocked.step hopen
  rw [Opening.step_migrating hdb, hstatement]
  refine ⟨t, ⟨_, Disk.database?_updateDatabase hdb, rfl⟩, hblocked', ?_, fun other hother => ?_⟩
  · rcases result with err | _ | next
    · exact behind_giveUp ..
    · exact absurd rfl hgoes
    · exact fun _ => hnext next rfl
  · cases other with
    | migrating file m' recovered' => exact fun hfile => hstays m' (hother hfile)
    | finished result => cases result <;> exact hother
    | _ => exact hother

/-- **What a step does to a blocked file and to who opens it.** -/
theorem keeps_step (place : HistoryPlace) (hdb : disk.database? k = some db)
    (hblocked : db.history.Blocked) (ho : o.Behind k db.history) :
    ∃ t, Keeps k db.history t (o.step place disk) := by
  have hsame {o' : Opening} {e : Disk Content} (hstep : o.step place disk = (o', e))
      (he : e.database? k = some db) (ho' : o'.Behind k db.history) :
      ∃ t, Keeps k db.history t (o.step place disk) := by
    rw [hstep]
    exact ⟨db.history, ⟨db, he, rfl⟩, hblocked, ho', fun _ => id⟩
  have hfiles {e : Disk Content} (he : e.files = disk.files) : e.database? k = some db :=
    (Disk.database?_congr he k).trans hdb
  cases o with
  | preparing =>
    rcases step_preparing_cases place disk with ⟨e, hstep, -, he, -⟩ | ⟨detail, hstep⟩
    · exact hsame hstep (hfiles he) trivial
    · exact hsame hstep hdb trivial
  | connecting attempts recovered =>
    have hheld := Disk.database?_openDatabase place.way hdb
    rcases hopen : disk.openDatabase place.way with ⟨fault | file, e⟩
    · rw [hopen] at hheld
      refine hsame (step_connecting_error hopen) hheld ?_
      split
      · trivial
      · exact behind_giveUp ..
    · rw [hopen] at hheld
      exact hsame (step_connecting_ok hopen) hheld fun _ => trivial
  | migrating file m recovered =>
    by_cases hown : file = k
    · subst hown
      exact keeps_statement place recovered hdb hblocked (ho rfl)
    · cases hfile : disk.database? file with
      | none => exact hsame (step_migrating_none hfile) hdb (behind_giveUp ..)
      | some db' =>
        refine hsame (Opening.step_migrating hfile) ?_ ?_
        · rw [← hdb, Disk.database?, Disk.content?_updateDatabase hfile, if_neg (Ne.symm hown)]
          rfl
        · rcases (m.step db'.history).2 with err | _ | next
          · exact behind_giveUp ..
          · exact hown
          · exact fun hfile' => absurd hfile' hown
  | recovering =>
    by_cases hthere : disk.isPresent place.way = true
    · cases hmoved : disk.rename place.way place.backupWay with
      | ok e =>
        have hheld := hfiles (Disk.files_rename hmoved)
        exact hsame (step_recovering_ok hthere hmoved) hheld trivial
      | error err => exact hsame (step_recovering_error hthere hmoved) hdb trivial
    · exact hsame (step_recovering_absent ((Bool.not_eq_true _).mp hthere)) hdb trivial
  | finished result => exact hsame rfl hdb ho

/-- Nobody opens a blocked file. -/
theorem Barred.run (h : ∃ s, Barred k s r) (schedule : List Bool) :
    ∃ s, Barred k s (r.run place schedule) := by
  induction schedule generalizing r with
  | nil => exact h
  | cons who schedule ih =>
    obtain ⟨s, ⟨db, hdb, rfl⟩, hblocked, hcallers⟩ := h
    obtain ⟨t, hkeeps⟩ := keeps_step place hdb hblocked (hcallers who)
    refine ih ⟨t, hkeeps.held, hkeeps.blocked, fun other => ?_⟩
    by_cases hsame : other = who
    · rw [hsame, caller_turn]
      exact hkeeps.stepped
    · rw [caller_turn_other hsame]
      exact hkeeps.others _ (hcallers other)

end Race

/-! ## Two openings -/

/-- One caller got the file. The other did not, and moved it aside, or failed where a directory
stands at the backup name. -/
structure Race.Parted (place : HistoryPlace) (d : Disk Content) (k : Nat) (winner : Bool)
    (r : Race) : Prop where
  won : r.caller winner = .finished (.ok k)
  lost : r.caller (!winner) ≠ .finished (.ok k)
  failed : d.stands? place.backupWay = some .directory →
    ∃ f, f.kind = .persistence ∧ r.caller (!winner) = .finished (.error f)
  moved : d.stands? place.backupWay ≠ some .directory →
    r.disk.node place.backupWay = .ok (.file k)

section Twice

variable (hprep : step place disk .preparing = (.connecting maxAttempts false, d₁))
  (hlog : d₁.Unlogged place.way) (hopen : d₁.openDatabase place.way = (.ok k, d))
  (hdb : d.database? k = some db)

include hprep hlog hopen hdb

/-- What is opened is a place that leads to a database. -/
theorem site_of_open : Site place d k db ∧ d₁.files = disk.files ∧
    step place d₁ .preparing = (.connecting maxAttempts false, d₁) := by
  rcases step_preparing_cases place disk with ⟨e, hstep, -, hfiles, hagain⟩ | ⟨detail, hstep⟩
  · obtain rfl : e = d₁ := congrArg Prod.snd (hstep.symm.trans hprep)
    obtain ⟨hgrows, hleads, -⟩ := Disk.openDatabase_ok hlog hopen
    exact ⟨⟨hdb, hlog.openDatabase hopen, hleads, fun e he => hagain e (hgrows.trans he)⟩, hfiles,
      hagain _ (.refl _)⟩
  · exact absurd (congrArg Prod.fst (hstep.symm.trans hprep)) (by simp)

theorem clean_start (hsound : db.history.Sound versions false) :
    ∃ s noted, Race.Clean place d k db versions s noted { disk } := by
  obtain ⟨hsite, -, hagain⟩ := site_of_open hprep hlog hopen hdb
  refine ⟨db.history, false, ⟨hsound, ⟨d₁, hprep, hagain, ?_⟩, fun _ => .preparing⟩, by simp⟩
  rw [hsite.withHistory_self]
  exact hopen

theorem barred_start (hblocked : db.history.Blocked) : ∃ s, Race.Barred k s { disk } := by
  obtain ⟨-, hfiles, -⟩ := site_of_open hprep hlog hopen hdb
  refine ⟨db.history, ⟨db, ?_, rfl⟩, hblocked, fun _ => trivial⟩
  rcases (Disk.openDatabase_ok hlog hopen).2.2 with ⟨rfl, -⟩ | hfresh
  · exact (Disk.database?_congr hfiles k).symm.trans hdb
  · obtain rfl : {} = db := Option.some.inj (hfresh.symm.trans hdb)
    rcases hblocked.reason with ⟨_, hview⟩ | hindex | ⟨hforeign, -⟩
    · exact absurd hview (by simp)
    · exact absurd hindex (by simp)
    · exact absurd hforeign (by simp)

/-- Nobody gets a blocked file. -/
theorem blocked_unopened (hblocked : db.history.Blocked) (schedule : List Bool) (who : Bool) :
    (Race.run place { disk } schedule).caller who ≠ .finished (.ok k) := by
  intro hgot
  obtain ⟨s, hbarred⟩ := Race.Barred.run (barred_start hprep hlog hopen hdb hblocked) schedule
  have hbehind := hbarred.callers who
  rw [hgot] at hbehind
  exact hbehind rfl

variable (hturns : ∀ who, maxSteps ≤ schedule.count who)

include hturns

/-- Callers that do not overlap get one sound file, and the version is noted once. -/
theorem shared_of_apart (hsound : db.history.Sound versions false)
    (hno : ¬ Race.Overlap place { disk } schedule) :
    let race := Race.run place { disk } schedule
    (∀ who, race.caller who = .finished (.ok k)) ∧ (∀ way, race.disk.node way = d.node way) ∧
      ∃ db' noted, race.disk.database? k = some db' ∧
        db'.history.versions = .table (some noted) ∧ noted.count supportedVersion = 1 := by
  intro race
  obtain ⟨hsite, -, -⟩ := site_of_open hprep hlog hopen hdb
  obtain ⟨s, noted, hend⟩ := Race.Clean.run hsite (clean_start hprep hlog hopen hdb hsound) hno
  obtain ⟨hall, hdisk, hsound'⟩ := hend.finished fun who => Race.finished_run _ (hturns who)
  obtain ⟨noted, hnoted, honce⟩ := hsound'.noted_once
  refine ⟨hall, fun way => ?_, { db with history := s }, noted, ?_, hnoted, honce⟩
  · rw [hdisk, Disk.withHistory, Disk.node_updateDatabase]
  · rw [hdisk]
    exact hsite.held_withHistory s

/-- Of callers that overlap on a sound file one is refused. -/
theorem parted_of_overlap (hname : place.path.EndsInName)
    (hsound : db.history.Sound versions false) (hoverlap : Race.Overlap place { disk } schedule) :
    ∃ winner, (Race.run place { disk } schedule).Parted place d k winner := by
  obtain ⟨hsite, -, -⟩ := site_of_open hprep hlog hopen hdb
  obtain ⟨winner, result, t, hwins, hresult, hend⟩ :=
    Race.Clean.refused hsite (clean_start hprep hlog hopen hdb hsound) hoverlap
      fun who => Race.finished_run _ (hturns who)
  by_cases hdir : d.stands? place.backupWay = some .directory
  · rw [completion_recovering_of_directory hname (hsite.leads_withHistory t) hdir] at hend
    obtain ⟨rfl, -⟩ := Prod.mk.inj hend
    exact ⟨winner, hwins, by simp [hresult], fun _ => ⟨_, rfl, hresult⟩, fun h => absurd hdir h⟩
  · obtain ⟨hrecovered, hmoved⟩ := completion_recovering hname (hsite.unlogged_withHistory t)
      (hsite.leads_withHistory t) hdir
    rw [hrecovered] at hend
    obtain ⟨rfl, hdisk⟩ := Prod.mk.inj hend
    have hlt := (List.getElem?_eq_some_iff.mp
      (Disk.content?_of_database? (hsite.held_withHistory t))).1
    refine ⟨winner, hwins, ?_, fun h => absurd h hdir, fun _ => hdisk ▸ hmoved.backup⟩
    rw [hresult]
    exact fun hsame => Nat.ne_of_gt hlt (Except.ok.inj (Opening.finished.inj hsame))

end Twice

/-- **Two callers open one history.** Both get the same file, and nothing is moved, iff the file can
be migrated and they do not overlap: one has noted the version before the other reads it. Then the
version is noted once. If they overlap on a file that can be migrated, one caller gets it and the
other, which does not, moves it aside, or fails where a directory stands at the backup name. -/
theorem opened_twice (hname : place.path.EndsInName)
    (hprep : step place disk .preparing = (.connecting maxAttempts false, d₁))
    (hlog : d₁.Unlogged place.way) (hopen : d₁.openDatabase place.way = (.ok k, d))
    (hdb : d.database? k = some db) (hzero : db.history.AtZero) (schedule : List Bool)
    (hturns : ∀ who, maxSteps ≤ schedule.count who) :
    let race := Race.run place { disk } schedule
    ((∀ who, race.caller who = .finished (.ok k)) ↔
      db.history.migrate.2 = .ok () ∧ ¬ Race.Overlap place { disk } schedule) ∧
    ((∀ who, race.caller who = .finished (.ok k)) →
      (∀ way, race.disk.node way = d.node way) ∧
      ∃ db' noted, race.disk.database? k = some db' ∧
        db'.history.versions = .table (some noted) ∧ noted.count supportedVersion = 1) ∧
    (db.history.migrate.2 = .ok () → Race.Overlap place { disk } schedule →
      ∃ winner, race.Parted place d k winner) := by
  intro race
  rw [Schema.migrate_ok_iff hzero]
  have hneeds (hall : ∀ who, race.caller who = .finished (.ok k)) :
      (∃ versions, db.history.Sound versions false) ∧
        ¬ Race.Overlap place { disk } schedule := by
    rcases Schema.sound_or_blocked hzero with ⟨versions, hsound⟩ | hblocked
    · refine ⟨⟨versions, hsound⟩, fun hoverlap => ?_⟩
      obtain ⟨winner, hparted⟩ :=
        parted_of_overlap hprep hlog hopen hdb hturns hname hsound hoverlap
      exact absurd (hall !winner) hparted.lost
    · exact absurd (hall true) (blocked_unopened hprep hlog hopen hdb hblocked schedule true)
  refine ⟨⟨hneeds, ?_⟩, fun hall => ?_, ?_⟩
  · rintro ⟨⟨versions, hsound⟩, hno⟩
    exact (shared_of_apart hprep hlog hopen hdb hturns hsound hno).1
  · obtain ⟨⟨versions, hsound⟩, hno⟩ := hneeds hall
    exact (shared_of_apart hprep hlog hopen hdb hturns hsound hno).2
  · rintro ⟨versions, hsound⟩ hoverlap
    exact parted_of_overlap hprep hlog hopen hdb hturns hname hsound hoverlap

/-- The history is a file in the directory of the program. -/
def plainPlace : HistoryPlace := { path := "history.db".toList }

/-- The callers take turns. -/
def inTurn : List Bool := (List.replicate maxSteps [true, false]).flatten

/-- A file at version zero with another table under the name of the log. -/
def foreignDisk : Disk Content where
  nodes := [(["history.db".toList], .file 0)]
  files := [.database { history := ⟨.absent, .foreign, false⟩ }]

/-- The history that one caller has made is moved aside by the other, and a file with another table
is moved aside by the first of two callers that open it one after the other. -/
theorem openings_collide :
    let race := Race.run plainPlace { disk := {} } inTurn
    let inOrder := List.replicate maxSteps true ++ List.replicate maxSteps false
    let race' := Race.run plainPlace { disk := foreignDisk } inOrder
    (∀ who, maxSteps ≤ inTurn.count who) ∧ race.disk.node plainPlace.way ≠ .ok (.file 0) ∧
      race.disk.node plainPlace.backupWay = .ok (.file 0) ∧
      (∀ who, maxSteps ≤ inOrder.count who) ∧ race'.disk.node plainPlace.way ≠ .ok (.file 0) ∧
      race'.disk.node plainPlace.backupWay = .ok (.file 0) := by
  decide +kernel

/-- Of two callers that take turns on an empty disk, one gets the first file, and the other moves it
aside. -/
theorem opened_twice_in_turn :
    plainPlace.path.EndsInName ∧ ({} : Disk Content).Unlogged plainPlace.way ∧
      ({} : Schema).AtZero ∧ (∀ who, maxSteps ≤ inTurn.count who) ∧
      ∃ winner, (Race.run plainPlace { disk := {} } inTurn).caller winner = .finished (.ok 0) ∧
        (Race.run plainPlace { disk := {} } inTurn).caller (!winner) ≠ .finished (.ok 0) ∧
        (Race.run plainPlace { disk := {} } inTurn).disk.node plainPlace.backupWay =
          .ok (.file 0) := by
  have hname : plainPlace.path.EndsInName := by decide +kernel
  have hturns : ∀ who, maxSteps ≤ inTurn.count who := by decide +kernel
  have hparent : plainPlace.path.parent? = some [] := by decide +kernel
  have hway : plainPlace.way = [] ++ ["history.db".toList] := by decide +kernel
  have hprep : step plainPlace {} .preparing = (.connecting maxAttempts false, {}) := by
    simp [step, hparent]
  have hlog : ({} : Disk Content).Unlogged plainPlace.way := by decide +kernel
  have hopen : ({} : Disk Content).openDatabase plainPlace.way =
      (.ok 0, ({} : Disk Content).withFresh plainPlace.way) := by
    rw [hway] at hlog ⊢
    exact Disk.openDatabase_fresh hlog rfl rfl
  have hoverlap : Race.Overlap plainPlace { disk := {} } inTurn :=
    ⟨8, by unfold Race.Both; decide +kernel⟩
  obtain ⟨-, -, hcollides⟩ :=
    opened_twice hname hprep hlog hopen (Disk.database?_withFresh ..) (.inl rfl) inTurn hturns
  obtain ⟨winner, hparted⟩ := hcollides (congrArg Prod.snd Migration.migrate_empty) hoverlap
  exact ⟨hname, hlog, .inl rfl, hturns, winner, hparted.won, hparted.lost,
    hparted.moved (by decide +kernel)⟩

end QueryGate
