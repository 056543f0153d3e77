import QueryGate.Proofs.Disk.Ways
import QueryGate.Proofs.History.Openings

/-!
# Recovery

A history that cannot be opened is moved to its backup name, and a fresh one takes its place; only a
directory at the backup name prevents it. Every failure of a migration is answered so, also that the
file was written by a later program, which is no damage. The file keeps its content under the
backup name, where the next program of the later version does not look for it.

Only the file is moved. What stands in a log that was left beside it does not go with it, so what is
said of the content of a file is said of one without a log.

* `Moved`: what the disk holds after a recovery.

Headline: `newer_moved_aside`.
-/

namespace QueryGate

variable {place : HistoryPlace} {disk : Disk Content} {k : Nat} {db : Relational.Database}
  {versions : List Int}

/-! ## The file and its backup -/

/-- The file and its backup have different names in one directory. The name of a backup has an end
of its own. -/
theorem HistoryPlace.ways (h : place.path.EndsInName) : ∃ dir name backup,
    place.way = dir ++ [name] ∧ place.backupWay = dir ++ [backup] ∧ name ≠ backup ∧
      backup.getLast? = some 'k' :=
  ⟨_, _, _, Path.names_eq_concat place.base h,
    Path.names_withExtension place.base place.path (by decide) (by decide),
    Path.ne_stem_append (by decide) _, by simp⟩

theorem HistoryPlace.way_ne_backupWay (hname : place.path.EndsInName) :
    place.way ≠ place.backupWay := by
  obtain ⟨dir, name, backup, hway, hbackup, hne, -⟩ := HistoryPlace.ways hname
  rw [hway, hbackup]
  simpa using hne

/-- The directory that is made for a history is that of its file. -/
theorem HistoryPlace.names_parent {parent : Path} (h : place.path.parent? = some parent) :
    parent.names place.base = place.path.directoryPart.names place.base := by
  unfold Path.parent? at h
  split at h
  · exact absurd h (by simp)
  · rw [← Option.some.inj h, Path.names_trimmed]

/-- The file is without a log as before when it is moved to the backup name. -/
theorem HistoryPlace.unlogged_moved (hname : place.path.EndsInName)
    (hlog : disk.Unlogged place.way) :
    (disk.moved place.way place.backupWay).Unlogged place.way := by
  obtain ⟨dir, name, backup, hway, hbackup, -, hlast⟩ := HistoryPlace.ways hname
  rw [hway] at hlog ⊢
  rw [hbackup]
  exact hlog.moved fun hsame => absurd (hsame ▸ hlast) (by simp)

/-- A history that was recovered: a fresh one stands at the name of the file, the file at the backup
name, and no file lost its content. -/
structure Moved (place : HistoryPlace) (disk after : Disk Content) (k : Nat) : Prop where
  fresh : after.node place.way = .ok (.file disk.files.length)
  migrated : after.database? disk.files.length =
    some { history := ⟨.table (some [1]), .table {}, true⟩ }
  backup : after.node place.backupWay = .ok (.file k)
  contents : ∀ j < disk.files.length, after.content? j = disk.content? j

/-- The disk after the file of a history was replaced. -/
def HistoryPlace.replaced (place : HistoryPlace) (disk : Disk Content) : Disk Content :=
  ((disk.moved place.way place.backupWay).withFresh place.way).updateDatabase disk.files.length
    { history := ⟨.table (some [1]), .table {}, true⟩ }

/-- A file can be moved to its backup name: it is there, and so is the directory. -/
theorem HistoryPlace.movable (hname : place.path.EndsInName)
    (hfile : disk.node place.way = .ok (.file k)) :
    disk.isPresent place.way = true ∧ disk.checkParent place.backupWay = .ok () := by
  obtain ⟨dir, name, backup, hway, hbackup, -⟩ := HistoryPlace.ways hname
  refine ⟨by rw [Disk.isPresent, hfile], ?_⟩
  rw [hway] at hfile
  rw [hbackup]
  exact Disk.checkParent_concat.mpr (Disk.node_concat_eq_ok_iff.mp hfile).1

namespace Opening

/-- The directory of a file is there. -/
theorem step_preparing_of_file (hname : place.path.EndsInName)
    (hfile : disk.node place.way = .ok (.file k)) :
    step place disk .preparing = (.connecting maxAttempts false, disk) := by
  have hdir : disk.node (place.path.directoryPart.names place.base) = .ok .directory := by
    rw [HistoryPlace.way, Path.names_eq_concat place.base hname] at hfile
    exact (Disk.node_concat_eq_ok_iff.mp hfile).1
  cases hparent : place.path.parent? with
  | none => simp only [step, hparent]
  | some parent =>
    have hnames := HistoryPlace.names_parent hparent
    simp only [step, hparent, hnames, Disk.makeDirectories_of_directory hdir, ite_self]

/-- A directory at the backup name prevents the recovery. -/
theorem completion_recovering_of_directory (hname : place.path.EndsInName)
    (hfile : disk.node place.way = .ok (.file k))
    (hdir : disk.stands? place.backupWay = some .directory) :
    completion place .recovering disk =
      (.error (persistence ("Failed to backup corrupted database to " ++
        String.ofList place.backupPath ++ ": " ++ DiskError.isDirectory.message)), disk) := by
  obtain ⟨hthere, hparent⟩ := HistoryPlace.movable hname hfile
  have hrename := Disk.rename_file_of_directory hfile hparent hdir
  rw [completion_step, step_recovering_error hthere hrename]
  rfl

/-- **A recovery moves the file aside**, and a fresh history takes its place. -/
theorem completion_recovering (hname : place.path.EndsInName) (hlog : disk.Unlogged place.way)
    (hfile : disk.node place.way = .ok (.file k))
    (hfree : disk.stands? place.backupWay ≠ some .directory) :
    completion place .recovering disk = (.ok disk.files.length, place.replaced disk) ∧
      Moved place disk (place.replaced disk) k := by
  obtain ⟨dir, name, backup, hway, hbackup, hne, -⟩ := HistoryPlace.ways hname
  obtain ⟨hthere, hparent⟩ := HistoryPlace.movable hname hfile
  have hlog' := HistoryPlace.unlogged_moved hname hlog
  have hrename := Disk.rename_file hfile hparent (HistoryPlace.way_ne_backupWay hname) hfree
  obtain ⟨hdir, hold, hnew⟩ := Disk.moved_beside (hway ▸ hfile) hne
  rw [← hway, ← hbackup] at hdir hold hnew
  have hopen : (disk.moved place.way place.backupWay).openDatabase place.way =
      (.ok (disk.moved place.way place.backupWay).files.length,
        (disk.moved place.way place.backupWay).withFresh place.way) := by
    rw [hway] at hlog' hdir hold ⊢
    exact Disk.openDatabase_fresh hlog' hdir hold
  obtain ⟨hgrows, hat, -⟩ := Disk.openDatabase_ok hlog' hopen
  have hfresh := Disk.database?_withFresh (disk.moved place.way place.backupWay) place.way
  have hmigrate := Migration.migrate_empty
  unfold Schema.migrate at hmigrate
  constructor
  · rw [completion_step, step_recovering_ok hthere hrename, completion_step,
      step_connecting_ok hopen, completion_migrating hfresh, hmigrate]
    rfl
  · refine ⟨?_, Disk.database?_updateDatabase hfresh, ?_, fun j hj => ?_⟩
    · rw [HistoryPlace.replaced, Disk.node_updateDatabase]
      exact hat
    · rw [HistoryPlace.replaced, Disk.node_updateDatabase]
      exact hgrows.leads hnew
    · refine (Disk.content?_updateDatabase hfresh j).trans ?_
      exact (if_neg (Nat.ne_of_lt hj)).trans
        (Disk.content?_withFresh (d := disk.moved place.way place.backupWay) hj place.way)

end Opening

/-! ## A history of a later version -/

open Opening in
/-- **A history of a later version is moved aside** like a damaged one. Opening it fails only if a
directory stands at the backup name, and then leaves the disk as it was. Else a fresh history is
opened at its name, and the file stands at the backup name with all that it held: all of it is in
the file, because no log was left beside it. -/
theorem newer_moved_aside (hname : place.path.EndsInName) (hlog : disk.Unlogged place.way)
    (hfile : disk.node place.way = .ok (.file k)) (hdb : disk.database? k = some db)
    (hversions : db.history.versions = .table (some versions) ∨
      db.history.versions = .view (some versions))
    (hnewer : supportedVersion < Migration.highest versions) :
    (disk.stands? place.backupWay = some .directory →
      openHistory place disk =
        (.error (persistence ("Failed to backup corrupted database to " ++
          String.ofList place.backupPath ++ ": " ++ DiskError.isDirectory.message)), disk)) ∧
    (disk.stands? place.backupWay ≠ some .directory →
      ∃ after, openHistory place disk = (.ok disk.files.length, after) ∧
        after.node place.way = .ok (.file disk.files.length) ∧
        after.database? disk.files.length =
          some { history := ⟨.table (some [1]), .table {}, true⟩ } ∧
        after.node place.backupWay = .ok (.file k) ∧
        after.content? k = disk.content? k) := by
  have hafter : ∃ err, Migration.afterVersion (Migration.highest versions) = .error err := by
    unfold Migration.afterVersion
    by_cases hrange : Migration.highest versions < -twoTo 31 ∨ twoTo 31 ≤ Migration.highest versions
    · exact ⟨_, if_pos hrange⟩
    · exact ⟨_, (if_neg hrange).trans (if_pos hnewer)⟩
  obtain ⟨err, hafter⟩ := hafter
  have hread : Migration.makeVersions.run db.history = (db.history, .error err) := by
    have hmake : Migration.step db.history .makeVersions =
        (db.history, .ok (some .readVersion)) := by
      rcases hversions with h | h <;> simp [Migration.step, h]
    have hrefused : Migration.step db.history .readVersion = (db.history, .error err) := by
      rcases hversions with h | h <;> simp [Migration.step, h, hafter]
    rw [Migration.run_next hmake, Migration.run_refused hrefused]
  have hrecover : openHistory place disk = completion place .recovering disk := by
    rw [openHistory_eq, completion_step, step_preparing_of_file hname hfile, completion_step,
      step_connecting_ok (Disk.openDatabase_of_database hlog hfile hdb), completion_migrating hdb,
      hread]
    exact congrArg (completion place .recovering) (Disk.updateDatabase_self hdb)
  rw [hrecover]
  refine ⟨completion_recovering_of_directory hname hfile, fun hfree => ?_⟩
  obtain ⟨hend, hmoved⟩ := completion_recovering hname hlog hfile hfree
  have hlt := (List.getElem?_eq_some_iff.mp (Disk.content?_of_database? hdb)).1
  exact ⟨_, hend, hmoved.fresh, hmoved.migrated, hmoved.backup, hmoved.contents k hlt⟩

/-- A history of version 2 with one attempt, beside an older backup. -/
def newerDisk : Disk Content where
  nodes := [(["history.db".toList], .file 0), (["history.db.bak".toList], .file 1)]
  files :=
    [.database { history :=
      ⟨.table (some [1, 2]), .table ⟨[⟨1, { userId := 7, sql := "SELECT 1".toList }, 50⟩], 1⟩,
        true⟩ },
     .bytes [0]]

/-- Opening it does not fail, and its name leads to another file. -/
theorem newer_history_replaced :
    ¬ ∀ (place : HistoryPlace) (disk : Disk Content) (k : Nat) (db : Relational.Database)
      (versions : List Int), disk.node place.way = .ok (.file k) → disk.database? k = some db →
      db.history.versions = .table (some versions) →
      supportedVersion < Migration.highest versions →
      (∃ f, (openHistory place disk).1 = .error f ∧ f.kind = .persistence) ∧
        (openHistory place disk).2.node place.way = .ok (.file k) := by
  intro h
  have hresult := h { path := "history.db".toList } newerDisk 0 _ [1, 2] (by decide +kernel) rfl rfl
    (by decide)
  exact absurd hresult.2 (by decide +kernel)

/-- The history of version 2 replaces the older backup. -/
theorem newer_moved_aside_backup :
    let place : HistoryPlace := { path := "history.db".toList }
    place.path.EndsInName ∧ newerDisk.Unlogged place.way ∧
      newerDisk.node place.way = .ok (.file 0) ∧
      supportedVersion < Migration.highest [1, 2] ∧
      newerDisk.node place.backupWay = .ok (.file 1) ∧
      ∃ after, openHistory place newerDisk = (.ok 2, after) ∧
        after.node place.way = .ok (.file 2) ∧ after.node place.backupWay = .ok (.file 0) := by
  intro place
  have hname : place.path.EndsInName := by decide +kernel
  have hlog : newerDisk.Unlogged place.way := by decide +kernel
  have hfile : newerDisk.node place.way = .ok (.file 0) := by decide +kernel
  refine ⟨hname, hlog, hfile, by decide, by decide +kernel, ?_⟩
  obtain ⟨after, hopen, hfresh, -, hbackup, -⟩ :=
    (newer_moved_aside hname hlog hfile rfl (.inl rfl) (by decide)).2 (by decide +kernel)
  exact ⟨after, hopen, hfresh, hbackup⟩

end QueryGate
