import QueryGate.Proofs.Disk.Holding
import QueryGate.Proofs.History.Recovery

/-!
# Backups

An opening touches the file at its name, and a recovery moves what stands there to the backup name.
A backup that stands there already is replaced: of the files that recoveries moved aside, the latest
is held and the earlier ones are not. No opening drops any other file. All this is about files that
no log was left beside, since an opening reads such a log or drops it.

* `Opened place d e`: how an opening changes the disk, by whether it moves something aside.
* `MovesAside place d`: the opening finds a file that it moves aside.
* `HistoryPlace.Owns`: the names of the history, and of what is kept beside it while it is in use.
* `Spoiled place d e`: others change what stands at these names.
* `Openings place d n e`: openings of one place that find no log, with anything done at its names in
  between.

Headline: `backups_held`.
-/

namespace QueryGate

open Disk (Touches Sound Held)

variable {place : HistoryPlace} {d e f : Disk Content} {j k n : Nat}

/-! ## What an opening does to the disk -/

/-- How an opening changes the disk: it touches the file at its name, or moves what stands there
aside in between. What it moves aside stood there before, and it stays what it was. -/
inductive Opened (place : HistoryPlace) (d e : Disk Content) : Prop
  | kept (touches : Touches place.way d e)
  | aside {found moved : Disk Content} (before : Touches place.way d found)
      (old : ∀ v k, found.stands? v = some (.file k) → d.stands? v = some (.file k))
      (there : found.isPresent place.way = true)
      (move : found.rename place.way place.backupWay = .ok moved)
      (after : Touches place.way moved e)

/-- Changes before an opening that make no file. -/
theorem Opened.after_touching {g : Disk Content} (h : Opened place e g)
    (before : Touches place.way d e)
    (old : ∀ v k, e.stands? v = some (.file k) → d.stands? v = some (.file k)) :
    Opened place d g := by
  cases h with
  | kept touches => exact .kept (before.trans touches)
  | aside before' old' there move after =>
    exact .aside (before.trans before') (fun v k hs => old v k (old' v k hs)) there move after

namespace Opening

/-- A database that was opened can be read; it is empty if it was not there before. -/
theorem database_of_opened (hlog : d.Unlogged place.way)
    (h : d.openDatabase place.way = (.ok k, e)) :
    ∃ db, e.database? k = some db ∧ (e = d ∨ db = {}) := by
  rcases (Disk.openDatabase_ok hlog h).2.2 with ⟨rfl, db, hdb⟩ | hempty
  · exact ⟨db, hdb, .inl rfl⟩
  · exact ⟨{}, hempty, .inr rfl⟩

/-- After a recovery nothing else is moved. -/
theorem touches_connecting (hlog : d.Unlogged place.way) (attempts : Nat) :
    Touches place.way d (completion place (.connecting attempts true) d).2 := by
  induction attempts using Nat.strongRecOn with
  | ind attempts ih =>
    rw [completion_step]
    rcases hopen : d.openDatabase place.way with ⟨fault | k, d'⟩
    · obtain rfl := Disk.openDatabase_error hlog hopen
      rw [step_connecting_error hopen]
      split
      next hmore => exact ih (attempts - 1) (by omega)
      next => exact .refl _ _
    · obtain ⟨htouches, hs⟩ := Disk.touches_openDatabase hlog hopen
      obtain ⟨db, hdb, -⟩ := database_of_opened hlog hopen
      rw [step_connecting_ok hopen, completion_migrating hdb]
      have hwritten := htouches.trans (Disk.touches_write hs
        (.database { db with history := (Migration.makeVersions.run db.history).1 }))
      split
      · exact hwritten
      · exact hwritten

theorem opened_recovering (hname : place.path.EndsInName) (hlog : d.Unlogged place.way) :
    Opened place d (completion place .recovering d).2 := by
  rw [completion_step]
  by_cases hthere : d.isPresent place.way = true
  · cases hmove : d.rename place.way place.backupWay with
    | ok moved =>
      have hlog' : moved.Unlogged place.way :=
        Disk.eq_moved_of_rename (HistoryPlace.way_ne_backupWay hname) hmove ▸
          HistoryPlace.unlogged_moved hname hlog
      rw [step_recovering_ok hthere hmove]
      exact .aside (.refl _ d) (fun _ _ => id) hthere hmove (touches_connecting hlog' _)
    | error err =>
      rw [step_recovering_error hthere hmove]
      exact .kept (.refl _ d)
  · rw [step_recovering_absent ((Bool.not_eq_true _).mp hthere)]
    exact .kept (touches_connecting hlog _)

theorem opened_connecting (hname : place.path.EndsInName) (hlog : d.Unlogged place.way)
    (attempts : Nat) : Opened place d (completion place (.connecting attempts false) d).2 := by
  induction attempts using Nat.strongRecOn with
  | ind attempts ih =>
    rw [completion_step]
    rcases hopen : d.openDatabase place.way with ⟨fault | k, d'⟩
    · obtain rfl := Disk.openDatabase_error hlog hopen
      rw [step_connecting_error hopen]
      split
      next hmore => exact ih (attempts - 1) (by omega)
      next => exact opened_recovering hname hlog
    · obtain ⟨htouches, hs⟩ := Disk.touches_openDatabase hlog hopen
      obtain ⟨db, hdb, hold⟩ := database_of_opened hlog hopen
      rw [step_connecting_ok hopen, completion_migrating hdb]
      have hwritten := htouches.trans (Disk.touches_write hs
        (.database { db with history := (Migration.makeVersions.run db.history).1 }))
      split
      next => exact .kept hwritten
      next err herr =>
        -- a fresh database can be migrated, so it was there before
        have hsame : d' = d := hold.resolve_right fun hfresh => by
          have hempty := congrArg Prod.snd Migration.migrate_empty
          rw [hfresh] at herr
          exact absurd (hempty.symm.trans herr) (by simp)
        subst hsame
        exact (opened_recovering hname (hlog.write ..)).after_touching hwritten fun _ _ => id

/-- Making the directory makes no file, and no log beside the file. -/
theorem step_preparing_touches (hname : place.path.EndsInName) (hlog : d.Unlogged place.way) :
    (∃ e, step place d .preparing = (.connecting maxAttempts false, e) ∧ Touches place.way d e ∧
      e.Unlogged place.way ∧ ∀ v k, e.stands? v = some (.file k) → d.stands? v = some (.file k)) ∨
    ∃ result, step place d .preparing = (.finished result, d) := by
  simp only [step]
  split
  next => exact .inl ⟨d, rfl, .refl _ d, hlog, fun _ _ => id⟩
  next parent hparent =>
    split
    next => exact .inl ⟨d, rfl, .refl _ d, hlog, fun _ _ => id⟩
    next =>
      split
      next e hmade =>
        refine .inl ⟨e, rfl, Disk.touches_makeDirectories hmade _, ?_, fun v k hs => ?_⟩
        · rw [HistoryPlace.names_parent hparent] at hmade
          rw [HistoryPlace.way, Path.names_eq_concat place.base hname] at hlog ⊢
          exact hlog.makeDirectories hmade
        -- directories touch no name at all, so not this one
        · exact ((Disk.touches_makeDirectories hmade (v ++ [[]])).files hs).resolve_right (by simp)
      next => exact .inr ⟨_, rfl⟩

end Opening

/-- **What an opening does to the disk.** -/
theorem opened_openHistory (hname : place.path.EndsInName) (hlog : d.Unlogged place.way) :
    Opened place d (openHistory place d).2 := by
  rw [Opening.openHistory_eq, Opening.completion_step]
  rcases Opening.step_preparing_touches hname hlog with
    ⟨e, hstep, htouches, hlog', hold⟩ | ⟨result, hstep⟩
  · rw [hstep]
    exact (Opening.opened_connecting hname hlog' _).after_touching htouches hold
  · rw [hstep]
    exact .kept (.refl _ d)

/-! ## What an opening drops -/

/-- The opening moves the file that it finds aside: its name no longer leads to it. -/
def MovesAside (place : HistoryPlace) (d : Disk Content) : Prop :=
  ∃ k, d.node place.way = .ok (.file k) ∧
    (openHistory place d).2.node place.way ≠ .ok (.file k)

/-- What an opening leaves of the files of a disk. -/
structure Leaves (place : HistoryPlace) (d e : Disk Content) : Prop where
  sound : e.Sound
  length : d.files.length ≤ e.files.length
  /-- Only a file at the backup name is dropped, and only if another takes its place. -/
  held : ∀ {j}, d.Held j → (e.Held j ↔
    ¬ ((∃ k, d.node place.way = .ok (.file k) ∧ e.node place.way ≠ .ok (.file k)) ∧
      d.node place.backupWay = .ok (.file j)))
  /-- What was dropped stays so. -/
  dropped : ∀ {j}, j < d.files.length → ¬ d.Held j → ¬ e.Held j
  /-- Only the file of the history is written. -/
  contents : ∀ {j}, d.Held j → d.node place.way ≠ .ok (.file j) → e.content? j = d.content? j
  /-- The file that was moved aside stands at the backup name. -/
  aside : ∀ {k}, d.node place.way = .ok (.file k) → e.node place.way ≠ .ok (.file k) →
    e.node place.backupWay = .ok (.file k)
  /-- A backup that is not replaced stays. -/
  backup : ∀ {j}, d.node place.backupWay = .ok (.file j) → e.Held j →
    e.node place.backupWay = .ok (.file j)

/-- A disk that was only touched at the name of the history. -/
theorem Leaves.of_touches (hd : d.Sound) (h : Touches place.way d e) : Leaves place d e where
  sound := h.sound hd
  length := h.length
  held hheld :=
    iff_of_true (h.held hheld) fun ⟨⟨_, hfile, hmoved⟩, _⟩ => hmoved (h.grows.leads hfile)
  dropped hj hdropped := fun hheld => hdropped (h.held_of_lt hd hj hheld)
  contents hheld hway := by
    obtain ⟨v, hv⟩ := hd.held_iff.mp hheld
    exact h.contents (hd.known hv) fun hs => hway (hd.node_eq_ok_iff.mpr hs)
  aside hfile hmoved := absurd (h.grows.leads hfile) hmoved
  backup hbackup _ := h.grows.leads hbackup

/-- What moving the file of the history aside does. -/
structure SetAside (place : HistoryPlace) (found moved : Disk Content) : Prop where
  sound : moved.Sound
  gone : moved.stands? place.way = none
  /-- Only a file at the backup name is dropped. -/
  held : ∀ {j}, found.Held j → (moved.Held j ↔ found.stands? place.backupWay ≠ some (.file j))
  old : ∀ {j}, moved.Held j → found.Held j
  aside : ∀ {k}, found.node place.way = .ok (.file k) → moved.node place.backupWay = .ok (.file k)
  files : moved.files = found.files
  /-- Only a file takes the place of a file. -/
  file : ∀ {j}, found.stands? place.backupWay = some (.file j) →
    ∃ k, found.stands? place.way = some (.file k)

theorem setAside_of_rename {found moved : Disk Content} (hname : place.path.EndsInName)
    (hfound : found.Sound) (there : found.isPresent place.way = true)
    (move : found.rename place.way place.backupWay = .ok moved) : SetAside place found moved := by
  obtain ⟨dir, name, backup, hway, hbackup, hne, -⟩ := HistoryPlace.ways hname
  rw [hway, hbackup] at move
  obtain ⟨rfl, hbelow, hdirectory⟩ := Disk.rename_ok hfound (by simp) (by simpa using hne) move
  refine ⟨hfound.moved, ?_, fun hheld => ?_, Disk.held_of_moved hfound, fun hfile => ?_,
    rfl, fun {j} hfile => ?_⟩
  · rw [hway]
    exact Disk.stands?_moved_source (by simp) (Disk.not_prefix_beside (Ne.symm hne))
  · rw [hbackup]
    exact Disk.held_moved_iff hfound hne hbelow hheld
  · rw [hbackup]
    exact (Disk.moved_beside (hway ▸ hfile) hne).2.2
  · unfold Disk.isPresent at there
    split at there
    next hnode =>
      exact absurd (hbackup ▸ hfile) (hdirectory (hway ▸ Disk.stands?_of_node hnode) j)
    next k hnode => exact ⟨k, Disk.stands?_of_node hnode⟩
    next => exact absurd there (by simp)
    next => exact absurd there (by simp)

/-- A disk on which something was moved aside. -/
theorem Leaves.of_setAside (hd : d.Sound) {found moved : Disk Content}
    (before : Touches place.way d found)
    (old : ∀ v k, found.stands? v = some (.file k) → d.stands? v = some (.file k))
    (move : SetAside place found moved) (after : Touches place.way moved e) : Leaves place d e := by
  have hlength : d.files.length ≤ moved.files.length := move.files ▸ before.length
  -- the name of the history leads to no file that was there before
  have hgone {k : Nat} (hk : k < d.files.length) : e.node place.way ≠ .ok (.file k) := by
    intro hnode
    rcases after.files (Disk.stands?_of_node hnode) with hs | ⟨-, hnew⟩
    · exact absurd (move.gone.symm.trans hs) (by simp)
    · exact absurd (Nat.lt_of_lt_of_le hk hlength) (Nat.not_lt_of_le hnew)
  have hsame (j : Nat) : found.stands? place.backupWay = some (.file j) ↔
      d.node place.backupWay = .ok (.file j) := by
    rw [hd.node_eq_ok_iff]
    exact ⟨old _ j, before.grows.stands⟩
  have hback {j : Nat} (hj : j < d.files.length) (hheld : e.Held j) : moved.Held j :=
    after.held_of_lt move.sound (Nat.lt_of_lt_of_le hj hlength) hheld
  have hlost {j : Nat} (hj : d.node place.backupWay = .ok (.file j)) :
      (∃ k, d.node place.way = .ok (.file k) ∧ e.node place.way ≠ .ok (.file k)) ∧ ¬ e.Held j := by
    have hstands := (hsame j).mpr hj
    obtain ⟨k, hk⟩ := move.file hstands
    have hold := old _ k hk
    refine ⟨⟨k, hd.node_eq_ok_iff.mpr hold, hgone (hd.known hold)⟩, fun hheld => ?_⟩
    have hmoved := hback (hd.known (Disk.stands?_of_node hj)) hheld
    exact (move.held (move.old hmoved)).mp hmoved hstands
  have hkept {j : Nat} (hheld : d.Held j) (hj : d.node place.backupWay ≠ .ok (.file j)) :
      e.Held j :=
    after.held ((move.held (before.held hheld)).mpr fun hs => hj ((hsame j).mp hs))
  refine ⟨after.sound move.sound, Nat.le_trans hlength after.length, fun {j} hheld => ?_,
    fun hj hdropped hheld => ?_, fun hheld hother => ?_, fun hfile _ => ?_, fun hfile hheld => ?_⟩
  · by_cases hj : d.node place.backupWay = .ok (.file j)
    · exact iff_of_false (hlost hj).2 (not_not_intro ⟨(hlost hj).1, hj⟩)
    · exact iff_of_true (hkept hheld hj) fun h => hj h.2
  · exact hdropped (before.held_of_lt hd hj (move.old (hback hj hheld)))
  · obtain ⟨v, hv⟩ := hd.held_iff.mp hheld
    have hlt := hd.known hv
    have hunwritten := after.contents (Nat.lt_of_lt_of_le hlt hlength)
      fun hs => absurd (move.gone.symm.trans hs) (by simp)
    rw [hunwritten, Disk.content?, move.files]
    exact before.contents hlt fun hs => hother (hd.node_eq_ok_iff.mpr hs)
  · exact after.grows.leads (move.aside (before.grows.leads hfile))
  · exact absurd hheld (hlost hfile).2

theorem Opened.leaves (hname : place.path.EndsInName) (hd : d.Sound) (h : Opened place d e) :
    Leaves place d e := by
  cases h with
  | kept touches => exact .of_touches hd touches
  | aside before old there move after =>
    exact .of_setAside hd before old (setAside_of_rename hname (before.sound hd) there move) after

/-! ## Openings of one place -/

/-- The ways to what is kept beside a history while it is in use: its log, the index of the log, and
the journal of a change to the file itself. -/
def HistoryPlace.companions (p : HistoryPlace) : List (List FileName) :=
  ["-wal", "-shm", "-journal"].map fun ending =>
    p.way.dropLast ++ [p.way.getLastD [] ++ ending.toList]

/-- The name is that of the history, or is below it, or is that of a companion. -/
def HistoryPlace.Owns (p : HistoryPlace) (v : List FileName) : Prop :=
  p.way <+: v ∨ v ∈ p.companions

/-- A backup is none of what is kept beside the history. -/
theorem HistoryPlace.not_owns_backupWay (hname : place.path.EndsInName) :
    ¬ place.Owns place.backupWay := by
  obtain ⟨dir, name, backup, hway, hbackup, hne, hlast⟩ := HistoryPlace.ways hname
  have hends : ∀ ending ∈ ["-wal", "-shm", "-journal"],
      (name ++ ending.toList).getLast? ≠ some 'k' := by simp
  rintro (hbelow | hcompanion)
  · rw [hway, hbackup] at hbelow
    exact Disk.not_prefix_beside hne hbelow
  · simp only [companions, hway, hbackup, List.dropLast_concat, List.getLastD_concat,
      List.mem_map] at hcompanion
    obtain ⟨ending, hending, hsame⟩ := hcompanion
    obtain rfl := List.singleton_inj.mp (List.append_cancel_left hsame)
    exact hends ending hending hlast

/-- Others do anything at the names that the history owns: what stands there is removed, replaced,
written, or all of it. Other names and their files they leave alone, and what was dropped they
cannot bring back. -/
structure Spoiled (place : HistoryPlace) (d e : Disk Content) : Prop where
  sound : e.Sound
  length : d.files.length ≤ e.files.length
  others : ∀ {v}, ¬ place.Owns v → e.stands? v = d.stands? v
  files : ∀ {k}, k < d.files.length → e.Held k → d.Held k
  contents : ∀ {v k}, ¬ place.Owns v → d.stands? v = some (.file k) → e.content? k = d.content? k

/-- The file of the history may be written. -/
theorem Spoiled.write (hd : d.Sound) (h : d.node place.way = .ok (.file k)) (content : Content) :
    Spoiled place d (d.write k content) where
  sound := (Disk.touches_write (Disk.stands?_of_node h) content).sound hd
  length := (Disk.touches_write (Disk.stands?_of_node h) content).length
  others _ := rfl
  files hk hheld :=
    (Disk.touches_write (Disk.stands?_of_node h) content).held_of_lt hd hk hheld
  contents {v j} hv hs := by
    refine List.getElem?_set_ne fun hsame => hv (.inl ?_)
    exact hd.single hs (hsame ▸ Disk.stands?_of_node h) ▸ List.prefix_refl v

/-- Openings of one place, with anything done to its file and beside it in between, but no log left
there when it is opened: from one disk to another, with the number of the openings that moved a file
aside. -/
inductive Openings (place : HistoryPlace) (d : Disk Content) : Nat → Disk Content → Prop
  | nothing : Openings place d 0 d
  | spoiled {n : Nat} {e f : Disk Content} (before : Openings place d n e)
      (spoiled : Spoiled place e f) : Openings place d n f
  | kept {n : Nat} {e : Disk Content} (before : Openings place d n e)
      (unlogged : e.Unlogged place.way) (kept : ¬ MovesAside place e) :
      Openings place d n (openHistory place e).2
  | aside {n : Nat} {e : Disk Content} (before : Openings place d n e)
      (unlogged : e.Unlogged place.way) (aside : MovesAside place e) :
      Openings place d (n + 1) (openHistory place e).2

theorem leaves_openHistory (hname : place.path.EndsInName) (hlog : d.Unlogged place.way)
    (hd : d.Sound) : Leaves place d (openHistory place d).2 :=
  (opened_openHistory hname hlog).leaves hname hd

/-- **A backup is held until the next one.** -/
theorem Openings.backup (hname : place.path.EndsInName) (hopenings : Openings place d n f)
    (hd : d.Sound) (hbackup : d.node place.backupWay = .ok (.file k)) :
    f.Sound ∧ k < f.files.length ∧
      (n = 0 ∧ f.node place.backupWay = .ok (.file k) ∧ f.content? k = d.content? k ∨
        n ≠ 0 ∧ ¬ f.Held k) := by
  have hbeside := HistoryPlace.not_owns_backupWay hname
  induction hopenings with
  | nothing => exact ⟨hd, hd.known (Disk.stands?_of_node hbackup), .inl ⟨rfl, hbackup, rfl⟩⟩
  | @spoiled n e f _ spoiled ih =>
    obtain ⟨he, hlt, hheld⟩ := ih
    refine ⟨spoiled.sound, Nat.lt_of_lt_of_le hlt spoiled.length, hheld.imp ?_ ?_⟩
    · rintro ⟨rfl, hnode, hcontent⟩
      have hs := Disk.stands?_of_node hnode
      refine ⟨rfl, spoiled.sound.node_eq_ok_iff.mpr ((spoiled.others hbeside).trans hs), ?_⟩
      exact (spoiled.contents hbeside hs).trans hcontent
    · exact fun ⟨hn, hdropped⟩ => ⟨hn, fun hheld => hdropped (spoiled.files hlt hheld)⟩
  | @kept n e _ unlogged kept ih =>
    obtain ⟨he, hlt, hheld⟩ := ih
    have hleaves := leaves_openHistory hname unlogged he
    refine ⟨hleaves.sound, Nat.lt_of_lt_of_le hlt hleaves.length, hheld.imp ?_ ?_⟩
    · rintro ⟨rfl, hnode, hcontent⟩
      have hstill := (hleaves.held ⟨_, hnode⟩).mpr fun h => kept h.1
      have hother : e.node place.way ≠ .ok (.file k) := fun hfile =>
        HistoryPlace.way_ne_backupWay hname
          (he.single (Disk.stands?_of_node hfile) (Disk.stands?_of_node hnode))
      exact ⟨rfl, hleaves.backup hnode hstill,
        (hleaves.contents ⟨_, hnode⟩ hother).trans hcontent⟩
    · exact fun ⟨hn, hdropped⟩ => ⟨hn, hleaves.dropped hlt hdropped⟩
  | @aside n e _ unlogged aside ih =>
    obtain ⟨he, hlt, hheld⟩ := ih
    have hleaves := leaves_openHistory hname unlogged he
    refine ⟨hleaves.sound, Nat.lt_of_lt_of_le hlt hleaves.length, .inr ⟨Nat.succ_ne_zero n, ?_⟩⟩
    rcases hheld with ⟨-, hnode, -⟩ | ⟨-, hdropped⟩
    · exact fun hheld => (hleaves.held ⟨_, hnode⟩).mp hheld ⟨aside, hnode⟩
    · exact hleaves.dropped hlt hdropped

/-- **What recoveries drop.** Where no log was left beside the file, an opening drops no file but
the one at the backup name, and that one exactly when it moves the file that it finds aside; it
writes to none but that of the history. Nothing is said of what is kept beside the history while it
is in use. So of the files that openings of a place moved aside, the last is held at the backup name
with what it held then, whatever is done to the file of the history and beside it, and no name leads
to the others. -/
theorem backups_held (hname : place.path.EndsInName) (hd : d.Sound)
    (hlog : d.Unlogged place.way) :
    let e := (openHistory place d).2
    (∀ v j, d.node v = .ok (.file j) → v ∉ place.companions →
      (e.Held j ↔ ¬ (MovesAside place d ∧ v = place.backupWay)) ∧
      (v ≠ place.way → e.content? j = d.content? j)) ∧
    ∀ k, d.node place.way = .ok (.file k) → e.node place.way ≠ .ok (.file k) →
      ∀ n f, Openings place e n f →
        (f.Held k ↔ n = 0) ∧
        (n = 0 → f.node place.backupWay = .ok (.file k) ∧ f.content? k = e.content? k) := by
  intro e
  have hleaves := leaves_openHistory hname hlog hd
  refine ⟨fun v j hnode _ => ?_, fun k hfile hmoved n f hopenings => ?_⟩
  · have hat (w : List FileName) : d.node w = .ok (.file j) ↔ v = w := by
      refine ⟨fun hw => ?_, fun hsame => hsame ▸ hnode⟩
      exact hd.single (Disk.stands?_of_node hnode) (Disk.stands?_of_node hw)
    rw [← hat place.backupWay]
    exact ⟨hleaves.held ⟨v, hnode⟩, fun hne => hleaves.contents ⟨v, hnode⟩ ((hat _).not.mpr hne)⟩
  · obtain ⟨-, -, ⟨rfl, hback, hcontent⟩ | ⟨hn, hdropped⟩⟩ :=
      hopenings.backup hname hleaves.sound (hleaves.aside hfile hmoved)
    · exact ⟨iff_of_true ⟨_, hback⟩ rfl, fun _ => ⟨hback, hcontent⟩⟩
    · exact ⟨iff_of_false hdropped hn, fun h => absurd h hn⟩

/-! ## Two damages -/

/-- A history in the working directory. -/
def damagedPlace : HistoryPlace := { path := "history.db".toList }

theorem damagedPlace_endsInName : damagedPlace.path.EndsInName := by decide

/-- Its file is damaged. -/
def damagedDisk : Disk Content where
  nodes := [(["history.db".toList], .file 0)]
  files := [.bytes [1]]

theorem damagedDisk_sound : damagedDisk.Sound := by
  have hempty : Sound ({} : Disk Content) :=
    ⟨fun hs => by simp [Disk.stands?] at hs, fun hv => by simp [Disk.stands?] at hv,
      fun hs => by simp [Disk.stands?] at hs⟩
  have hroot : Disk.stands? ({} : Disk Content) [] = some .directory := rfl
  exact hempty.append hroot (by rfl) _ [.bytes [1]] fun k hk => ⟨(Node.file.inj hk).symm, by simp⟩

theorem damagedDisk_unlogged : damagedDisk.Unlogged damagedPlace.way := by decide

/-- After its recovery it is damaged again. -/
def damagedAgain : Disk Content := (openHistory damagedPlace damagedDisk).2.write 1 (.bytes [2])

theorem openings_damagedAgain :
    Openings damagedPlace (openHistory damagedPlace damagedDisk).2 1
      (openHistory damagedPlace damagedAgain).2 := by
  have hsound := (leaves_openHistory damagedPlace_endsInName damagedDisk_unlogged
    damagedDisk_sound).sound
  have hwritten : Spoiled damagedPlace (openHistory damagedPlace damagedDisk).2 damagedAgain :=
    .write hsound (by decide) _
  exact .aside (.spoiled .nothing hwritten) (by decide) ⟨1, by decide, by decide⟩

/-- What the first recovery moved aside is read under no name after the second. -/
theorem first_backup_replaced :
    ¬ ∀ (place : HistoryPlace) (d f : Disk Content) (k n : Nat) (c : Content),
      place.path.EndsInName → d.Sound → d.Unlogged place.way →
      d.node place.way = .ok (.file k) →
      (openHistory place d).2.node place.backupWay = .ok (.file k) →
      (openHistory place d).2.content? k = some c → Openings place (openHistory place d).2 n f →
      ∃ v, f.read v = .ok c := by
  intro h
  have hbackup : (openHistory damagedPlace damagedDisk).2.node damagedPlace.backupWay =
      .ok (.file 0) := by decide +kernel
  obtain ⟨v, hread⟩ := h damagedPlace damagedDisk _ 0 1 (.bytes [1]) damagedPlace_endsInName
    damagedDisk_sound damagedDisk_unlogged (by decide +kernel) hbackup (by decide +kernel)
    openings_damagedAgain
  have hsound := (leaves_openHistory damagedPlace_endsInName damagedDisk_unlogged
    damagedDisk_sound).sound
  have hdropped : ¬ (openHistory damagedPlace damagedAgain).2.Held 0 := by
    obtain ⟨-, -, ⟨hn, -⟩ | ⟨-, hdropped⟩⟩ :=
      openings_damagedAgain.backup damagedPlace_endsInName hsound hbackup
    · exact absurd hn (by decide)
    · exact hdropped
  have hfiles : (openHistory damagedPlace damagedAgain).2.files =
      [.bytes [1], .bytes [2], .database { history := ⟨.table (some [1]), .table {}, true⟩ }] := by
    decide +kernel
  unfold Disk.read at hread
  split at hread
  next => exact absurd hread (by simp)
  next => exact absurd hread (by simp)
  next => exact absurd hread (by simp)
  next number hnode =>
    rw [Disk.content?, hfiles] at hread
    rcases number with _ | _ | _ | number
    · exact hdropped ⟨v, hnode⟩
    · exact absurd hread (by simp)
    · exact absurd hread (by simp)
    · exact absurd hread (by simp)

/-- A file that is damaged twice: the first backup is held until the second damage is found. -/
theorem backups_held_damaged :
    damagedPlace.path.EndsInName ∧ damagedDisk.Sound ∧ damagedDisk.Unlogged damagedPlace.way ∧
      damagedDisk.node damagedPlace.way = .ok (.file 0) ∧
      (openHistory damagedPlace damagedDisk).2.node damagedPlace.way ≠ .ok (.file 0) ∧
      damagedAgain.Held 0 ∧ ¬ (openHistory damagedPlace damagedAgain).2.Held 0 := by
  have hfile : damagedDisk.node damagedPlace.way = .ok (.file 0) := by decide +kernel
  have hmoved : (openHistory damagedPlace damagedDisk).2.node damagedPlace.way ≠ .ok (.file 0) := by
    decide +kernel
  obtain ⟨-, hbackups⟩ :=
    backups_held damagedPlace_endsInName damagedDisk_sound damagedDisk_unlogged
  have hdropped := (hbackups 0 hfile hmoved 1 _ openings_damagedAgain).1
  exact ⟨damagedPlace_endsInName, damagedDisk_sound, damagedDisk_unlogged, hfile, hmoved,
    ⟨damagedPlace.backupWay, by decide +kernel⟩,
    fun hheld => absurd (hdropped.mp hheld) (by decide)⟩

end QueryGate
