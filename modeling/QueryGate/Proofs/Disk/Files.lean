import QueryGate.Proofs.Disk.Names

/-!
# Files under their names

A file keeps its number when it is moved, and its content when others are written.

Results:
* `database?_updateDatabase`: what was written is read.
* `openFile_cases`, `openDatabase_cases`: all that opening does.
* `openDatabase_unlogged`: without a log beside it, a database is what its file holds.
* `openDatabase_ok`, `openDatabase_of_database`, `openDatabase_fresh`, `database?_openDatabase`:
  what is there after a database was opened.
* `rename_file_of_directory`, `rename_file`: when a file can be moved.
* `stands?_moved`, `moved_beside`: what stands where after a move.
-/

namespace QueryGate.Disk

variable {α : Type} {way source target v w : List FileName} {name : FileName} {n : Node} {k j : Nat}

/-- All that opening a file does: it is there, or it is made in its directory. -/
theorem openFile_cases {d e : Disk α} {fresh : α} (h : d.openFile way fresh = .ok (k, e)) :
    d.node way = .ok (.file k) ∧ e = d ∨
      ∃ dir name, way = dir ++ [name] ∧ d.node dir = .ok .directory ∧
        d.stands? (dir ++ [name]) = none ∧ k = d.files.length ∧
        e = { nodes := d.nodes ++ [(dir ++ [name], .file d.files.length)],
              files := d.files ++ [fresh] } := by
  unfold openFile at h
  split at h
  next => exact absurd h (by simp)
  next hnode =>
    obtain ⟨rfl, rfl⟩ := Prod.mk.inj (Except.ok.inj h)
    exact .inl ⟨hnode, rfl⟩
  next => exact absurd h (by simp)
  next hnode =>
    cases way using List.reverseRecOn with
    | nil => exact absurd hnode (by simp [node_nil])
    | append_singleton dir name =>
      split at h
      next => exact absurd h (by simp)
      next hparent =>
        obtain ⟨rfl, rfl⟩ := Prod.mk.inj (Except.ok.inj h)
        have hdir := checkParent_concat.mp hparent
        exact .inr ⟨dir, name, rfl, hdir, stands?_of_notFound hdir hnode, rfl, rfl⟩
  next => exact absurd h (by simp)

/-! ## Databases in files -/

section Databases

variable {d e : Disk Content} {db db' : Relational.Database}

theorem content?_of_database? (h : d.database? k = some db) :
    d.content? k = some (.database db) := by
  unfold database? at h
  split at h
  · rename_i db' hcontent
    rw [hcontent, Option.some.inj h]
  · exact absurd h (by simp)

theorem database?_of_content? (h : d.content? k = some (.database db)) :
    d.database? k = some db := by
  rw [database?, h]

theorem database?_congr (h : e.files = d.files) (k : Nat) : e.database? k = d.database? k := by
  rw [database?, database?, content?, content?, h]

theorem content?_updateDatabase (h : d.database? k = some db) (j : Nat) :
    (d.updateDatabase k db').content? j =
      if j = k then some (.database db') else d.content? j := by
  have hlt := (List.getElem?_eq_some_iff.mp (content?_of_database? h)).1
  unfold content? updateDatabase write
  rw [List.getElem?_set]
  by_cases hj : j = k
  · rw [if_pos hj.symm, if_pos hj, if_pos (hj ▸ hlt)]
  · rw [if_neg (Ne.symm hj), if_neg hj]

/-- **What was written is read.** -/
theorem database?_updateDatabase (h : d.database? k = some db) :
    (d.updateDatabase k db').database? k = some db' :=
  database?_of_content? (by rw [content?_updateDatabase h, if_pos rfl])

@[simp] theorem updateDatabase_updateDatabase (d : Disk Content) (k : Nat)
    (db db' : Relational.Database) :
    (d.updateDatabase k db).updateDatabase k db' = d.updateDatabase k db' := by
  simp [updateDatabase, write]

theorem updateDatabase_self (h : d.database? k = some db) : d.updateDatabase k db = d := by
  obtain ⟨hlt, hget⟩ := List.getElem?_eq_some_iff.mp (content?_of_database? h)
  unfold updateDatabase write
  rw [← hget, List.set_getElem_self]

/-- Names stay when a file is written. -/
@[simp] theorem node_updateDatabase (d : Disk Content) (k : Nat) (db : Relational.Database)
    (way : List FileName) : (d.updateDatabase k db).node way = d.node way :=
  node_congr fun _ _ => rfl

/-! ## Opening -/

theorem logWay_concat (way : List FileName) (name : FileName) :
    logWay (way ++ [name]) = way ++ [name ++ "-wal".toList] := by
  simp [logWay]

theorem logWay_ne (way : List FileName) : logWay way ≠ way := by
  cases way using List.reverseRecOn with
  | nil => simp [logWay]
  | append_singleton way name => simp [logWay_concat]

/-- Writing to a file leaves no log. -/
theorem Unlogged.write {d : Disk α} (hlog : d.Unlogged way) (k : Nat) (content : α) :
    (d.write k content).Unlogged way := hlog

/-- A disk that gets another name at its end is without a log as before. -/
theorem Unlogged.openFile {fresh : α} {d e : Disk α} (hlog : d.Unlogged way)
    (h : d.openFile way fresh = .ok (k, e)) : e.Unlogged way := by
  rcases openFile_cases h with ⟨-, rfl⟩ | ⟨dir, name, rfl, -, -, rfl, rfl⟩
  · exact hlog
  · unfold Unlogged at *
    rw [stands?_append, hlog, if_neg (logWay_ne _)]
    rfl

/-- Directories on the way to a file are no log. -/
theorem Unlogged.makeDirectories {d e : Disk α} (hlog : d.Unlogged (way ++ [name]))
    (h : d.makeDirectories way = .ok e) : e.Unlogged (way ++ [name]) := by
  unfold Unlogged at *
  rw [← hlog, logWay_concat]
  exact stands?_makeDirectories h (not_prefix_above (List.prefix_refl way) _)

/-- Without a log, a database is what its file holds. -/
theorem openDatabase_unlogged (hlog : d.Unlogged way) : d.openDatabase way =
    match d.openFile way (.text []) with
    | .error _ => (.error .cannotOpen, d)
    | .ok (number, d') => d'.claimDatabase number := by
  unfold openDatabase
  cases hfile : d.openFile way (.text []) with
  | error err => rfl
  | ok opened =>
    obtain ⟨number, d'⟩ := opened
    have hnone : d'.stands? (logWay way) = none := hlog.openFile hfile
    have hnode (n : Node) : d'.node (logWay way) ≠ .ok n := fun h =>
      absurd (hnone.symm.trans (stands?_of_node h)) (by simp)
    dsimp only
    split
    next h => exact absurd h (hnode _)
    next h => exact absurd h (hnode _)
    next => rfl

/-- A database that is there is opened as it is. -/
theorem openDatabase_of_database (hlog : d.Unlogged way) (hway : d.node way = .ok (.file k))
    (hdb : d.database? k = some db) : d.openDatabase way = (.ok k, d) := by
  simp [openDatabase_unlogged hlog, openFile, hway, claimDatabase, content?_of_database? hdb]

/-- The disk with an empty database at a name where nothing stood. -/
def withFresh (d : Disk Content) (way : List FileName) : Disk Content :=
  { nodes := d.nodes ++ [(way, .file d.files.length)], files := d.files ++ [.database {}] }

theorem database?_withFresh (d : Disk Content) (way : List FileName) :
    (d.withFresh way).database? d.files.length = some {} :=
  database?_of_content? (by simp [withFresh, content?])

theorem content?_withFresh (h : j < d.files.length) (way : List FileName) :
    (d.withFresh way).content? j = d.content? j :=
  List.getElem?_append_left h

/-- **A database that is missing is made**, if its directory is there. -/
theorem openDatabase_fresh (hlog : d.Unlogged (way ++ [name])) (hdir : d.node way = .ok .directory)
    (hnone : d.stands? (way ++ [name]) = none) :
    d.openDatabase (way ++ [name]) = (.ok d.files.length, d.withFresh (way ++ [name])) := by
  have hnode : d.node (way ++ [name]) = .error .notFound := by
    rw [node_concat_of_directory hdir, hnone]
    rfl
  have hparent : d.checkParent (way ++ [name]) = .ok () := checkParent_concat.mpr hdir
  simp [openDatabase_unlogged hlog, openFile, hnode, hparent, claimDatabase, content?, withFresh,
    updateDatabase, write]

/-- A file that was opened is there, and what stood and was held before is so still. -/
theorem openFile_ok {fresh : Content} (h : d.openFile way fresh = .ok (k, e)) :
    Grows d e ∧ e.node way = .ok (.file k) ∧
      (e = d ∨ e.content? k = some fresh ∧ ∀ j < d.files.length, e.content? j = d.content? j) := by
  rcases openFile_cases h with ⟨hnode, rfl⟩ | ⟨dir, name, rfl, hdir, hnone, rfl, rfl⟩
  · exact ⟨.refl _, hnode, .inl rfl⟩
  · refine ⟨grows_append .., node_append hdir hnone _ _, .inr ⟨by simp [content?], ?_⟩⟩
    exact fun j hj => List.getElem?_append_left hj

/-- A file that is claimed holds a database, or is empty and becomes one. -/
theorem claimDatabase_ok (h : d.claimDatabase j = (.ok k, e)) :
    k = j ∧ ((∃ db, d.database? k = some db) ∧ e = d ∨
      d.content? k = some (.text []) ∧ e = d.updateDatabase k {}) := by
  unfold claimDatabase at h
  split at h
  next db hdb =>
    obtain ⟨hk, rfl⟩ := Prod.mk.inj h
    obtain rfl := Except.ok.inj hk
    exact ⟨rfl, .inl ⟨⟨db, database?_of_content? hdb⟩, rfl⟩⟩
  next hempty =>
    obtain ⟨hk, rfl⟩ := Prod.mk.inj h
    obtain rfl := Except.ok.inj hk
    exact ⟨rfl, .inr ⟨hempty, rfl⟩⟩
  next => exact absurd (congrArg Prod.fst h) (by simp)

/-- All that opening a database does without a log: its file is opened, and becomes a database if
it is empty. -/
theorem openDatabase_cases (hlog : d.Unlogged way) (h : d.openDatabase way = (.ok k, e)) :
    ∃ d', d.openFile way (.text []) = .ok (k, d') ∧
      ((∃ db, d'.database? k = some db) ∧ e = d' ∨
        d'.content? k = some (.text []) ∧ e = d'.updateDatabase k {}) := by
  rw [openDatabase_unlogged hlog] at h
  split at h
  next => exact absurd (congrArg Prod.fst h) (by simp)
  next number d' hfile =>
    obtain ⟨rfl, hclaimed⟩ := claimDatabase_ok h
    exact ⟨d', hfile, hclaimed⟩

/-- **A database that was opened is there**: it was there before, or it is empty. What stood before
stands still. -/
theorem openDatabase_ok (hlog : d.Unlogged way) (h : d.openDatabase way = (.ok k, e)) :
    Grows d e ∧ e.node way = .ok (.file k) ∧
      (e = d ∧ (∃ db, d.database? k = some db) ∨ e.database? k = some {}) := by
  obtain ⟨d', hfile, ⟨⟨db, hdb⟩, rfl⟩ | ⟨hempty, rfl⟩⟩ := openDatabase_cases hlog h
  · obtain ⟨hgrows, hnode, hheld⟩ := openFile_ok hfile
    have hsame : e = d := hheld.resolve_right fun hmade =>
      absurd ((content?_of_database? hdb).symm.trans hmade.1) (by simp)
    exact ⟨hgrows, hnode, .inl ⟨hsame, db, hsame ▸ hdb⟩⟩
  · obtain ⟨hgrows, hnode, -⟩ := openFile_ok hfile
    have hlt := (List.getElem?_eq_some_iff.mp hempty).1
    refine ⟨⟨hgrows.stands⟩, (node_updateDatabase ..).trans hnode, .inr ?_⟩
    exact database?_of_content? (by simp [content?, updateDatabase, write, hlt])

theorem Unlogged.openDatabase (hlog : d.Unlogged way) (h : d.openDatabase way = (.ok k, e)) :
    e.Unlogged way := by
  obtain ⟨d', hfile, ⟨-, rfl⟩ | ⟨-, rfl⟩⟩ := openDatabase_cases hlog h
  · exact hlog.openFile hfile
  · exact (hlog.openFile hfile).write ..

/-- Without a log, an opening that fails leaves the disk as it is. -/
theorem openDatabase_error {fault : OpenFault} (hlog : d.Unlogged way)
    (h : d.openDatabase way = (.error fault, e)) : e = d := by
  rw [openDatabase_unlogged hlog] at h
  split at h
  next => exact (congrArg Prod.snd h).symm
  next number d' hfile =>
    unfold claimDatabase at h
    split at h
    next => exact absurd (congrArg Prod.fst h) (by simp)
    next => exact absurd (congrArg Prod.fst h) (by simp)
    next hother =>
      obtain rfl := congrArg Prod.snd h
      exact (openFile_ok hfile).2.2.resolve_right fun hmade => hother hmade.1

/-- Claiming a file as a database leaves the databases as they are. -/
theorem database?_claimDatabase (hdb : d.database? k = some db) :
    (d.claimDatabase j).2.database? k = some db := by
  have hcontent := content?_of_database? hdb
  unfold claimDatabase
  split
  next => exact hdb
  next hempty =>
    have hne : j ≠ k := by
      rintro rfl
      exact absurd (hempty.symm.trans hcontent) (by simp)
    refine database?_of_content? ?_
    rw [← hcontent]
    exact List.getElem?_set_ne hne
  next => exact hdb

/-- **Opening one database leaves the others as they are**, whatever comes of it. -/
theorem database?_openDatabase (way : List FileName) (hdb : d.database? k = some db) :
    (d.openDatabase way).2.database? k = some db := by
  unfold openDatabase
  cases hfile : d.openFile way (.text []) with
  | error err => exact hdb
  | ok opened =>
    obtain ⟨number, d'⟩ := opened
    have hcontent := content?_of_database? hdb
    have hheld : d'.database? k = some db := by
      rcases (openFile_ok hfile).2.2 with rfl | ⟨-, hothers⟩
      · exact hdb
      · have hlt := (List.getElem?_eq_some_iff.mp hcontent).1
        exact database?_of_content? ((hothers k hlt).trans hcontent)
    dsimp only
    split
    next => exact hheld
    next log _ =>
      split
      · exact database?_claimDatabase (d := d'.remove (logWay way)) hheld
      · split
        · exact hheld
        · exact database?_claimDatabase hheld
    next => exact database?_claimDatabase hheld

end Databases

/-! ## Moving -/

section Moving

variable {d e : Disk α}

/-- A file does not take the name of a directory. -/
theorem rename_file_of_directory (hsource : d.node source = .ok (.file k))
    (htarget : d.checkParent target = .ok ()) (hdir : d.stands? target = some .directory) :
    d.rename source target = .error .isDirectory := by
  have hne : source ≠ target := by
    rintro rfl
    exact absurd ((stands?_of_node hsource).symm.trans hdir) (by simp)
  simp [rename, hsource, htarget, hne, hdir]

/-- What is moved is looked up at its new name as it was at its old one. -/
theorem lookup_moved (nodes : List (List FileName × Node)) (source target tail : List FileName) :
    ((nodes.filter fun n => source.isPrefixOf n.1).map
      fun n => (target ++ n.1.drop source.length, n.2)).lookup (target ++ tail) =
        nodes.lookup (source ++ tail) := by
  induction nodes with
  | nil => rfl
  | cons first rest ih =>
    obtain ⟨v, n⟩ := first
    by_cases hv : source <+: v
    · obtain ⟨below, rfl⟩ := hv
      rw [List.filter_cons_of_pos (by simp), List.map_cons, List.drop_left, List.lookup_cons,
        List.lookup_cons, ih]
      by_cases hsame : tail = below
      · simp [hsame]
      · simp [beq_false_of_ne, hsame]
    · have hne : source ++ tail ≠ v := fun h => hv (h ▸ List.prefix_append ..)
      rw [List.filter_cons_of_neg (by simpa using hv), ih, List.lookup_cons, beq_false_of_ne hne]

theorem lookup_filter {nodes : List (List FileName × Node)} {p : List FileName → Bool}
    (hv : p v = true) : (nodes.filter fun n => p n.1).lookup v = nodes.lookup v := by
  induction nodes with
  | nil => rfl
  | cons first rest ih =>
    obtain ⟨w, n⟩ := first
    by_cases hw : p w = true
    · rw [List.filter_cons_of_pos (by exact hw), List.lookup_cons, List.lookup_cons, ih]
    · have hne : v ≠ w := by
        rintro rfl
        exact hw hv
      rw [List.filter_cons_of_neg (by exact hw), ih, List.lookup_cons, beq_false_of_ne hne]

theorem lookup_eq_none_of_forall {nodes : List (List FileName × Node)}
    (h : ∀ n ∈ nodes, n.1 ≠ v) : nodes.lookup v = none := by
  rw [List.lookup_eq_none_iff]
  exact fun n hn => bne_iff_ne.mpr (Ne.symm (h n hn))

/-- The disk after what stands at and below `source` was moved to `target`. -/
def moved (d : Disk α) (source target : List FileName) : Disk α :=
  { d with
    nodes := (d.nodes.filter fun n => ¬ source.isPrefixOf n.1).filter
        (fun n => ¬ target.isPrefixOf n.1) ++
      (d.below source).map fun n => (target ++ n.1.drop source.length, n.2) }

/-- A file takes any other name whose directory is there. -/
theorem rename_file (hsource : d.node source = .ok (.file k))
    (htarget : d.checkParent target = .ok ()) (hne : source ≠ target)
    (hdir : d.stands? target ≠ some .directory) :
    d.rename source target = .ok (d.moved source target) := by
  unfold rename
  rw [hsource, htarget]
  dsimp only
  rw [if_neg hne]
  cases hs : d.stands? target with
  | none => rfl
  | some n =>
    cases n with
    | directory => exact absurd hs hdir
    | file j => rfl
    | deadLink => rfl

/-- A move to another name that succeeds moves. -/
theorem eq_moved_of_rename (hne : source ≠ target) (h : d.rename source target = .ok e) :
    e = d.moved source target := by
  unfold rename at h
  simp only [if_neg hne] at h
  repeat' split at h
  all_goals cases h <;> rfl

/-- Moving changes names only. -/
theorem files_rename (h : d.rename source target = .ok e) : e.files = d.files := by
  unfold rename at h
  dsimp only at h
  repeat' split at h
  all_goals cases h <;> rfl

theorem lookup_below_eq_none (hv : ¬ target <+: v) :
    ((d.below source).map fun n => (target ++ n.1.drop source.length, n.2)).lookup v = none := by
  refine lookup_eq_none_of_forall fun n hn => ?_
  obtain ⟨old, -, rfl⟩ := List.mem_map.mp hn
  rintro rfl
  exact hv (List.prefix_append ..)

/-- **What stands where after a move**: below the new name what stood below the old one, and at
other names what stood there. -/
theorem stands?_moved (hsource : source ≠ []) (htarget : target ≠ []) (v : List FileName) :
    (d.moved source target).stands? v =
      if target <+: v then d.stands? (source ++ v.drop target.length)
      else if source <+: v then none else d.stands? v := by
  have hlookup (hv : v ≠ []) : (d.moved source target).stands? v =
      (((d.nodes.filter fun n => ¬ source.isPrefixOf n.1).filter
        fun n => ¬ target.isPrefixOf n.1).lookup v).or
      (((d.below source).map fun n => (target ++ n.1.drop source.length, n.2)).lookup v) := by
    rw [stands?, if_neg hv]
    exact List.lookup_append
  split
  next hbelow =>
    obtain ⟨tail, rfl⟩ := hbelow
    have hkept : ((d.nodes.filter fun n => ¬ source.isPrefixOf n.1).filter
        fun n => ¬ target.isPrefixOf n.1).lookup (target ++ tail) = none := by
      refine lookup_eq_none_of_forall fun n hn hsame => ?_
      simpa [hsame] using (List.mem_filter.mp hn).2
    rw [hlookup (by simp [htarget]), hkept, Option.none_or, List.drop_left, stands?,
      if_neg (by simp [hsource])]
    exact lookup_moved d.nodes source target tail
  next hnew =>
    by_cases hv : v = []
    · subst hv
      rw [if_neg (by simpa using hsource)]
      rfl
    rw [hlookup hv, lookup_below_eq_none hnew, Option.or_none,
      lookup_filter (p := fun w => ¬ target.isPrefixOf w) (by simpa using hnew)]
    split
    next hold =>
      refine lookup_eq_none_of_forall fun n hn hsame => ?_
      have hpast := (List.mem_filter.mp hn).2
      rw [hsame] at hpast
      exact absurd (List.isPrefixOf_iff_prefix.mpr hold) (by simpa using hpast)
    next hold =>
      rw [lookup_filter (p := fun w => ¬ source.isPrefixOf w) (by simpa using hold), stands?,
        if_neg hv]

/-- At the new name stands what stood at the old one. -/
theorem stands?_moved_target (hsource : source ≠ []) (htarget : target ≠ []) :
    (d.moved source target).stands? target = d.stands? source := by
  rw [stands?_moved hsource htarget, if_pos (List.prefix_refl _), List.drop_length,
    List.append_nil]

/-- At the old name stands nothing. -/
theorem stands?_moved_source (hsource : source ≠ []) (h : ¬ target <+: source) :
    (d.moved source target).stands? source = none := by
  have htarget : target ≠ [] := fun hnil => h (hnil ▸ List.nil_prefix)
  rw [stands?_moved hsource htarget, if_neg h, if_pos (List.prefix_refl _)]

/-- At other names stands what stood there. -/
theorem stands?_moved_other (hs : ¬ source <+: v) (ht : ¬ target <+: v) :
    (d.moved source target).stands? v = d.stands? v := by
  have hsource : source ≠ [] := fun hnil => hs (hnil ▸ List.nil_prefix)
  have htarget : target ≠ [] := fun hnil => ht (hnil ▸ List.nil_prefix)
  rw [stands?_moved hsource htarget, if_neg ht, if_neg hs]

/-- **Moving to another name in the same directory**: the directory stays, nothing stands at the old
name, and at the new one what stood at the old. -/
theorem moved_beside {way : List FileName} {other : FileName} (h : d.node (way ++ [name]) = .ok n)
    (hne : name ≠ other) :
    (d.moved (way ++ [name]) (way ++ [other])).node way = .ok .directory ∧
      (d.moved (way ++ [name]) (way ++ [other])).stands? (way ++ [name]) = none ∧
      (d.moved (way ++ [name]) (way ++ [other])).node (way ++ [other]) = .ok n := by
  obtain ⟨hdir, hs⟩ := node_concat_eq_ok_iff.mp h
  have hstays : (d.moved (way ++ [name]) (way ++ [other])).node way = .ok .directory := by
    rw [← hdir]
    exact node_congr fun v hv =>
      stands?_moved_other (not_prefix_above hv name) (not_prefix_above hv other)
  refine ⟨hstays, stands?_moved_source (by simp) (not_prefix_beside (Ne.symm hne)), ?_⟩
  exact node_concat_eq_ok_iff.mpr ⟨hstays, by rw [stands?_moved_target (by simp) (by simp), hs]⟩

/-- A file is without a log as before when it is given another name than that of its log. -/
theorem Unlogged.moved {way : List FileName} {other : FileName} (hlog : d.Unlogged (way ++ [name]))
    (hne : other ≠ name ++ "-wal".toList) :
    (d.moved (way ++ [name]) (way ++ [other])).Unlogged (way ++ [name]) := by
  unfold Unlogged at *
  rw [← hlog, logWay_concat]
  exact stands?_moved_other (not_prefix_beside (by simp)) (not_prefix_beside hne)

end Moving

end QueryGate.Disk
