import QueryGate.Proofs.Disk.Files

/-!
# What a disk holds

A file is held as long as a name leads to it. On a sound disk every file has one name, and every
name stands in a directory. Moving a file to the name of another drops that other file, and nothing
else is ever dropped by a move.

* `Held d k`: a name leads to file `k`.
* `Sound d`: the disk is as an operating system keeps it.
* `Touches way d e`: nothing changed but the file at one name, and directories and that file were
  made.

Results:
* `Sound.moved`, `held_moved_iff`: what a move leaves, and what it drops.
* `touches_makeDirectories`, `touches_openDatabase`, `touches_write`: what else is done to the disk
  of a history.
-/

namespace QueryGate.Disk

variable {α : Type} {d e f : Disk α} {way source target v w : List FileName} {name other : FileName}
  {n : Node} {j k : Nat}

/-- A name leads to the file. -/
def Held (d : Disk α) (k : Nat) : Prop := ∃ way, d.node way = .ok (.file k)

/-- Files are known by numbers of their own, each has one name, and every name stands in a
directory. -/
structure Sound (d : Disk α) : Prop where
  known : ∀ {way k}, d.stands? way = some (.file k) → k < d.files.length
  single : ∀ {v w k}, d.stands? v = some (.file k) → d.stands? w = some (.file k) → v = w
  rooted : ∀ {way name n}, d.stands? (way ++ [name]) = some n → d.stands? way = some .directory

namespace Sound

/-- On a sound disk a way leads to what stands there. -/
theorem node_eq_ok_iff (h : d.Sound) : d.node way = .ok n ↔ d.stands? way = some n := by
  refine ⟨stands?_of_node, fun hs => ?_⟩
  induction way using List.reverseRecOn generalizing n with
  | nil =>
    obtain rfl : Node.directory = n := Option.some.inj hs
    exact node_nil d
  | append_singleton way name ih => exact node_concat_eq_ok_iff.mpr ⟨ih (h.rooted hs), hs⟩

theorem held_iff (h : d.Sound) : d.Held k ↔ ∃ way, d.stands? way = some (.file k) :=
  exists_congr fun _ => h.node_eq_ok_iff

/-- What stands below a name stands in a directory. -/
theorem directory_of_below (h : d.Sound) {tail : List FileName} (htail : tail ≠ [])
    (hs : d.stands? (way ++ tail) = some n) : d.stands? way = some .directory := by
  induction tail using List.reverseRecOn generalizing n with
  | nil => exact absurd rfl htail
  | append_singleton tail name ih =>
    rw [← List.append_assoc] at hs
    by_cases hnil : tail = []
    · rw [hnil, List.append_nil] at hs
      exact h.rooted hs
    · exact ih hnil (h.rooted hs)

end Sound

/-! ## Moving -/

theorem mem_nodes_of_stands? (hway : way ≠ []) (h : d.stands? way = some n) :
    (way, n) ∈ d.nodes := by
  rw [stands?, if_neg hway] at h
  obtain ⟨before, after, hnodes, -⟩ := List.lookup_eq_some_iff.mp h
  rw [hnodes]
  exact List.mem_append_right _ List.mem_cons_self

/-- Nothing stands below a name that is alone in what stands at and below it. -/
theorem stands?_below_eq_none (htarget : target ≠ []) (hs : d.stands? target = some n)
    (hone : (d.below target).length = 1) {tail : List FileName} (htail : tail ≠ []) :
    d.stands? (target ++ tail) = none := by
  by_contra hsome
  obtain ⟨m, hm⟩ := Option.ne_none_iff_exists'.mp hsome
  obtain ⟨x, hx⟩ := List.length_eq_one_iff.mp hone
  have hmem {v m} (hv : v ≠ []) (hbelow : target <+: v) (hm : d.stands? v = some m) :
      (v, m) = x := by
    have hin : (v, m) ∈ d.below target :=
      List.mem_filter.mpr ⟨mem_nodes_of_stands? hv hm, by simpa using hbelow⟩
    exact List.mem_singleton.mp (hx ▸ hin)
  have hboth := (hmem (by simp [htarget]) (List.prefix_append ..) hm).trans
    (hmem htarget (List.prefix_refl _) hs).symm
  exact htail (List.append_right_eq_self.mp (Prod.mk.inj hboth).1)

/-- A move that succeeds has nothing below its target, and no file there if it moves a directory. -/
theorem rename_ok (hd : d.Sound) (htarget : target ≠ []) (hne : source ≠ target)
    (h : d.rename source target = .ok e) :
    e = d.moved source target ∧ (∀ tail, tail ≠ [] → d.stands? (target ++ tail) = none) ∧
      (d.stands? source = some .directory → ∀ k, d.stands? target ≠ some (.file k)) := by
  have hempty (hfile : d.stands? target ≠ some .directory) (tail : List FileName)
      (htail : tail ≠ []) : d.stands? (target ++ tail) = none := by
    by_contra hsome
    obtain ⟨n, hn⟩ := Option.ne_none_iff_exists'.mp hsome
    exact hfile (hd.directory_of_below htail hn)
  unfold rename at h
  dsimp only at h
  split at h
  next => exact absurd h (by simp)
  next => exact absurd h (by simp)
  next node hnode _ =>
    rw [if_neg hne] at h
    have hsource := stands?_of_node hnode
    split at h
    next hs =>
      split at h
      next hone =>
        obtain rfl := Except.ok.inj h
        exact ⟨rfl, fun tail => stands?_below_eq_none htarget hs hone, fun _ k => by simp [hs]⟩
      next => exact absurd h (by simp)
    next => exact absurd h (by simp)
    next => exact absurd h (by simp)
    next hfile _ hdirectory =>
      obtain rfl := Except.ok.inj h
      refine ⟨rfl, hempty hfile, fun hs k hk => hdirectory _ ?_ hk⟩
      exact Option.some.inj (hsource.symm.trans hs)

section Beside

variable {way : List FileName} {name other : FileName}

/-- What stands after a move stood at its old name, or stood where it stands. -/
theorem stands?_moved_eq_some_iff :
    (d.moved (way ++ [name]) (way ++ [other])).stands? v = some n ↔
      (∃ tail, v = way ++ [other] ++ tail ∧ d.stands? (way ++ [name] ++ tail) = some n) ∨
      ¬ way ++ [other] <+: v ∧ ¬ way ++ [name] <+: v ∧ d.stands? v = some n := by
  rw [stands?_moved (by simp) (by simp)]
  by_cases hnew : way ++ [other] <+: v
  · obtain ⟨tail, rfl⟩ := hnew
    simp
  · have hnone : ¬ ∃ tail, v = way ++ [other] ++ tail ∧
        d.stands? (way ++ [name] ++ tail) = some n :=
      fun ⟨tail, htail, _⟩ => hnew ⟨tail, htail.symm⟩
    by_cases hold : way ++ [name] <+: v <;> simp only [hnew, hold, hnone] <;> simp

/-- A sound disk is sound after a move within a directory. -/
theorem Sound.moved (hd : d.Sound) : (d.moved (way ++ [name]) (way ++ [other])).Sound where
  known {v k} hs := by
    rcases stands?_moved_eq_some_iff.mp hs with ⟨_, _, hs⟩ | ⟨_, _, hs⟩
    · exact hd.known hs
    · exact hd.known hs
  single {v w k} hv hw := by
    rcases stands?_moved_eq_some_iff.mp hv with ⟨tail, rfl, hv'⟩ | ⟨_, hvold, hv'⟩ <;>
      rcases stands?_moved_eq_some_iff.mp hw with ⟨tail', rfl, hw'⟩ | ⟨_, hwold, hw'⟩
    · rw [List.append_cancel_left (hd.single hv' hw')]
    · exact absurd (hd.single hv' hw' ▸ List.prefix_append ..) hwold
    · exact absurd (hd.single hw' hv' ▸ List.prefix_append ..) hvold
    · exact hd.single hv' hw'
  rooted {v last n} hs := by
    rcases stands?_moved_eq_some_iff.mp hs with ⟨tail, hv, hs⟩ | ⟨hnew, hold, hs⟩
    · cases tail using List.reverseRecOn with
      | nil =>
        rw [List.append_nil] at hv hs
        obtain rfl := (List.append_inj' hv rfl).1
        exact stands?_moved_eq_some_iff.mpr (.inr ⟨not_prefix_above (List.prefix_refl _) _,
          not_prefix_above (List.prefix_refl _) _, hd.rooted hs⟩)
      | append_singleton tail final =>
        rw [← List.append_assoc] at hv hs
        exact stands?_moved_eq_some_iff.mpr
          (.inl ⟨tail, (List.append_inj' hv rfl).1, hd.rooted hs⟩)
    · have habove : v <+: v ++ [last] := List.prefix_append ..
      exact stands?_moved_eq_some_iff.mpr (.inr ⟨fun h => hnew (h.trans habove),
        fun h => hold (h.trans habove), hd.rooted hs⟩)

theorem held_of_moved (hd : d.Sound) (h : (d.moved (way ++ [name]) (way ++ [other])).Held k) :
    d.Held k := by
  obtain ⟨v, hv⟩ := h
  rw [hd.held_iff]
  rcases stands?_moved_eq_some_iff.mp (stands?_of_node hv) with ⟨_, -, hs⟩ | ⟨-, -, hs⟩
  · exact ⟨_, hs⟩
  · exact ⟨_, hs⟩

/-- **What a move drops**: the file at its target, and no other. -/
theorem held_moved_iff (hd : d.Sound) (hne : name ≠ other)
    (hbelow : ∀ tail, tail ≠ [] → d.stands? (way ++ [other] ++ tail) = none) (hheld : d.Held k) :
    (d.moved (way ++ [name]) (way ++ [other])).Held k ↔
      d.stands? (way ++ [other]) ≠ some (.file k) := by
  rw [hd.moved.held_iff]
  obtain ⟨v, hv⟩ := hd.held_iff.mp hheld
  constructor
  · rintro ⟨w, hw⟩ htarget
    rcases stands?_moved_eq_some_iff.mp hw with ⟨tail, -, hw⟩ | ⟨hnew, -, hw⟩
    · exact not_prefix_beside hne ⟨tail, hd.single hw htarget⟩
    · exact hnew (hd.single htarget hw ▸ List.prefix_refl _)
  · intro hfree
    by_cases hold : way ++ [name] <+: v
    · obtain ⟨tail, rfl⟩ := hold
      exact ⟨_, stands?_moved_eq_some_iff.mpr (.inl ⟨tail, rfl, hv⟩)⟩
    · refine ⟨v, stands?_moved_eq_some_iff.mpr (.inr ⟨?_, hold, hv⟩)⟩
      rintro ⟨tail, rfl⟩
      by_cases htail : tail = []
      · rw [htail, List.append_nil] at hv
        exact hfree hv
      · exact absurd ((hbelow tail htail).symm.trans hv) (by simp)

end Beside

/-! ## Other changes -/

/-- Nothing changed but the file at one name: what stood stands still, files were made at that name
only, and only the file at it was written. -/
structure Touches (way : List FileName) (d e : Disk α) : Prop where
  sound : d.Sound → e.Sound
  grows : Grows d e
  files : ∀ {v k}, e.stands? v = some (.file k) →
    d.stands? v = some (.file k) ∨ v = way ∧ d.files.length ≤ k
  contents : ∀ {k}, k < d.files.length → d.stands? way ≠ some (.file k) →
    e.content? k = d.content? k
  length : d.files.length ≤ e.files.length

namespace Touches

theorem refl (way : List FileName) (d : Disk α) : Touches way d d :=
  ⟨id, .refl d, .inl, fun _ _ => rfl, Nat.le_refl _⟩

theorem trans (h : Touches way d e) (h' : Touches way e f) : Touches way d f where
  sound hd := h'.sound (h.sound hd)
  grows := h.grows.trans h'.grows
  files hs := by
    rcases h'.files hs with hs | ⟨rfl, hnew⟩
    · exact h.files hs
    · exact .inr ⟨rfl, Nat.le_trans h.length hnew⟩
  contents {k} hk hway := by
    refine (h'.contents (Nat.lt_of_lt_of_le hk h.length) fun hs => ?_).trans (h.contents hk hway)
    rcases h.files hs with hs | ⟨-, hnew⟩
    · exact hway hs
    · exact absurd hk (Nat.not_lt_of_le hnew)
  length := Nat.le_trans h.length h'.length

/-- What was held is held. -/
theorem held (h : Touches way d e) (hheld : d.Held k) : e.Held k :=
  hheld.imp fun _ hnode => h.grows.leads hnode

/-- What is held was held, unless it is new. -/
theorem held_of_lt (h : Touches way d e) (hd : d.Sound) (hk : k < d.files.length)
    (hheld : e.Held k) : d.Held k := by
  obtain ⟨v, hv⟩ := hheld
  rcases h.files (stands?_of_node hv) with hs | ⟨-, hnew⟩
  · exact ⟨v, hd.node_eq_ok_iff.mpr hs⟩
  · exact absurd hk (Nat.not_lt_of_le hnew)

end Touches

section Added

variable {added : List FileName} {files : List α}

theorem stands?_append_eq_some_iff (hnone : d.stands? added = none) {m : Node} :
    Disk.stands? { nodes := d.nodes ++ [(added, n)], files } v = some m ↔
      d.stands? v = some m ∨ v = added ∧ n = m := by
  rw [stands?_append]
  by_cases hv : v = added
  · subst hv
    simp [hnone]
  · simp [hv]

/-- A name is added to a directory: of another directory, or of a new file. -/
theorem Sound.append (hd : d.Sound) (hdir : d.stands? way = some .directory)
    (hnone : d.stands? (way ++ [name]) = none) (n : Node) (more : List α)
    (hn : ∀ k, n = .file k → k = d.files.length ∧ more ≠ []) :
    Sound { nodes := d.nodes ++ [(way ++ [name], n)], files := d.files ++ more } where
  known {v k} hs := by
    rw [List.length_append]
    rcases (stands?_append_eq_some_iff hnone).mp hs with hs | ⟨-, hnew⟩
    · exact Nat.lt_add_right _ (hd.known hs)
    · obtain ⟨rfl, hmore⟩ := hn k hnew
      exact Nat.lt_add_of_pos_right (List.length_pos_iff.mpr hmore)
  single {v w k} hv hw := by
    have hfresh (hnew : n = .file k) {u : List FileName} (hu : d.stands? u = some (.file k)) :
        False :=
      absurd (hd.known hu) (by rw [(hn k hnew).1]; exact Nat.lt_irrefl _)
    rcases (stands?_append_eq_some_iff hnone).mp hv with hv | ⟨rfl, hnew⟩ <;>
      rcases (stands?_append_eq_some_iff hnone).mp hw with hw | ⟨rfl, hnew'⟩
    · exact hd.single hv hw
    · exact (hfresh hnew' hv).elim
    · exact (hfresh hnew hw).elim
    · rfl
  rooted {v last m} hs := by
    refine (stands?_append_eq_some_iff hnone).mpr (.inl ?_)
    rcases (stands?_append_eq_some_iff hnone).mp hs with hs | ⟨hsame, -⟩
    · exact hd.rooted hs
    · rwa [(List.append_inj' hsame rfl).1]

end Added

theorem touches_makeDirectory (h : d.makeDirectory (v ++ [name]) = .ok e) (way : List FileName) :
    Touches way d e := by
  obtain ⟨hdir, hnone, rfl⟩ := makeDirectory_eq h
  refine ⟨fun hd => ?_, grows_append .., fun hs => .inl ?_, fun _ _ => rfl, Nat.le_refl _⟩
  · have hsound := hd.append (stands?_of_node hdir) hnone .directory [] (by simp)
    rwa [List.append_nil] at hsound
  · exact ((stands?_append_eq_some_iff hnone).mp hs).resolve_right (by simp)

theorem touches_makeUpward {rev : List FileName} (h : d.makeUpward rev = .ok e)
    (way : List FileName) : Touches way d e := by
  induction rev generalizing e with
  | nil =>
    obtain rfl := Except.ok.inj h
    exact .refl way d
  | cons name above ih =>
    simp only [makeUpward, List.reverse_cons] at h
    split at h
    next hmade =>
      obtain rfl := Except.ok.inj h
      exact touches_makeDirectory hmade way
    next =>
      cases habove : d.makeUpward above with
      | error err => simp [habove] at h
      | ok middle =>
        rw [habove] at h
        exact (ih habove).trans (touches_makeDirectory h way)
    next =>
      split at h
      next => exact Except.ok.inj h ▸ .refl way d
      next => exact absurd h (by simp)

/-- Making directories touches no file. -/
theorem touches_makeDirectories (h : d.makeDirectories v = .ok e) (way : List FileName) :
    Touches way d e := touches_makeUpward h way

theorem touches_write (h : d.stands? way = some (.file k)) (content : α) :
    Touches way d (d.write k content) where
  sound hd := ⟨fun hs => by rw [write, List.length_set]; exact hd.known hs, hd.single, hd.rooted⟩
  grows := ⟨id⟩
  files := .inl
  contents {j} _ hway := by
    refine List.getElem?_set_ne fun hsame => hway ?_
    rw [h, hsame]
  length := Nat.le_of_eq (List.length_set ..).symm

/-- Opening a file touches that file. -/
theorem touches_openFile {fresh : α} (h : d.openFile way fresh = .ok (k, e)) :
    Touches way d e ∧ e.stands? way = some (.file k) := by
  rcases openFile_cases h with ⟨hnode, rfl⟩ | ⟨dir, name, rfl, hdir, hnone, rfl, rfl⟩
  · exact ⟨.refl way e, stands?_of_node hnode⟩
  · refine ⟨⟨fun hd => ?_, grows_append .., fun hs => ?_, fun hk _ => ?_, by simp⟩, ?_⟩
    · refine hd.append (stands?_of_node hdir) hnone _ [fresh] fun k hk => ⟨?_, by simp⟩
      exact (Node.file.inj hk).symm
    · refine ((stands?_append_eq_some_iff hnone).mp hs).imp id fun ⟨hv, hnew⟩ => ⟨hv, ?_⟩
      exact Nat.le_of_eq (Node.file.inj hnew)
    · exact List.getElem?_append_left hk
    · exact (stands?_append_eq_some_iff hnone).mpr (.inr ⟨rfl, rfl⟩)

/-- Without a log, opening a database touches its file. -/
theorem touches_openDatabase {d e : Disk Content} (hlog : d.Unlogged way)
    (h : d.openDatabase way = (.ok k, e)) :
    Touches way d e ∧ e.stands? way = some (.file k) := by
  obtain ⟨d', hfile, ⟨-, rfl⟩ | ⟨-, rfl⟩⟩ := openDatabase_cases hlog h
  · exact touches_openFile hfile
  · obtain ⟨htouches, hs⟩ := touches_openFile hfile
    exact ⟨htouches.trans (touches_write hs _), hs⟩

end QueryGate.Disk
