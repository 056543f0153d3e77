import Mathlib.Data.List.Induction
import QueryGate.Disk.Content

/-!
# What stands where

A way leads somewhere if every directory on it is there. So what it leads to depends only on what
stands at the names along it, and an operation that leaves those alone leaves it as it is.

* `inside parent stands?`: where a name leads to, from what its directory's way leads to.
* `Grows d e`: what stands on `d` stands on `e`.

Results:
* `node_concat`, `node_congr`: a way leads on from its directory, and depends on its names only.
* `makeDirectories_ok`, `makeDirectories_of_directory`: directories that were made are there, and
  those that are there are not made again.
* `stands?_makeDirectories`: what is not on their way stays as it is.
-/

namespace QueryGate.Disk

variable {α : Type} {d e : Disk α} {way source target v w : List FileName} {name : FileName}
  {n : Node} {k : Nat}

/-! ## Ways -/

/-- Where a name leads to, from what its directory's way leads to and what stands at the name. -/
def inside (parent : Except DiskError Node) (stands? : Option Node) : Except DiskError Node :=
  match parent with
  | .ok .directory => stands?.elim (.error .notFound) .ok
  | .ok (.file _) => .error .notDirectory
  | .ok .deadLink => .error .notFound
  | .error e => .error e

theorem walk_concat (d : Disk α) (here rest : List FileName) (name : FileName) :
    d.walk here (rest ++ [name]) =
      inside (d.walk here rest) (d.stands? (here ++ rest ++ [name])) := by
  induction rest generalizing here with
  | nil =>
    rw [List.nil_append, List.append_nil, walk, walk, walk]
    cases d.stands? here with
    | none => rfl
    | some n => cases n <;> rfl
  | cons first rest ih =>
    rw [List.cons_append, walk, walk]
    cases d.stands? here with
    | none => rfl
    | some n =>
      cases n with
      | directory =>
        show d.walk (here ++ [first]) (rest ++ [name]) = _
        rw [ih, List.append_assoc here, List.singleton_append]
      | file k => rfl
      | deadLink => rfl

/-- **A way leads on from its directory.** -/
theorem node_concat (d : Disk α) (way : List FileName) (name : FileName) :
    d.node (way ++ [name]) = inside (d.node way) (d.stands? (way ++ [name])) :=
  walk_concat d [] way name

theorem node_nil (d : Disk α) : d.node [] = .ok .directory := rfl

theorem node_concat_of_directory (h : d.node way = .ok .directory) (name : FileName) :
    d.node (way ++ [name]) = (d.stands? (way ++ [name])).elim (.error .notFound) .ok := by
  rw [node_concat, h]
  rfl

theorem node_concat_eq_ok_iff : d.node (way ++ [name]) = .ok n ↔
    d.node way = .ok .directory ∧ d.stands? (way ++ [name]) = some n := by
  rw [node_concat]
  rcases d.node way with err | (_ | k | _)
  · simp [inside]
  · cases d.stands? (way ++ [name]) <;> simp [inside]
  · simp [inside]
  · simp [inside]

theorem stands?_of_node (h : d.node way = .ok n) : d.stands? way = some n := by
  induction way using List.reverseRecOn with
  | nil =>
    obtain rfl := Except.ok.inj h
    rfl
  | append_singleton way name => exact (node_concat_eq_ok_iff.mp h).2

/-- A name that does not lead anywhere from a directory has nothing at it. -/
theorem stands?_of_notFound (hdir : d.node way = .ok .directory)
    (h : d.node (way ++ [name]) = .error .notFound) : d.stands? (way ++ [name]) = none := by
  rw [node_concat_of_directory hdir] at h
  cases hs : d.stands? (way ++ [name]) with
  | none => rfl
  | some n => simp [hs] at h

theorem not_prefix_above (hv : v <+: way) (last : FileName) : ¬ way ++ [last] <+: v := by
  intro hlong
  have hlength := (hlong.trans hv).length_le
  rw [List.length_append, List.length_singleton] at hlength
  omega

theorem not_prefix_beside {other : FileName} (hne : name ≠ other) :
    ¬ way ++ [name] <+: way ++ [other] := by
  intro hpre
  have hsame := hpre.eq_of_length (by simp)
  exact hne (List.singleton_inj.mp (List.append_cancel_left hsame))

/-- **Where a way leads depends on what stands at the names along it.** -/
theorem node_congr {β : Type} {e : Disk β} (h : ∀ v, v <+: way → d.stands? v = e.stands? v) :
    d.node way = e.node way := by
  induction way using List.reverseRecOn with
  | nil => rfl
  | append_singleton way name ih =>
    rw [node_concat, node_concat, ih fun v hv => h v (hv.trans (List.prefix_append ..)),
      h _ (List.prefix_refl _)]

/-! ## Growing -/

/-- What stands on `d` stands on `e`. -/
structure Grows (d e : Disk α) : Prop where
  stands : ∀ {way n}, d.stands? way = some n → e.stands? way = some n

theorem Grows.refl (d : Disk α) : Grows d d := ⟨id⟩

theorem Grows.trans {f : Disk α} (h : Grows d e) (h' : Grows e f) : Grows d f :=
  ⟨fun hs => h'.stands (h.stands hs)⟩

theorem Grows.leads (h : Grows d e) (hnode : d.node way = .ok n) : e.node way = .ok n := by
  induction way using List.reverseRecOn generalizing n with
  | nil => exact hnode
  | append_singleton way name ih =>
    obtain ⟨hdir, hs⟩ := node_concat_eq_ok_iff.mp hnode
    exact node_concat_eq_ok_iff.mpr ⟨ih hdir, h.stands hs⟩

/-- The disk with another name at its end. -/
theorem stands?_append (d : Disk α) (files : List α) (added v : List FileName) (n : Node) :
    stands? { nodes := d.nodes ++ [(added, n)], files } v =
      (d.stands? v).or (if v = added then some n else none) := by
  unfold stands?
  split
  · rfl
  · rw [List.lookup_append]
    by_cases hv : v = added
    · simp [hv]
    · simp [List.lookup_cons, hv, beq_false_of_ne hv]

theorem grows_append (d : Disk α) (files : List α) (added : List FileName) (n : Node) :
    Grows d { nodes := d.nodes ++ [(added, n)], files } := by
  refine ⟨fun hv => ?_⟩
  rw [stands?_append, hv]
  rfl

/-- What is put at a name where nothing stood. -/
theorem node_append (hdir : d.node way = .ok .directory) (hnone : d.stands? (way ++ [name]) = none)
    (files : List α) (n : Node) :
    Disk.node { nodes := d.nodes ++ [(way ++ [name], n)], files } (way ++ [name]) = .ok n := by
  refine node_concat_eq_ok_iff.mpr ⟨(grows_append ..).leads hdir, ?_⟩
  rw [stands?_append, hnone, if_pos rfl]
  rfl

theorem checkParent_concat : d.checkParent (way ++ [name]) = .ok () ↔
    d.node way = .ok .directory := by
  unfold checkParent
  rw [List.dropLast_concat]
  rcases d.node way with err | (_ | k | _) <;> simp

/-! ## Directories -/

/-- All that making a directory does. -/
theorem makeDirectory_eq (h : d.makeDirectory (way ++ [name]) = .ok e) :
    d.node way = .ok .directory ∧ d.stands? (way ++ [name]) = none ∧
      e = { d with nodes := d.nodes ++ [(way ++ [name], .directory)] } := by
  unfold makeDirectory at h
  split at h
  next => exact absurd h (by simp)
  next hparent =>
    split at h
    next => exact absurd h (by simp)
    next hnone => exact ⟨checkParent_concat.mp hparent, hnone, (Except.ok.inj h).symm⟩

theorem makeDirectory_ok (h : d.makeDirectory (way ++ [name]) = .ok e) :
    Grows d e ∧ e.files = d.files ∧ e.node (way ++ [name]) = .ok .directory := by
  obtain ⟨hdir, hnone, rfl⟩ := makeDirectory_eq h
  exact ⟨grows_append .., rfl, node_append hdir hnone _ _⟩

theorem stands?_makeDirectory (h : d.makeDirectory (way ++ [name]) = .ok e)
    (hv : ¬ v <+: way ++ [name]) : e.stands? v = d.stands? v := by
  obtain ⟨-, -, rfl⟩ := makeDirectory_eq h
  have hne : v ≠ way ++ [name] := fun hsame => hv (hsame ▸ List.prefix_refl _)
  rw [stands?_append, if_neg hne, Option.or_none]

theorem makeUpward_ok {rev : List FileName} (h : d.makeUpward rev = .ok e) :
    Grows d e ∧ e.files = d.files ∧ e.node rev.reverse = .ok .directory := by
  induction rev generalizing e with
  | nil =>
    obtain rfl := Except.ok.inj h
    exact ⟨.refl _, rfl, rfl⟩
  | cons name above ih =>
    simp only [makeUpward, List.reverse_cons] at h
    rw [List.reverse_cons]
    split at h
    · rename_i hmade
      obtain rfl := Except.ok.inj h
      exact makeDirectory_ok hmade
    · cases habove : d.makeUpward above with
      | error err => simp [habove] at h
      | ok middle =>
        rw [habove] at h
        obtain ⟨hgrows, hfiles, -⟩ := ih habove
        obtain ⟨hgrows', hfiles', hdir⟩ := makeDirectory_ok h
        exact ⟨hgrows.trans hgrows', hfiles'.trans hfiles, hdir⟩
    · split at h
      · rename_i hthere
        obtain rfl := Except.ok.inj h
        refine ⟨.refl _, rfl, ?_⟩
        unfold isDirectory at hthere
        split at hthere
        · assumption
        · exact absurd hthere (by simp)
      · exact absurd h (by simp)

/-- **Directories that were made are there**, and what stood before stands still. -/
theorem makeDirectories_ok (h : d.makeDirectories way = .ok e) :
    Grows d e ∧ e.files = d.files ∧ e.node way = .ok .directory := by
  have hmade := makeUpward_ok h
  rwa [List.reverse_reverse] at hmade

theorem stands?_makeUpward {rev : List FileName} (h : d.makeUpward rev = .ok e)
    (hv : ¬ v <+: rev.reverse) : e.stands? v = d.stands? v := by
  induction rev generalizing e with
  | nil => exact Except.ok.inj h ▸ rfl
  | cons name above ih =>
    simp only [makeUpward, List.reverse_cons] at h hv
    split at h
    next hdirectory => exact Except.ok.inj h ▸ stands?_makeDirectory hdirectory hv
    next =>
      cases habove : d.makeUpward above with
      | error err => simp [habove] at h
      | ok middle =>
        rw [habove] at h
        have hv' : ¬ v <+: above.reverse := fun hpre => hv (hpre.trans (List.prefix_append ..))
        exact (stands?_makeDirectory h hv).trans (ih habove hv')
    next =>
      split at h
      next => exact Except.ok.inj h ▸ rfl
      next => exact absurd h (by simp)

/-- Directories are made on their way only. -/
theorem stands?_makeDirectories (h : d.makeDirectories way = .ok e) (hv : ¬ v <+: way) :
    e.stands? v = d.stands? v :=
  stands?_makeUpward h (by rwa [List.reverse_reverse])

/-- A directory that is there is not made again. -/
theorem makeDirectories_of_directory (h : d.node way = .ok .directory) :
    d.makeDirectories way = .ok d := by
  induction way using List.reverseRecOn with
  | nil => rfl
  | append_singleton way name =>
    obtain ⟨hdir, hs⟩ := node_concat_eq_ok_iff.mp h
    have hparent : d.checkParent (way ++ [name]) = .ok () := checkParent_concat.mpr hdir
    simp [makeDirectories, makeUpward, makeDirectory, isDirectory, hparent, hs, h]

end QueryGate.Disk
