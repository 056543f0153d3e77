import Mathlib.Data.List.Nodup
import Mathlib.Data.List.Perm.Subperm
import Mathlib.Data.Prod.Lex
import QueryGate.History.Log

/-!
# The newest entries

Of entries with different numbers, one of any two is newer, so a list of them has one order from the
newest on. An entry is among the newest so many iff fewer entries are newer than it.

* `Descends s`: the list goes from newer to older entries.
* `ownBy user l`: the entries of a user.
* `IsNewest keep l e`: `e` is among the newest `keep` entries of `l`.

Results:
* `Descends.mem_take_iff`: the newest entries stand first in a descending list.
* `IsNewest.of_part`: who has all of the newest entries, and perhaps some others, sees which of them
  are the newest.
* `Log.mem_prune_iff`: what is left after a log was pruned.
-/

namespace QueryGate

variable {a b c e : Entry} {l s t : List Entry} {keep : Nat} {user : Int}

/-! ## Newer and older -/

namespace Entry

/-- By what entries are ordered: the time, then the number. -/
def key (e : Entry) : ℕ ×ₗ ℕ := toLex (e.createdAt, e.id)

theorem newer_iff : a.newer b = true ↔ b.key < a.key := by
  simp [newer, key, Prod.Lex.toLex_lt_toLex]

theorem newer_asymm (h : a.newer b = true) : b.newer a = false := by
  rw [newer_iff] at h
  rw [← Bool.not_eq_true, newer_iff]
  exact h.asymm

theorem newer_self (a : Entry) : a.newer a = false := by
  rw [← Bool.not_eq_true, newer_iff]
  exact lt_irrefl _

end Entry

/-- The list goes from newer to older entries. -/
def Descends (s : List Entry) : Prop := s.Pairwise fun a b => a.newer b = true

theorem Descends.nodup (h : Descends s) : s.Nodup :=
  h.imp fun hab hsame => absurd (hsame ▸ hab) (by simp [Entry.newer_self])

/-- **Entries with different numbers have a descending order.** -/
theorem descends_mergeSort (h : (l.map (·.id)).Nodup) :
    Descends (l.mergeSort fun a b => !b.newer a) := by
  have hperm := List.mergeSort_perm l fun a b => !b.newer a
  have hsorted := @List.pairwise_mergeSort Entry (fun a b => !b.newer a) ?_ ?_ l
  · have hids : ((l.mergeSort fun a b => !b.newer a).map (·.id)).Nodup :=
      ((hperm.map (·.id)).nodup_iff).mpr h
    refine hsorted.imp₂ (fun a b hab hne => ?_) (List.pairwise_map.mp hids)
    rw [Bool.not_eq_true', ← Bool.not_eq_true, Entry.newer_iff, not_lt] at hab
    rw [Entry.newer_iff]
    exact lt_of_le_of_ne hab fun hkey => hne (Prod.ext_iff.mp (toLex.injective hkey)).2.symm
  · intro a b c hab hbc
    rw [Bool.not_eq_true', ← Bool.not_eq_true, Entry.newer_iff, not_lt] at *
    exact hbc.trans hab
  · intro a b
    rw [Bool.or_eq_true, Bool.not_eq_true', Bool.not_eq_true', ← Bool.not_eq_true,
      ← Bool.not_eq_true, Entry.newer_iff, Entry.newer_iff, not_lt, not_lt]
    exact le_total ..

/-! ## The newest of a list -/

/-- The entry is among the newest `keep` entries of the list: fewer are newer. -/
def IsNewest (keep : Nat) (l : List Entry) (e : Entry) : Prop :=
  e ∈ l ∧ l.countP (·.newer e) < keep

theorem isNewest_congr (h : s.Perm l) : IsNewest keep s e ↔ IsNewest keep l e := by
  unfold IsNewest
  rw [h.mem_iff, h.countP_eq]

/-- In a descending list the newer entries are those that stand before. -/
theorem Descends.countP_newer (h : Descends s) {i : Nat} (hi : i < s.length) :
    s.countP (·.newer s[i]) = i := by
  have hparts := List.take_append_drop i s
  rw [List.drop_eq_getElem_cons hi] at hparts
  have hpair := h
  rw [Descends, ← hparts, List.pairwise_append, List.pairwise_cons] at hpair
  obtain ⟨-, ⟨hafter, -⟩, hbefore⟩ := hpair
  have htake : (s.take i).countP (·.newer s[i]) = (s.take i).length :=
    List.countP_eq_length.mpr fun a ha => hbefore a ha _ List.mem_cons_self
  have hdrop : (s[i] :: s.drop (i + 1)).countP (·.newer s[i]) = 0 := by
    refine List.countP_eq_zero.mpr fun a ha => ?_
    rcases List.mem_cons.mp ha with rfl | ha
    · simp [Entry.newer_self]
    · simp [Entry.newer_asymm (hafter a ha)]
  calc s.countP (·.newer s[i])
      = (s.take i ++ s[i] :: s.drop (i + 1)).countP (·.newer s[i]) := by rw [hparts]
    _ = i := by rw [List.countP_append, htake, hdrop, List.length_take, Nat.add_zero,
      Nat.min_eq_left (Nat.le_of_lt hi)]

/-- **The newest entries stand first** in a descending list. -/
theorem Descends.mem_take_iff (h : Descends s) : e ∈ s.take keep ↔ IsNewest keep s e := by
  constructor
  · intro he
    obtain ⟨i, hi, rfl⟩ := List.mem_take_iff_getElem.mp he
    rw [Nat.lt_min] at hi
    exact ⟨List.getElem_mem _, by rw [h.countP_newer hi.2]; exact hi.1⟩
  · rintro ⟨he, hfew⟩
    obtain ⟨i, hi, rfl⟩ := List.getElem_of_mem he
    rw [h.countP_newer hi] at hfew
    exact List.mem_take_iff_getElem.mpr ⟨i, Nat.lt_min.mpr ⟨hfew, hi⟩, rfl⟩

/-- **The newest are seen from a part.** If a part of the entries holds the newest ones of all, then
who is among the newest of the part is among the newest of all. -/
theorem IsNewest.of_part {part : List Entry} (hids : (l.map (·.id)).Nodup) (hpart : part ⊆ l)
    (hall : ∀ e, IsNewest keep l e → e ∈ part) (h : IsNewest keep part e) :
    IsNewest keep l e := by
  have hperm := List.mergeSort_perm l fun a b => !b.newer a
  have hs := descends_mergeSort hids
  generalize l.mergeSort (fun a b => !b.newer a) = s at hperm hs
  rw [← isNewest_congr hperm, ← hs.mem_take_iff]
  obtain ⟨i, hi, rfl⟩ := List.getElem_of_mem (hperm.mem_iff.mpr (hpart h.1))
  by_contra hlate
  have hkeep : keep ≤ i := by
    by_contra hlt
    exact hlate (List.mem_take_iff_getElem.mpr ⟨i, Nat.lt_min.mpr ⟨by omega, hi⟩, rfl⟩)
  -- the newest ones of all are in the part and newer than the entry: there are too many of them
  have hnewer : s.take keep ⊆ part.filter (·.newer s[i]) := by
    intro a ha
    rw [List.mem_filter]
    refine ⟨hall a ((isNewest_congr hperm).mp (hs.mem_take_iff.mp ha)), ?_⟩
    obtain ⟨j, hj, rfl⟩ := List.mem_take_iff_getElem.mp ha
    exact List.pairwise_iff_getElem.mp hs j i _ _ (by omega)
  have hcount := ((hs.nodup.sublist (List.take_sublist keep s)).subperm hnewer).length_le
  rw [List.length_take, Nat.min_eq_left (Nat.le_trans hkeep (Nat.le_of_lt hi)),
    ← List.countP_eq_length_filter] at hcount
  exact absurd h.2 (Nat.not_lt.mpr hcount)

/-! ## Own entries -/

/-- The entries of a user. -/
def ownBy (user : Int) (l : List Entry) : List Entry := l.filter (·.attempt.userId == user)

theorem mem_ownBy : e ∈ ownBy user l ↔ e ∈ l ∧ e.attempt.userId = user := by
  simp [ownBy]

theorem nodup_ownBy (h : (l.map (·.id)).Nodup) : ((ownBy user l).map (·.id)).Nodup :=
  h.sublist ((List.filter_sublist).map _)

namespace Log

variable {log : Log}

theorem newestFirst_perm (log : Log) (user : Int) :
    (log.newestFirst user).Perm (ownBy user log.entries) :=
  List.mergeSort_perm ..

theorem descends_newestFirst (h : (log.entries.map (·.id)).Nodup) (user : Int) :
    Descends (log.newestFirst user) :=
  descends_mergeSort (nodup_ownBy h)

/-- **Pruning leaves a user the newest entries**, and other users all of theirs. -/
theorem mem_prune_iff (h : (log.entries.map (·.id)).Nodup) :
    e ∈ (log.prune user keep).entries ↔ e ∈ log.entries ∧
      (e.attempt.userId = user → IsNewest keep (ownBy user log.entries) e) := by
  have hs := descends_newestFirst h user
  rw [prune, List.mem_filter]
  refine and_congr_right fun he => ?_
  rw [Bool.or_eq_true, decide_eq_true_eq, Bool.not_eq_true', ← Bool.not_eq_true,
    List.contains_iff_mem, ← imp_iff_not_or]
  refine imp_congr_right fun hown => ?_
  have hmem : e ∈ log.newestFirst user :=
    (log.newestFirst_perm user).mem_iff.mpr (mem_ownBy.mpr ⟨he, hown⟩)
  rw [← isNewest_congr (log.newestFirst_perm user), ← hs.mem_take_iff]
  have hnum : e.id ∈ ((log.newestFirst user).drop keep).map (·.id) ↔
      e ∈ (log.newestFirst user).drop keep := by
    refine ⟨fun hid => ?_, fun hin => List.mem_map_of_mem hin⟩
    obtain ⟨a, ha, hsame⟩ := List.mem_map.mp hid
    have hain := (mem_ownBy.mp ((log.newestFirst_perm user).mem_iff.mp (List.mem_of_mem_drop ha))).1
    rwa [List.inj_on_of_nodup_map h hain he hsame] at ha
  have hnodup := hs.nodup
  rw [← List.take_append_drop keep (log.newestFirst user)] at hmem hnodup
  rw [hnum]
  constructor
  · exact fun hnot => (List.mem_append.mp hmem).resolve_right hnot
  · exact fun hin hlate => List.disjoint_of_nodup_append hnodup hin hlate

theorem prune_sublist (log : Log) (user : Int) (keep : Nat) :
    (log.prune user keep).entries.Sublist log.entries :=
  List.filter_sublist

end Log

end QueryGate
