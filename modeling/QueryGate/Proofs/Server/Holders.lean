import Mathlib.Data.List.Nodup
import QueryGate.Server.Connections

/-!
# Who holds a connection

Whatever happens on a pool, a connection has one holder at most: it is idle, or an administrator's
statement holds it, or one unit does. An event hands connections on, opens one with a new number, or
gives one up.

* `Supplied c supply number? d`: the pool of `c` supplies a connection, and is as in `d` then.
* `Stage.Moves u e s taken s' given kills`: in the event `e` the unit `u` goes from `s` to `s'`; it
  takes one connection, gives one back, and sends kills.
* `Happens c e d`: the event `e` takes `c` to `d`; one case for each event that is not of a unit,
  and one for a unit that moves.
* `opened`: the connections that somebody holds or that are idle.
* `Sound c`: what holds in every state that can come about.

Results:
* `happens_of_step`: what `step` does.
* `Happens.opened`: no event doubles a connection.
* `Reachable.sound`: every state that can come about is sound.
* `Sound.onlyBy`: what a unit holds nobody else does.
-/

namespace QueryGate.Server

/-! ## Events -/

/-- In the event `e` the unit `u` goes from one stage to another. It takes a connection from the
pool, gives one back, and sends kills. -/
inductive Stage.Moves (u : Nat) :
    ConnectionEvent → Stage → Option Nat → Stage → Option Nat → List Kill → Prop
  | acquire (supply : Supply) (n : Nat) :
      Moves u (.acquire u supply) .waiting (some n) (.working n false) none []
  | starve (supply : Supply) : Moves u (.acquire u supply) .waiting none .ended none []
  | begun (n : Nat) (t : Bool) : Moves u (.begun u) (.working n t) none (.working n true) none []
  | finish (n : Nat) (t : Bool) : Moves u (.finish u) (.working n t) none .ended (some n) []
  | spoil (n : Nat) (t : Bool) : Moves u (.spoil u) (.working n t) none .ended none []
  | leave : Moves u (.abandon u) .waiting none .ended none []
  | abandon (n : Nat) (t : Bool) :
      Moves u (.abandon u) (.working n t) none (.abandoned n t) none []
  | kill (supply : Supply) (n m : Nat) (t : Bool) :
      Moves u (.kill u supply) (.abandoned n t) (some m) (.killing n m t) none [⟨u, n, m⟩]
  | giveUp (supply : Supply) (n : Nat) (t : Bool) :
      Moves u (.kill u supply) (.abandoned n t) none (.closing n t) none []
  | killed (n m : Nat) (t : Bool) :
      Moves u (.killed u) (.killing n m t) none (.closing n t) (some m) []
  | close (n : Nat) (t : Bool) : Moves u (.close u) (.closing n t) none .ended none []

namespace Stage.Moves

variable {u : Nat} {e : ConnectionEvent} {s s' : Stage} {taken given : Option Nat}
  {kills : List Kill}

/-- What a unit has and takes it keeps, gives back or gives up. -/
theorem held (h : Moves u e s taken s' given kills) :
    ∃ lost, (taken.toList ++ s.held).Perm (lost ++ (given.toList ++ s'.held)) := by
  cases h with
  | spoil n t => exact ⟨[n], .refl _⟩
  | close n t => exact ⟨[n], .refl _⟩
  | kill supply n m t => exact ⟨[], .swap n m []⟩
  | killed n m t => exact ⟨[], .swap m n []⟩
  | acquire | starve | begun | finish | leave | abandon | giveUp => exact ⟨[], .refl _⟩

/-- A unit has no more of the pool than it had and took. -/
theorem pooled (h : Moves u e s taken s' given kills) :
    given.toList.length + s'.pooled.length ≤ taken.toList.length + s.pooled.length := by
  cases h <;> simp [Stage.pooled, Stage.held, own?, second?]

/-- A unit that has ended stays so. -/
theorem isActive (h : Moves u e s taken s' given kills) : s.isActive = true := by
  cases h <;> rfl

end Stage.Moves

namespace Connections

/-- The pool of `c` supplies a connection, or none, and is as in `d` then. -/
inductive Supplied (c : Connections) : Supply → Option Nat → Connections → Prop
  | idle {n : Nat} {rest : List Nat} (first : c.idle = n :: rest) :
      Supplied c .idle (some n) { c with idle := rest }
  | fresh (room : c.openCount < c.capacity) :
      Supplied c .fresh (some (c.accepted + 1)) { c with accepted := c.accepted + 1 }
  | refused (room : c.openCount < c.capacity) :
      Supplied c .refused none { c with accepted := c.accepted + 1 }
  | overdue (dry : c.idle = []) (full : c.capacity ≤ c.openCount) : Supplied c .overdue none c

/-- How the event has the pool supply a connection, if it does. -/
def Asked (c : Connections) : ConnectionEvent → Option Nat → Connections → Prop
  | .acquire _ supply, number?, d => Supplied c supply number? d
  | .kill _ supply, number?, d => Supplied c supply number? d
  | .borrow supply, number?, d => Supplied c supply number? d
  | _, number?, d => number? = none ∧ d = c

variable {b c d : Connections} {e : ConnectionEvent} {supply : Supply} {number? : Option Nat}
  {u v n m : Nat} {s s' : Stage} {taken given : Option Nat} {kills : List Kill}

theorem supplied_of_supply? (h : c.supply? supply = some (number?, d)) :
    Supplied c supply number? d := by
  cases supply with
  | idle =>
    cases hidle : c.idle with
    | nil => simp [supply?, hidle] at h
    | cons n rest =>
      simp only [supply?, hidle] at h
      obtain ⟨rfl, rfl⟩ := Prod.mk.inj (Option.some.inj h)
      exact .idle hidle
  | fresh =>
    obtain ⟨hroom, h⟩ := Option.ite_none_right_eq_some.mp h
    obtain ⟨rfl, rfl⟩ := Prod.mk.inj (Option.some.inj h)
    exact .fresh hroom
  | refused =>
    obtain ⟨hroom, h⟩ := Option.ite_none_right_eq_some.mp h
    obtain ⟨rfl, rfl⟩ := Prod.mk.inj (Option.some.inj h)
    exact .refused hroom
  | overdue =>
    obtain ⟨⟨hidle, hfull⟩, h⟩ := Option.ite_none_right_eq_some.mp h
    obtain ⟨rfl, rfl⟩ := Prod.mk.inj (Option.some.inj h)
    exact .overdue hidle hfull

/-- The unit `u` moves in the event `e`, which takes `c` to `d`. -/
structure MovesOn (c : Connections) (e : ConnectionEvent) (d : Connections) (u : Nat)
    (s : Stage) (taken : Option Nat) (s' : Stage) (given : Option Nat) (kills : List Kill)
    (b : Connections) : Prop where
  unit : c.units[u]? = some s
  moves : Stage.Moves u e s taken s' given kills
  asked : Asked c e taken b
  after : d = { b with
    units := c.units.set u s', idle := b.idle ++ given.toList, kills := c.kills ++ kills }

/-- The event `e` takes `c` to `d`. -/
inductive Happens (c : Connections) : ConnectionEvent → Connections → Prop
  | arrive (free : c.active < c.workers) :
      Happens c .arrive { c with units := c.units ++ [.waiting] }
  | move {e : ConnectionEvent} {b d : Connections} {u : Nat} {s s' : Stage}
      {taken given : Option Nat} {kills : List Kill}
      (on : MovesOn c e d u s taken s' given kills b) : Happens c e d
  | borrow {supply : Supply} {number? : Option Nat} {b : Connections}
      (supplied : Supplied c supply number? b) :
      Happens c (.borrow supply) { b with borrowed := c.borrowed ++ number?.toList }
  | giveBack {n : Nat} (borrowed : n ∈ c.borrowed) :
      Happens c (.giveBack n) { c with borrowed := c.borrowed.erase n, idle := c.idle ++ [n] }
  | lose {n : Nat} (idle : n ∈ c.idle) : Happens c (.lose n) { c with idle := c.idle.erase n }

theorem Supplied.rest (h : Supplied c supply number? d) :
    d.units = c.units ∧ d.kills = c.kills ∧ d.borrowed = c.borrowed ∧ d.workers = c.workers ∧
      d.capacity = c.capacity := by
  cases h <;> exact ⟨rfl, rfl, rfl, rfl, rfl⟩

/-- A unit that moves without kills, behind a pool that has supplied what was asked for. -/
theorem movesOn_put (hu : c.units[u]? = some s) (hmoves : Stage.Moves u e s taken s' none [])
    (hasked : Asked c e taken b) (hrest : b.units = c.units ∧ b.kills = c.kills) :
    MovesOn c e (b.put u s') u s taken s' none [] b where
  unit := hu
  moves := hmoves
  asked := hasked
  after := by simp [put, hrest]

/-- **What `step` does.** -/
theorem happens_of_step (h : c.step e = some d) : Happens c e d := by
  cases e with
  | arrive =>
    obtain ⟨hfree, h⟩ := Option.ite_none_right_eq_some.mp h
    obtain rfl := Option.some.inj h
    exact .arrive hfree
  | acquire u supply =>
    simp only [step] at h
    split at h
    · rename_i hu hs
      obtain rfl := Option.some.inj h
      have hs := supplied_of_supply? hs
      exact .move (movesOn_put hu (.acquire supply _) hs ⟨hs.rest.1, hs.rest.2.1⟩)
    · rename_i hu hs
      obtain rfl := Option.some.inj h
      have hs := supplied_of_supply? hs
      exact .move (movesOn_put hu (.starve supply) hs ⟨hs.rest.1, hs.rest.2.1⟩)
    · exact absurd h (by simp)
  | begun u =>
    simp only [step] at h
    split at h
    · rename_i hu
      obtain rfl := Option.some.inj h
      exact .move (movesOn_put hu (.begun _ _) ⟨rfl, rfl⟩ ⟨rfl, rfl⟩)
    · exact absurd h (by simp)
  | finish u =>
    simp only [step] at h
    split at h
    · rename_i hu
      obtain rfl := Option.some.inj h
      exact .move ⟨hu, .finish _ _, ⟨rfl, rfl⟩, by simp [put]⟩
    · exact absurd h (by simp)
  | spoil u =>
    simp only [step] at h
    split at h
    · rename_i hu
      obtain rfl := Option.some.inj h
      exact .move (movesOn_put hu (.spoil _ _) ⟨rfl, rfl⟩ ⟨rfl, rfl⟩)
    · exact absurd h (by simp)
  | abandon u =>
    simp only [step] at h
    split at h
    · rename_i hu
      obtain rfl := Option.some.inj h
      exact .move (movesOn_put hu .leave ⟨rfl, rfl⟩ ⟨rfl, rfl⟩)
    · rename_i hu
      obtain rfl := Option.some.inj h
      exact .move (movesOn_put hu (.abandon _ _) ⟨rfl, rfl⟩ ⟨rfl, rfl⟩)
    · exact absurd h (by simp)
  | kill u supply =>
    simp only [step] at h
    split at h
    · rename_i hu hs
      obtain rfl := Option.some.inj h
      have hs := supplied_of_supply? hs
      exact .move ⟨hu, .kill supply _ _ _, hs, by simp [put, hs.rest]⟩
    · rename_i hu hs
      obtain rfl := Option.some.inj h
      have hs := supplied_of_supply? hs
      exact .move (movesOn_put hu (.giveUp supply _ _) hs ⟨hs.rest.1, hs.rest.2.1⟩)
    · exact absurd h (by simp)
  | killed u =>
    simp only [step] at h
    split at h
    · rename_i hu
      obtain rfl := Option.some.inj h
      exact .move ⟨hu, .killed _ _ _, ⟨rfl, rfl⟩, by simp [put]⟩
    · exact absurd h (by simp)
  | close u =>
    simp only [step] at h
    split at h
    · rename_i hu
      obtain rfl := Option.some.inj h
      exact .move (movesOn_put hu (.close _ _) ⟨rfl, rfl⟩ ⟨rfl, rfl⟩)
    · exact absurd h (by simp)
  | borrow supply =>
    simp only [step] at h
    split at h
    · rename_i hs
      obtain rfl := Option.some.inj h
      exact .borrow (supplied_of_supply? hs)
    · exact absurd h (by simp)
  | giveBack n =>
    obtain ⟨hn, h⟩ := Option.ite_none_right_eq_some.mp h
    obtain rfl := Option.some.inj h
    exact .giveBack hn
  | lose n =>
    obtain ⟨hn, h⟩ := Option.ite_none_right_eq_some.mp h
    obtain rfl := Option.some.inj h
    exact .lose hn

/-! ## What is open -/

/-- The connections that are idle or have a holder. -/
def opened (c : Connections) : List Nat := c.idle ++ c.borrowed ++ c.held

/-- What the holders of a list have, with another holder in one place. -/
theorem flatMap_set_perm {α β : Type} {l : List α} {i : Nat} {a : α} (f : α → List β)
    (h : l[i]? = some a) (a' : α) :
    (f a ++ (l.set i a').flatMap f).Perm (f a' ++ l.flatMap f) := by
  obtain ⟨hi, rfl⟩ := List.getElem?_eq_some_iff.mp h
  have hl : l.flatMap f = (l.take i).flatMap f ++ (f l[i] ++ (l.drop (i + 1)).flatMap f) := by
    rw [← List.flatMap_cons, ← List.flatMap_append, List.getElem_cons_drop, List.take_append_drop]
  rw [List.set_eq_take_append_cons_drop, if_pos hi, List.flatMap_append, List.flatMap_cons, hl]
  refine (List.perm_append_comm_assoc ..).trans ?_
  refine List.Perm.trans ?_ (List.perm_append_comm_assoc ..).symm
  exact List.Perm.append_left _ (List.perm_append_comm_assoc ..)

/-- Connections with new numbers. -/
structure News (c d : Connections) (new : List Nat) : Prop where
  nodup : new.Nodup
  le : c.accepted ≤ d.accepted
  above : ∀ n ∈ new, c.accepted < n ∧ n ≤ d.accepted

theorem news_nil (h : c.accepted ≤ d.accepted) : News c d [] := ⟨.nil, h, by simp⟩

theorem Supplied.news (h : Supplied c supply number? d) :
    ∃ new, (number?.toList ++ d.idle).Perm (new ++ c.idle) ∧ News c d new := by
  cases h with
  | idle hfirst => exact ⟨[], by rw [hfirst]; exact .refl _, news_nil (Nat.le_refl _)⟩
  | fresh => exact ⟨[c.accepted + 1], .refl _, by simp, by simp, by simp⟩
  | refused => exact ⟨[], .refl _, news_nil (Nat.le_succ _)⟩
  | overdue => exact ⟨[], .refl _, news_nil (Nat.le_refl _)⟩

theorem Asked.supplied (h : Asked c e number? d) :
    (∃ supply, Supplied c supply number? d) ∨ number? = none ∧ d = c := by
  cases e with
  | acquire u supply => exact Or.inl ⟨supply, h⟩
  | kill u supply => exact Or.inl ⟨supply, h⟩
  | borrow supply => exact Or.inl ⟨supply, h⟩
  | arrive | begun | finish | spoil | abandon | killed | close | giveBack | lose => exact Or.inr h

theorem Asked.rest (h : Asked c e number? d) :
    d.borrowed = c.borrowed ∧ d.workers = c.workers ∧ d.capacity = c.capacity := by
  rcases h.supplied with ⟨supply, hs⟩ | ⟨-, rfl⟩
  · exact hs.rest.2.2
  · exact ⟨rfl, rfl, rfl⟩

theorem Asked.news (h : Asked c e number? d) :
    ∃ new, (number?.toList ++ d.idle).Perm (new ++ c.idle) ∧ News c d new := by
  rcases h.supplied with ⟨supply, hs⟩ | ⟨rfl, rfl⟩
  · exact hs.news
  · exact ⟨[], .refl _, news_nil (Nat.le_refl _)⟩

theorem MovesOn.opened (h : MovesOn c e d u s taken s' given kills b) :
    ∃ lost new, (lost ++ d.opened).Perm (new ++ c.opened) ∧ News c d new := by
  obtain ⟨new, hidle, hnew⟩ := h.asked.news
  obtain ⟨lost, hheld⟩ := h.moves.held
  have hset := flatMap_set_perm Stage.held h.unit s'
  rw [h.after]
  refine ⟨lost, new, List.perm_iff_count.mpr fun n => ?_, hnew.nodup, hnew.le, hnew.above⟩
  have hidle := hidle.count_eq n
  have hheld := hheld.count_eq n
  have hset := hset.count_eq n
  simp only [Connections.opened, Connections.held, h.asked.rest.1, List.count_append]
    at hidle hheld hset ⊢
  omega

/-- **No event doubles a connection**: what is open then was open or has a new number. -/
theorem Happens.opened (h : Happens c e d) :
    ∃ lost new, (lost ++ d.opened).Perm (new ++ c.opened) ∧ News c d new := by
  cases h with
  | arrive hfree =>
    refine ⟨[], [], ?_, news_nil (Nat.le_refl _)⟩
    simp [Connections.opened, Connections.held, Stage.held, Stage.own?, Stage.second?]
  | move hon => exact hon.opened
  | borrow hs =>
    obtain ⟨new, hidle, hnew⟩ := hs.news
    refine ⟨[], new, List.perm_iff_count.mpr fun n => ?_, hnew.nodup, hnew.le, hnew.above⟩
    have hidle := hidle.count_eq n
    simp only [Connections.opened, Connections.held, hs.rest.1, List.count_append,
      List.nil_append] at hidle ⊢
    omega
  | @giveBack n hn =>
    refine ⟨[], [], List.perm_iff_count.mpr fun m => ?_, news_nil (Nat.le_refl _)⟩
    have herase := (List.perm_cons_erase hn).count_eq m
    rw [List.count_cons, ← List.count_singleton] at herase
    simp only [Connections.opened, Connections.held, List.count_append, List.nil_append] at herase ⊢
    omega
  | @lose n hn =>
    refine ⟨[n], [], ?_, news_nil (Nat.le_refl _)⟩
    exact ((List.perm_cons_erase hn).symm.append_right _).append_right _

/-! ## What every state keeps -/

/-- What holds in every state that can come about. -/
structure Sound (c : Connections) : Prop where
  once : c.opened.Nodup
  numbered : ∀ n ∈ c.opened, n ≤ c.accepted
  workers : c.active ≤ c.workers
  room : c.openCount ≤ c.capacity

theorem sound_start (workers capacity : Nat) : Sound { workers, capacity } where
  once := .nil
  numbered := by simp [Connections.opened, Connections.held]
  workers := Nat.zero_le _
  room := Nat.zero_le _

theorem Happens.once (h : Happens c e d) (hc : Sound c) :
    d.opened.Nodup ∧ ∀ n ∈ d.opened, n ≤ d.accepted := by
  obtain ⟨lost, new, hperm, hnew⟩ := h.opened
  have hdisjoint : ∀ n ∈ new, n ∉ c.opened := fun n hn hopen =>
    Nat.lt_irrefl _ (Nat.lt_of_lt_of_le (hnew.above n hn).1 (hc.numbered n hopen))
  have hnodup : (new ++ c.opened).Nodup :=
    List.nodup_append.mpr ⟨hnew.nodup, hc.once, fun n hn m hm hnm => hdisjoint n hn (hnm ▸ hm)⟩
  refine ⟨(List.nodup_append.mp (hperm.nodup_iff.mpr hnodup)).2.1, fun n hn => ?_⟩
  rcases List.mem_append.mp (hperm.mem_iff.mp (List.mem_append_right lost hn)) with hn | hn
  · exact (hnew.above n hn).2
  · exact Nat.le_trans (hc.numbered n hn) hnew.le

theorem Happens.limits (h : Happens c e d) : d.workers = c.workers ∧ d.capacity = c.capacity := by
  cases h with
  | move hon => rw [hon.after]; exact hon.asked.rest.2
  | borrow hs => exact hs.rest.2.2.2
  | arrive | giveBack | lose => exact ⟨rfl, rfl⟩

/-- Only a new unit takes a worker, and it takes a free one. -/
theorem Happens.active (h : Happens c e d) (hc : c.active ≤ c.workers) : d.active ≤ c.workers := by
  cases h with
  | arrive hfree =>
    have hcount : Connections.active { c with units := c.units ++ [.waiting] } = c.active + 1 :=
      List.countP_append
    rw [hcount]
    exact hfree
  | move hon =>
    obtain ⟨hlt, hs⟩ := List.getElem?_eq_some_iff.mp hon.unit
    have hpos : 0 < c.active :=
      List.countP_pos_iff.mpr ⟨_, List.mem_of_getElem? hon.unit, hon.moves.isActive⟩
    rw [hon.after]
    unfold Connections.active at hpos hc ⊢
    rw [List.countP_set hlt, hs, hon.moves.isActive, if_pos rfl]
    split <;> omega
  | borrow hs => rwa [Connections.active, hs.rest.1]
  | giveBack | lose => exact hc

theorem Supplied.room (h : Supplied c supply number? d) :
    number?.toList.length + d.idle.length ≤ c.idle.length ∨
      c.openCount < c.capacity ∧ number?.toList.length + d.idle.length ≤ c.idle.length + 1 := by
  cases h with
  | idle hfirst =>
    left
    rw [hfirst, List.length_cons, Nat.add_comm]
    exact Nat.le_refl _
  | fresh hroom => exact Or.inr ⟨hroom, Nat.le_of_eq (Nat.add_comm ..)⟩
  | refused | overdue => exact Or.inl (Nat.le_of_eq (Nat.zero_add _))

theorem Asked.room (h : Asked c e number? d) :
    number?.toList.length + d.idle.length ≤ c.idle.length ∨
      c.openCount < c.capacity ∧ number?.toList.length + d.idle.length ≤ c.idle.length + 1 := by
  rcases h.supplied with ⟨supply, hs⟩ | ⟨rfl, rfl⟩
  · exact hs.room
  · exact Or.inl (Nat.le_of_eq (Nat.zero_add _))

theorem MovesOn.room (h : MovesOn c e d u s taken s' given kills b)
    (hc : c.openCount ≤ c.capacity) : d.openCount ≤ c.capacity := by
  have hset := (flatMap_set_perm Stage.pooled h.unit s').length_eq
  have hpooled := h.moves.pooled
  have hroom := h.asked.room
  rw [h.after]
  unfold openCount at hc hroom ⊢
  simp only [List.length_append, h.asked.rest.1] at hset ⊢
  omega

/-- **The pool stays within its size.** -/
theorem Happens.room (h : Happens c e d) (hc : c.openCount ≤ c.capacity) :
    d.openCount ≤ c.capacity := by
  cases h with
  | arrive => simpa [openCount, Stage.pooled, Stage.held, Stage.own?, Stage.second?] using hc
  | move hon => exact hon.room hc
  | borrow hs =>
    have hroom := hs.room
    unfold openCount at hc hroom ⊢
    simp only [List.length_append, hs.rest.1]
    omega
  | giveBack hn =>
    have hpos := List.length_pos_of_mem hn
    unfold openCount at hc ⊢
    simp only [List.length_append, List.length_erase_of_mem hn, List.length_singleton]
    omega
  | lose hn =>
    unfold openCount at hc ⊢
    simp only [List.length_erase_of_mem hn]
    omega

theorem Happens.sound (h : Happens c e d) (hc : Sound c) : Sound d where
  once := (h.once hc).1
  numbered := (h.once hc).2
  workers := h.limits.1 ▸ h.active hc.workers
  room := h.limits.2 ▸ h.room hc.room

/-- **Every state that can come about is sound**, and has the limits it started with. -/
theorem Reachable.sound {workers capacity : Nat} (h : Reachable workers capacity c) :
    Sound c ∧ c.workers = workers ∧ c.capacity = capacity := by
  induction h with
  | start => exact ⟨sound_start workers capacity, rfl, rfl⟩
  | next e _ hstep ih =>
    have h := happens_of_step hstep
    exact ⟨h.sound ih.1, h.limits.1.trans ih.2.1, h.limits.2.trans ih.2.2⟩

/-! ## One holder -/

/-- Nobody but the unit `u` may hold the connection, and it is not idle. -/
structure OnlyBy (c : Connections) (u n : Nat) : Prop where
  idle : n ∉ c.idle
  borrowed : n ∉ c.borrowed
  units : ∀ v s, c.units[v]? = some s → n ∈ s.held → v = u

/-- **What a unit holds nobody else does.** -/
theorem Sound.onlyBy (hc : Sound c) (hu : c.units[u]? = some s) (hn : n ∈ s.held) :
    OnlyBy c u n := by
  have honce := hc.once
  unfold opened Connections.held at honce
  obtain ⟨-, hheld, hdisjoint⟩ := List.nodup_append.mp honce
  have hmem : n ∈ c.units.flatMap Stage.held :=
    List.mem_flatMap.mpr ⟨s, List.mem_of_getElem? hu, hn⟩
  refine ⟨fun h => hdisjoint n (List.mem_append_left _ h) n hmem rfl,
    fun h => hdisjoint n (List.mem_append_right _ h) n hmem rfl, fun v s' hv hn' => ?_⟩
  obtain ⟨hultu, hsu⟩ := List.getElem?_eq_some_iff.mp hu
  obtain ⟨hvlt, hsv⟩ := List.getElem?_eq_some_iff.mp hv
  have hpairs := List.pairwise_iff_getElem.mp (List.nodup_flatMap.mp hheld).2
  rcases Nat.lt_trichotomy v u with hlt | heq | hlt
  · have := hpairs v u hvlt hultu hlt
    exact absurd (this (hsv ▸ hn') (hsu ▸ hn)) (by simp)
  · exact heq
  · have := hpairs u v hultu hvlt hlt
    exact absurd (this (hsu ▸ hn) (hsv ▸ hn')) (by simp)

/-- A unit does not hold a connection twice. -/
theorem Sound.nodup_held (hc : Sound c) (hu : c.units[u]? = some s) : s.held.Nodup := by
  have honce := hc.once
  unfold opened Connections.held at honce
  exact (List.nodup_flatMap.mp (List.nodup_append.mp honce).2.1).1 s (List.mem_of_getElem? hu)

end Connections

end QueryGate.Server
