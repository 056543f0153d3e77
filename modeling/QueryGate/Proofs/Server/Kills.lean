import QueryGate.Proofs.Computations
import QueryGate.Proofs.Server.Holders
import QueryGate.Settings.Basic

/-!
# Kills hit nobody else

A unit whose caller left has its own statement killed, and closes its connection. From the moment
when the caller leaves nobody else ever holds that connection, whatever happens in between, so that
the kill can meet no other statement.

* `Connections.steps`: events one after another.
* `Leaving c u n`: the unit `u` was abandoned at work on the connection `n`; it still has it, or has
  closed it.
* `own`, `seconds`: the connections that units hold for their own statements, and for kills.

Results:
* `Happens.leaving`: no event upsets that a unit is leaving its connection.
* `Reachable.kills`: nobody but the unit that killed it ever has the target of a kill.
* `ends_of_leaving`: an abandoned unit can always go on to its end, by events of its own.
* `Sound.own_le_workers`: the units' own connections are no more than there are workers.
* `Sound.exists_second`: where nothing else took them, the pool has a connection for a kill.

Headline: **`kills_hit_own_statement`**.
-/

namespace QueryGate.Server

/-- The connection of a unit whose caller left and which has not closed it yet. -/
def Stage.leaving? : Stage → Option Nat
  | .abandoned n _ => some n
  | .killing n _ _ => some n
  | .closing n _ => some n
  | _ => none

/-- The unit that takes part in an event. -/
def ConnectionEvent.unit? : ConnectionEvent → Option Nat
  | .acquire u _ => some u
  | .begun u => some u
  | .finish u => some u
  | .spoil u => some u
  | .abandon u => some u
  | .kill u _ => some u
  | .killed u => some u
  | .close u => some u
  | .arrive => none
  | .borrow _ => none
  | .giveBack _ => none
  | .lose _ => none

theorem Stage.mem_held_of_leaving {s : Stage} {n : Nat} (h : s.leaving? = some n) : n ∈ s.held := by
  cases s <;> simp_all [leaving?, held, own?]

/-- A unit that leaves a connection keeps it or ends. -/
theorem Stage.Moves.leaving {u n : Nat} {e : ConnectionEvent} {s s' : Stage}
    {taken given : Option Nat} {kills : List Kill} (h : Moves u e s taken s' given kills)
    (hs : s.leaving? = some n) (hn : s.held.Nodup) :
    n ∉ given.toList ∧ (s'.leaving? = some n ∨ s' = .ended) := by
  cases h with
  | killed n' m t =>
    obtain rfl := Option.some.inj hs
    refine ⟨fun hm => ?_, Or.inl rfl⟩
    obtain rfl := List.mem_singleton.mp hm
    exact absurd hn (by simp [Stage.held, own?, second?])
  | close => exact ⟨List.not_mem_nil, Or.inr rfl⟩
  | kill | giveUp => exact ⟨List.not_mem_nil, Or.inl hs⟩
  | acquire | starve | begun | finish | spoil | leave | abandon =>
    exact absurd hs (by simp [leaving?])

/-- A unit has no more connections of the pool than it has for its statements and for a kill. -/
theorem Stage.pooled_le (s : Stage) :
    s.pooled.length ≤ (if s.own?.isSome then 1 else 0) + if s.second?.isSome then 1 else 0 := by
  cases s <;> simp [pooled, held, own?, second?]

namespace Connections

variable {b c d : Connections} {e : ConnectionEvent} {number? : Option Nat} {u v n m : Nat}
  {s s' : Stage} {t : Bool} {taken given : Option Nat} {sent : List Kill} {supply : Supply}
  {workers capacity : Nat}

/-! ## Leaving a connection -/

/-- The unit `u` was abandoned at work on the connection `n`. It still has it, or has closed it. -/
structure Leaving (c : Connections) (u n : Nat) : Prop where
  numbered : n ≤ c.accepted
  onlyBy : OnlyBy c u n
  stage : ∃ s, c.units[u]? = some s ∧ (s.leaving? = some n ∨ s = .ended)

theorem Sound.leaving (hc : Sound c) (hu : c.units[u]? = some s) (hs : s.leaving? = some n) :
    Leaving c u n where
  numbered := hc.numbered n (List.mem_append_right _
    (List.mem_flatMap.mpr ⟨s, List.mem_of_getElem? hu, Stage.mem_held_of_leaving hs⟩))
  onlyBy := hc.onlyBy hu (Stage.mem_held_of_leaving hs)
  stage := ⟨s, hu, Or.inl hs⟩

/-- A connection that was closed is not open again. -/
theorem Leaving.not_opened (h : Leaving c u n) (hu : c.units[u]? = some .ended) :
    n ∉ c.opened := by
  unfold opened Connections.held
  simp only [List.mem_append, List.mem_flatMap, not_or, not_exists, not_and]
  refine ⟨⟨h.onlyBy.idle, h.onlyBy.borrowed⟩, fun s hs hn => ?_⟩
  obtain ⟨v, hv⟩ := List.getElem?_of_mem hs
  obtain rfl := h.onlyBy.units v s hv hn
  obtain rfl := Option.some.inj (hv.symm.trans hu)
  exact absurd hn (by simp [Stage.held, Stage.own?, Stage.second?])

/-- The pool supplies no connection that a unit is leaving. -/
theorem Leaving.ne_of_asked (h : Leaving c u n) (hb : Asked c e number? b)
    (hm : m ∈ number?.toList ++ b.idle) : m ≠ n := by
  obtain ⟨new, hperm, hnew⟩ := hb.news
  rintro rfl
  rcases List.mem_append.mp (hperm.mem_iff.mp hm) with hm | hm
  · exact Nat.not_le_of_lt (hnew.above m hm).1 h.numbered
  · exact h.onlyBy.idle hm

theorem MovesOn.leaving (hon : MovesOn c e d v s taken s' given sent b) (hc : Sound c)
    (h : Leaving c u n) : Leaving d u n := by
  obtain ⟨new, -, hnew⟩ := hon.asked.news
  obtain ⟨lost, hheld⟩ := hon.moves.held
  obtain ⟨su, hu, hsu⟩ := h.stage
  have htaken : n ∉ taken.toList := fun hm =>
    h.ne_of_asked hon.asked (List.mem_append_left _ hm) rfl
  have hidle : n ∉ b.idle := fun hm => h.ne_of_asked hon.asked (List.mem_append_right _ hm) rfl
  -- What the moving unit gives back or keeps it had or took.
  have hfrom : ∀ k ∈ given.toList ++ s'.held, k ∈ taken.toList ++ s.held := fun k hk =>
    hheld.mem_iff.mpr (List.mem_append_right lost hk)
  have hother : v ≠ u → n ∉ given.toList ++ s'.held := fun hv hn =>
    (List.mem_append.mp (hfrom n hn)).elim htaken fun hn =>
      hv (h.onlyBy.units v s hon.unit hn)
  have hgiven : n ∉ given.toList ∧ ∃ s, (c.units.set v s')[u]? = some s ∧
      (s.leaving? = some n ∨ s = .ended) := by
    by_cases hv : v = u
    · subst hv
      obtain rfl := Option.some.inj (hu.symm.trans hon.unit)
      rw [List.getElem?_set_self (List.getElem?_eq_some_iff.mp hu).1]
      rcases hsu with hsu | rfl
      · obtain ⟨hgiven, hs'⟩ := hon.moves.leaving hsu (hc.nodup_held hu)
        exact ⟨hgiven, _, rfl, hs'⟩
      · exact absurd hon.moves.isActive (by simp [Stage.isActive])
    · rw [List.getElem?_set_ne hv]
      exact ⟨fun hn => hother hv (List.mem_append_left _ hn), su, hu, hsu⟩
  rw [hon.after]
  refine ⟨Nat.le_trans h.numbered hnew.le, ⟨?_, ?_, fun w sw hw hn => ?_⟩, hgiven.2⟩
  · exact fun hn => (List.mem_append.mp hn).elim hidle hgiven.1
  · exact fun hn => h.onlyBy.borrowed (hon.asked.rest.1 ▸ hn)
  · by_cases hwv : v = w
    · subst hwv
      rw [List.getElem?_set_self (List.getElem?_eq_some_iff.mp hon.unit).1] at hw
      obtain rfl := Option.some.inj hw
      by_contra hvu
      exact hother hvu (List.mem_append_right _ hn)
    · rw [List.getElem?_set_ne hwv] at hw
      exact h.onlyBy.units w sw hw hn

/-- **No event upsets that a unit is leaving its connection.** -/
theorem Happens.leaving (he : Happens c e d) (hc : Sound c) (h : Leaving c u n) :
    Leaving d u n := by
  obtain ⟨su, hu, hsu⟩ := h.stage
  cases he with
  | move hon => exact hon.leaving hc h
  | arrive hfree =>
    refine ⟨h.numbered, ⟨h.onlyBy.idle, h.onlyBy.borrowed, fun v s hv hn => ?_⟩, su, ?_, hsu⟩
    · rcases Nat.lt_or_ge v c.units.length with hlt | hge
      · exact h.onlyBy.units v s (List.getElem?_append_left hlt ▸ hv) hn
      · rw [List.getElem?_append_right hge] at hv
        obtain rfl := List.mem_singleton.mp (List.mem_of_getElem? hv)
        exact absurd hn (by simp [Stage.held, Stage.own?, Stage.second?])
    · rw [List.getElem?_append_left (List.getElem?_eq_some_iff.mp hu).1, hu]
  | @borrow supply number? b hs =>
    have hsupply : ∀ k ∈ number?.toList ++ b.idle, k ≠ n := fun k hk =>
      h.ne_of_asked (e := .borrow supply) hs hk
    obtain ⟨new, -, hnew⟩ := hs.news
    refine ⟨Nat.le_trans h.numbered hnew.le, ⟨?_, ?_, ?_⟩, su, ?_, hsu⟩
    · exact fun hn => hsupply n (List.mem_append_right _ hn) rfl
    · exact fun hn => (List.mem_append.mp hn).elim h.onlyBy.borrowed fun hn =>
        hsupply n (List.mem_append_left _ hn) rfl
    · exact fun v s hv => h.onlyBy.units v s (hs.rest.1 ▸ hv)
    · exact hs.rest.1 ▸ hu
  | @giveBack m hm =>
    refine ⟨h.numbered, ⟨fun hn => ?_, ?_, h.onlyBy.units⟩, su, hu, hsu⟩
    · rcases List.mem_append.mp hn with hn | hn
      · exact h.onlyBy.idle hn
      · exact h.onlyBy.borrowed (List.mem_singleton.mp hn ▸ hm)
    · exact fun hn => h.onlyBy.borrowed (List.mem_of_mem_erase hn)
  | lose hm =>
    exact ⟨h.numbered, ⟨fun hn => h.onlyBy.idle (List.mem_of_mem_erase hn), h.onlyBy.borrowed,
      h.onlyBy.units⟩, su, hu, hsu⟩

/-! ## Runs -/

/-- Events one after another; `none` if one of them cannot happen. -/
def steps : Connections → List ConnectionEvent → Option Connections
  | c, [] => some c
  | c, e :: es => (c.step e).bind (steps · es)

theorem steps_cons {es : List ConnectionEvent} (h : c.steps (e :: es) = some d) :
    ∃ b, c.step e = some b ∧ b.steps es = some d :=
  Option.bind_eq_some_iff.mp h

theorem Reachable.steps {es : List ConnectionEvent} (hc : Reachable workers capacity c)
    (h : c.steps es = some d) : Reachable workers capacity d := by
  induction es generalizing c with
  | nil =>
    obtain rfl := Option.some.inj h
    exact hc
  | cons e es ih =>
    obtain ⟨b, hstep, hrest⟩ := steps_cons h
    exact ih (hc.next e hstep) hrest

/-- **A unit that is leaving a connection leaves it to nobody**, whatever happens. -/
theorem leaving_of_steps {es : List ConnectionEvent} (hc : Sound c) (h : Leaving c u n)
    (hrun : c.steps es = some d) : Leaving d u n := by
  induction es generalizing c with
  | nil =>
    obtain rfl := Option.some.inj hrun
    exact h
  | cons e es ih =>
    obtain ⟨b, hstep, hrest⟩ := steps_cons hrun
    have hb := happens_of_step hstep
    exact ih (hb.sound hc) (hb.leaving hc h) hrest

/-! ## The end of an abandoned unit -/

theorem put_units (c : Connections) (hu : u < c.units.length) (s : Stage) :
    (c.put u s).units[u]? = some s :=
  List.getElem?_set_self hu

/-- The pool answers a unit in one way or another. -/
theorem exists_supply? (c : Connections) :
    ∃ supply number? b, c.supply? supply = some (number?, b) := by
  by_cases hroom : c.openCount < c.capacity
  · exact ⟨.refused, none, _, if_pos hroom⟩
  · cases hidle : c.idle with
    | nil => exact ⟨.overdue, none, _, if_pos ⟨hidle, Nat.le_of_not_lt hroom⟩⟩
    | cons n rest => exact ⟨.idle, some n, { c with idle := rest }, by simp [supply?, hidle]⟩

/-- The unit `u` can go on to its end, by events of its own. -/
def Ends (c : Connections) (u : Nat) : Prop :=
  ∃ es d, c.steps es = some d ∧ (∀ e ∈ es, e.unit? = some u) ∧ d.units[u]? = some .ended

theorem Ends.cons (h : Ends d u) (he : e.unit? = some u) (hstep : c.step e = some d) :
    Ends c u := by
  obtain ⟨es, f, hrun, hes, hend⟩ := h
  refine ⟨e :: es, f, ?_, List.forall_mem_cons.mpr ⟨he, hes⟩, hend⟩
  rw [steps, hstep]
  exact hrun

theorem exists_kill (hu : c.units[u]? = some (.abandoned n t))
    (hsupply : c.supply? supply = some (some m, b)) :
    ∃ d, c.step (.kill u supply) = some d ∧ d.units[u]? = some (.killing n m t) := by
  have hlt := (List.getElem?_eq_some_iff.mp hu).1
  rw [← (supplied_of_supply? hsupply).rest.1] at hlt
  refine ⟨{ b.put u (.killing n m t) with kills := c.kills ++ [⟨u, n, m⟩] }, ?_, ?_⟩
  · simp only [step, hu, hsupply]
  · exact put_units b hlt _

theorem exists_killed (hu : c.units[u]? = some (.killing n m t)) :
    ∃ d, c.step (.killed u) = some d ∧ d.units[u]? = some (.closing n t) := by
  have hlt := (List.getElem?_eq_some_iff.mp hu).1
  refine ⟨{ c.put u (.closing n t) with idle := c.idle ++ [m] }, ?_, put_units c hlt _⟩
  simp only [step, hu]

theorem ends_of_closing (hu : c.units[u]? = some (.closing n t)) : Ends c u := by
  have hlt := (List.getElem?_eq_some_iff.mp hu).1
  have hstep : c.step (.close u) = some (c.put u .ended) := by simp only [step, hu]
  exact Ends.cons ⟨[], _, rfl, by simp, put_units c hlt .ended⟩ rfl hstep

theorem ends_of_killing (hu : c.units[u]? = some (.killing n m t)) : Ends c u := by
  obtain ⟨d, hstep, hd⟩ := exists_killed hu
  exact (ends_of_closing hd).cons rfl hstep

/-- **An abandoned unit can always go on to its end.** -/
theorem ends_of_leaving (hu : c.units[u]? = some s) (hs : s.leaving? = some n) : Ends c u := by
  cases s with
  | closing n' t => exact ends_of_closing hu
  | killing n' m t => exact ends_of_killing hu
  | abandoned n' t =>
    obtain ⟨supply, number?, b, hb⟩ := exists_supply? c
    cases number? with
    | none =>
      have hlt := (List.getElem?_eq_some_iff.mp hu).1
      rw [← (supplied_of_supply? hb).rest.1] at hlt
      have hstep : c.step (.kill u supply) = some (b.put u (.closing n' t)) := by
        simp only [step, hu, hb]
      exact (ends_of_closing (put_units b hlt (.closing n' t))).cons rfl hstep
    | some m =>
      obtain ⟨d, hstep, hd⟩ := exists_kill hu hb
      exact (ends_of_killing hd).cons rfl hstep
  | waiting | working | ended => exact absurd hs (by simp [Stage.leaving?])

/-! ## Room for kills -/

/-- The connections that units hold for their own statements. -/
def own (c : Connections) : List Nat := c.units.filterMap Stage.own?

/-- The connections that units hold for kills. -/
def seconds (c : Connections) : List Nat := c.units.filterMap Stage.second?

/-- **The units' own connections are no more than there are workers.** -/
theorem Sound.own_le_workers (hc : Sound c) : c.own.length ≤ c.workers := by
  have hown : c.own.length ≤ c.active := by
    rw [own, List.length_filterMap_eq_countP]
    refine List.countP_mono_left fun s _ hs => ?_
    cases s <;> simp_all [Stage.own?, Stage.isActive]
  exact Nat.le_trans hown hc.workers

theorem openCount_le (c : Connections) :
    c.openCount ≤ c.idle.length + c.borrowed.length + (c.own.length + c.seconds.length) := by
  have hpooled : ∀ units : List Stage, (units.flatMap Stage.pooled).length ≤
      units.countP (·.own?.isSome) + units.countP (·.second?.isSome) := by
    intro units
    induction units with
    | nil => exact Nat.le_refl 0
    | cons s units ih =>
      have hs := Stage.pooled_le s
      rw [List.flatMap_cons, List.length_append, List.countP_cons, List.countP_cons]
      omega
  rw [own, seconds, List.length_filterMap_eq_countP, List.length_filterMap_eq_countP]
  exact Nat.add_le_add_left (hpooled c.units) _

/-- Where there are fewer workers than connections, and neither another kill nor an administrator
has one, the pool has one for a kill. -/
theorem Sound.exists_second (hc : Sound c) (hless : c.workers < c.capacity)
    (hseconds : c.seconds = []) (hborrowed : c.borrowed = []) :
    ∃ supply m b, c.supply? supply = some (some m, b) := by
  cases hidle : c.idle with
  | cons m rest => exact ⟨.idle, m, { c with idle := rest }, by simp only [supply?, hidle]⟩
  | nil =>
    have hroom : c.openCount < c.capacity := by
      have hle := c.openCount_le
      have hown := hc.own_le_workers
      rw [hidle, hborrowed, hseconds] at hle
      simp only [List.length_nil] at hle
      omega
    exact ⟨.fresh, _, _, if_pos hroom⟩

/-! ## Kills -/

theorem MovesOn.kills (h : MovesOn c e d u s taken s' given sent b) (hsent : sent ≠ []) :
    ∃ n m t, sent = [⟨u, n, m⟩] ∧ s = .abandoned n t ∧ s' = .killing n m t := by
  cases h.moves with
  | kill supply n m t => exact ⟨n, m, t, rfl, rfl, rfl⟩
  | _ => exact absurd rfl hsent

/-- A kill is sent by an abandoned unit, to the connection that it holds. -/
theorem Happens.kills (h : Happens c e d) (hkills : d.kills ≠ c.kills) :
    ∃ u n m t, d.kills = c.kills ++ [⟨u, n, m⟩] ∧ c.units[u]? = some (.abandoned n t) ∧
      d.units[u]? = some (.killing n m t) := by
  cases h with
  | move hon =>
    rw [hon.after] at hkills ⊢
    obtain ⟨n, m, t, rfl, rfl, rfl⟩ := hon.kills fun hnil => hkills (by rw [hnil, List.append_nil])
    exact ⟨_, n, m, t, rfl, hon.unit,
      List.getElem?_set_self (List.getElem?_eq_some_iff.mp hon.unit).1⟩
  | borrow hs => exact absurd hs.rest.2.1 hkills
  | arrive | giveBack | lose => exact absurd rfl hkills

/-- **What was killed nobody else holds**, now or later. -/
theorem Reachable.kills (hc : Reachable workers capacity c) :
    ∀ k ∈ c.kills, Leaving c k.unit k.target := by
  induction hc with
  | start => simp
  | next e hreached hstep ih =>
    rename_i c d
    have hsound := hreached.sound.1
    have hd := happens_of_step hstep
    have hold : ∀ k ∈ c.kills, Leaving d k.unit k.target := fun k hk =>
      hd.leaving hsound (ih k hk)
    by_cases hkills : d.kills = c.kills
    · rwa [hkills]
    · obtain ⟨u, n, m, t, hsent, hu, -⟩ := hd.kills hkills
      rw [hsent]
      intro k hk
      rcases List.mem_append.mp hk with hk | hk
      · exact hold k hk
      · obtain rfl := List.mem_singleton.mp hk
        exact hd.leaving hsound (hsound.leaving hu rfl)

/-! ## The law -/

/-- Settings that are accepted leave a connection to spare. -/
theorem workers_lt_poolSize {settings : Settings} (h : settings.check = .ok ()) :
    settings.limits.workers < settings.database.poolSize := by
  unfold Settings.check at h
  obtain ⟨-, -, h⟩ := ok_of_bind h
  obtain ⟨-, -, h⟩ := ok_of_bind h
  obtain ⟨-, -, h⟩ := ok_of_bind h
  obtain ⟨-, -, h⟩ := ok_of_bind h
  obtain ⟨-, -, h⟩ := ok_of_bind h
  split at h
  · exact absurd h (by simp [throw, throwThe, MonadExceptOf.throw])
  · rename_i hless
    exact Nat.lt_of_not_le hless

/-- **Kills hit nobody else's statement.** Whatever units and administrators do under settings that
the program accepts: a kill is sent by an abandoned unit that alone holds the connection whose
statement is killed, before and after; nobody else ever holds that connection again. The connection
of a unit whose caller left at work, in a transaction or not, is held by nobody else from then on;
the unit can always go on to its end, and the connection is closed then. The units hold fewer
connections for their statements than the pool may have, so that the pool has one for a kill unless
another kill or an administrator's statement has taken it. -/
theorem kills_hit_own_statement {settings : Settings} (hs : settings.check = .ok ())
    (hc : Reachable settings.limits.workers settings.database.poolSize c) :
    (∀ e d, c.step e = some d → d.kills ≠ c.kills →
      ∃ u n m t, d.kills = c.kills ++ [⟨u, n, m⟩] ∧ n ≠ m ∧
        c.units[u]? = some (.abandoned n t) ∧ OnlyBy c u n ∧
        d.units[u]? = some (.killing n m t) ∧ OnlyBy d u n) ∧
    (∀ k ∈ c.kills, Leaving c k.unit k.target) ∧
    (∀ u n t d, c.units[u]? = some (.working n t) → c.step (.abandon u) = some d →
      ∀ es f, d.steps es = some f →
        Leaving f u n ∧ (f.units[u]? = some .ended → n ∉ f.opened) ∧
          (f.units[u]? = some .ended ∨ Ends f u)) ∧
    c.own.length ≤ settings.limits.workers ∧
    settings.limits.workers < settings.database.poolSize ∧
    (∀ u n t, c.units[u]? = some (.abandoned n t) → c.seconds = [] → c.borrowed = [] →
      ∃ supply m d, c.step (.kill u supply) = some d ∧ d.units[u]? = some (.killing n m t)) := by
  obtain ⟨hsound, hworkers, hcapacity⟩ := hc.sound
  have hless := workers_lt_poolSize hs
  refine ⟨fun e d hstep hkills => ?_, hc.kills, ?_, hworkers ▸ hsound.own_le_workers, hless, ?_⟩
  · have hd := happens_of_step hstep
    obtain ⟨u, n, m, t, hsent, hu, hu'⟩ := hd.kills hkills
    have hnodup := (hd.sound hsound).nodup_held hu'
    have hne : n ≠ m := by simpa [Stage.held, Stage.own?, Stage.second?] using hnodup
    exact ⟨u, n, m, t, hsent, hne, hu, (hsound.leaving hu rfl).onlyBy, hu',
      ((hd.sound hsound).leaving hu' rfl).onlyBy⟩
  · intro u n t d hu hstep es f hrun
    have hd := happens_of_step hstep
    have hu' : d.units[u]? = some (.abandoned n t) := by
      simp only [step, hu] at hstep
      obtain rfl := Option.some.inj hstep
      exact put_units c (List.getElem?_eq_some_iff.mp hu).1 _
    have hleaving := leaving_of_steps (hd.sound hsound) ((hd.sound hsound).leaving hu' rfl) hrun
    refine ⟨hleaving, hleaving.not_opened, ?_⟩
    obtain ⟨s, hs, hs' | rfl⟩ := hleaving.stage
    · exact Or.inr (ends_of_leaving hs hs')
    · exact Or.inl hs
  · intro u n t hu hseconds hborrowed
    obtain ⟨supply, m, b, hsupply⟩ :=
      hsound.exists_second (hworkers ▸ hcapacity ▸ hless) hseconds hborrowed
    exact ⟨supply, m, exists_kill hu hsupply⟩

/-- A unit whose caller left in its transaction, while another one works. -/
def abandonedAtWork : Connections where
  workers := 8
  capacity := 10
  accepted := 2
  units := [.abandoned 1 true, .working 2 false]

theorem kills_hit_own_statement_sample :
    Settings.check {} = .ok () ∧ Reachable 8 10 abandonedAtWork ∧
      ∃ supply m d, abandonedAtWork.step (.kill 0 supply) = some d ∧
        d.units[0]? = some (.killing 1 m true) := by
  have haccepted : Settings.check {} = .ok () := rfl
  have hrun : steps { workers := 8, capacity := 10 } [.arrive, .acquire 0 .fresh, .begun 0, .arrive,
      .acquire 1 .fresh, .abandon 0] = some abandonedAtWork := by decide
  have hreached : Reachable 8 10 abandonedAtWork := Reachable.start.steps hrun
  exact ⟨haccepted, hreached,
    (kills_hit_own_statement haccepted hreached).2.2.2.2.2 0 1 true rfl rfl rfl⟩

end Connections

end QueryGate.Server
