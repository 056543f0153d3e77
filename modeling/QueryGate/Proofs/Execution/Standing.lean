import QueryGate.Proofs.Execution.Events

/-!
# How a unit stands

What a unit sent to the database, whether it has a reply and how its caller left depend on each
other at every time, whatever the order of events.

* `Standing script sent u`: how the unit `u`, which sent the texts `sent`, stands.

Headline: **`stands_of_steps`**: every unit of a run stands like that.
-/

namespace QueryGate

/-- How the unit `u` stands, which sent the texts `sent` to the database. -/
structure Standing (script : Script) (sent : List Sql) (u : WorkUnit) : Prop where
  own : sent = [] ∨ sent = [u.request.sql]
  unsent : u.phase = .queued ∨ u.phase = .ready → sent = []
  reached : u.phase = .waiting ∨ u.phase = .cleaning → sent = [u.request.sql]
  done : u.phase = .finished ↔ u.reply?.isSome
  replied : ∀ reply, u.reply? = some reply → u.ending? ≠ some .timedOut →
    reply = script.reply u.request.sql ∧ sent = [u.request.sql]
  answered : ∀ reply, u.ending? = some (.answered reply) → u.reply? = some reply
  left : u.phase = .cleaning → u.ending? = some .timedOut

variable {script : Script} {f g : Floor} {e : FloorEvent} {i : Nat} {u u' : WorkUnit}
  {sent texts : List Sql}

theorem standing_of_arrival (script : Script) (request : Request) :
    Standing script [] { request } where
  own := Or.inl rfl
  unsent _ := rfl
  reached h := absurd h (by simp)
  done := by simp
  replied _ h := absurd h (by simp)
  answered _ h := absurd h (by simp)
  left h := absurd h (by simp)

/-- **No event of a unit upsets how it stands.** -/
theorem Moves.standing (h : Moves script i u e u' texts) (hs : Standing script sent u) :
    Standing script (sent ++ texts) u' := by
  obtain ⟨hown, hunsent, hreached, hdone, hreplied, hanswered, hleft⟩ := hs
  cases h with
  | take hq => constructor <;> grind
  | refuse hready hleft => constructor <;> grind [WorkUnit.finished]
  | reply hready hhere hquick => constructor <;> grind [WorkUnit.finished]
  | wait hready hhere hslow => constructor <;> grind
  | answer hw hhere => constructor <;> grind [WorkUnit.finished]
  | notice hw hl => constructor <;> grind
  | release hc => constructor <;> grind [WorkUnit.finished]
  | collect hnone hreply => constructor <;> grind
  | expire hnone => constructor <;> grind

/-- How the place `i` of a floor stands. Where no unit has arrived nothing was sent. -/
def StandsAt (script : Script) (f : Floor) (i : Nat) : Prop :=
  f.units[i]?.elim (f.sent i = []) (Standing script (f.sent i))

/-- How all units of a floor stand. -/
def Stands (script : Script) (f : Floor) : Prop := ∀ i, StandsAt script f i

theorem Stands.unit (h : Stands script f) (hu : f.units[i]? = some u) :
    Standing script (f.sent i) u := by
  have hi := h i
  rwa [StandsAt, hu] at hi

theorem stands_ofSize (script : Script) (n : Nat) : Stands script (.ofSize n) := fun _ => rfl

theorem Happens.stands (h : Happens script f e g) (hs : Stands script f) : Stands script g := by
  intro i
  rcases h.place i with ⟨u, u', texts, hon, hu', hsent⟩ | ⟨-, hsent, hsame | ⟨hi, request, hnew⟩⟩
  · rw [StandsAt, hu', hsent]
    exact hon.moves.standing (hs.unit hon.unit)
  · rw [StandsAt, hsame, hsent]
    exact hs i
  · have hempty := hs i
    rw [StandsAt, List.getElem?_eq_none (Nat.le_of_eq hi.symm)] at hempty
    rw [StandsAt, hnew, hsent, show f.sent i = [] from hempty]
    exact standing_of_arrival script request

/-- **Every unit of a run stands**, whatever the order of events. -/
theorem stands_of_steps {n : Nat} {es : List FloorEvent}
    (hrun : (Floor.ofSize n).steps script es = some f) : Stands script f :=
  run_induction (P := fun _ f => Stands script f) (stands_ofSize script n)
    (fun _ hstep hs => (happens_of_step hstep).stands hs) hrun

/-! ## What stays -/

/-- A unit that has not begun or waits for the database has no answered caller. -/
theorem Standing.ending_of_ready (hs : Standing script sent u) (hready : u.phase = .ready)
    {ending : Ending} (hleft : u.ending? = some ending) : ending = .timedOut := by
  cases ending with
  | timedOut => rfl
  | answered reply =>
    have hdone := hs.done.mpr (by rw [hs.answered reply hleft]; rfl)
    rw [hready] at hdone
    exact absurd hdone (by simp)

/-- A caller leaves once. -/
theorem Moves.ending (h : Moves script i u e u' texts) {ending : Ending}
    (hleft : u.ending? = some ending) : u'.ending? = some ending := by
  cases h with
  | collect hnone _ => exact absurd (hnone.symm.trans hleft) (by simp)
  | expire hnone => exact absurd (hnone.symm.trans hleft) (by simp)
  | take | refuse | reply | wait | answer | notice | release => exact hleft

/-- **Once its caller has left, a unit sends nothing.** -/
theorem Moves.texts_of_left (h : Moves script i u e u' texts) (hs : Standing script sent u)
    {ending : Ending} (hleft : u.ending? = some ending) : texts = [] := by
  cases h with
  | reply hready hhere _ =>
    exact absurd (hs.ending_of_ready hready hleft ▸ hleft) hhere
  | wait hready hhere _ =>
    exact absurd (hs.ending_of_ready hready hleft ▸ hleft) hhere
  | take | refuse | answer | notice | release | collect | expire => rfl

/-- A caller that has left stays away through a run, and its unit sends nothing in it. -/
theorem left_of_steps (hs : Stands script f) (hu : f.units[i]? = some u) {ending : Ending}
    (hleft : u.ending? = some ending) {es : List FloorEvent} (hrun : f.steps script es = some g) :
    Stands script g ∧ ∃ v, g.units[i]? = some v ∧ v.ending? = some ending ∧
      g.sent i = f.sent i := by
  refine run_induction (P := fun _ g => Stands script g ∧ ∃ v, g.units[i]? = some v ∧
    v.ending? = some ending ∧ g.sent i = f.sent i) ⟨hs, u, hu, hleft, rfl⟩ ?_ hrun
  rintro es g e h - hstep ⟨hs, v, hv, hleft, hsent⟩
  have hhappens := happens_of_step hstep
  refine ⟨hhappens.stands hs, ?_⟩
  rcases hhappens.unit hv with ⟨-, hv', hsame⟩ | ⟨v', texts, hmoves, hv', hmore⟩
  · exact ⟨v, hv', hleft, hsame.trans hsent⟩
  · obtain rfl := hmoves.texts_of_left (hs.unit hv) hleft
    exact ⟨v', hv', hmoves.ending hleft, by rw [hmore, List.append_nil, hsent]⟩

end QueryGate
