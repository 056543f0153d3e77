import QueryGate.Proofs.History.Race
import QueryGate.Proofs.History.Recovery

/-!
# Two openings of a sound file

The statements of a migration may be carried out twice, but for the last: who notes the version when
the other has noted it since the version was read is refused, and answers as to a damaged file. So
callers that share a sound file are fair to each other until one has noted the version that the
other has read before.

* `Site`: a place leads to a database in a file.
* `Fair`, `Clean`: what holds of callers that share a sound file, as long as nobody is refused.
* `Collided`: one caller has noted the version that the other has read before.

Results:
* `Clean.turn`: callers that do not overlap are never refused, and of two that do, one notes the
  version first.
* `Clean.run`, `Clean.finished`: callers that do not overlap get the file.
* `Clean.refused`: of callers that overlap, one gets the file and the other recovers.
-/

namespace QueryGate

open Opening

variable {place : HistoryPlace} {disk d : Disk Content} {k : Nat} {db : Relational.Database}
  {s t : Schema} {m : Migration} {o : Opening} {versions : List Int} {noted noted' : Bool}
  {who winner : Bool} {schedule : List Bool}

/-! ## The shared file -/

/-- The disk with this history in the file. -/
def Disk.withHistory (d : Disk Content) (k : Nat) (db : Relational.Database) (s : Schema) :
    Disk Content :=
  d.updateDatabase k { db with history := s }

/-- The place leads to a database in a file without a log, and its directory is there. -/
structure Site (place : HistoryPlace) (d : Disk Content) (k : Nat) (db : Relational.Database) :
    Prop where
  held : d.database? k = some db
  unlogged : d.Unlogged place.way
  leads : d.node place.way = .ok (.file k)
  prepared : ∀ e, Disk.Grows d e → step place e .preparing = (.connecting maxAttempts false, e)

namespace Site

variable (h : Site place d k db)

include h

theorem held_withHistory (s : Schema) :
    (d.withHistory k db s).database? k = some { db with history := s } :=
  Disk.database?_updateDatabase h.held

theorem leads_withHistory (s : Schema) : (d.withHistory k db s).node place.way = .ok (.file k) :=
  (Disk.node_updateDatabase ..).trans h.leads

theorem unlogged_withHistory (s : Schema) : (d.withHistory k db s).Unlogged place.way := h.unlogged

theorem prepared_withHistory (s : Schema) :
    step place (d.withHistory k db s) .preparing =
      (.connecting maxAttempts false, d.withHistory k db s) :=
  h.prepared _ ⟨id⟩

theorem openDatabase_withHistory (s : Schema) :
    (d.withHistory k db s).openDatabase place.way = (.ok k, d.withHistory k db s) :=
  Disk.openDatabase_of_database (h.unlogged_withHistory s) (h.leads_withHistory s)
    (h.held_withHistory s)

theorem withHistory_self : d.withHistory k db db.history = d :=
  Disk.updateDatabase_self h.held

/-- A statement of a migration changes the history in the file. -/
theorem step_migrating {result : Except MigrationError (Option Migration)}
    (hstep : m.step s = (t, result)) (recovered : Bool) :
    step place (d.withHistory k db s) (.migrating k m recovered) =
      (follow k recovered result, d.withHistory k db t) := by
  rw [Opening.step_migrating (h.held_withHistory s)]
  dsimp only
  rw [hstep, Disk.withHistory, Disk.withHistory, Disk.updateDatabase_updateDatabase]

end Site

/-! ## Fair callers -/

namespace Race

/-- How a caller stands to the disk when the history in the shared file is `s`: the file can be
opened, or it is open and the statements before the next one were carried out, or the version was
noted. -/
inductive Stands (place : HistoryPlace) (d : Disk Content) (k : Nat) (db : Relational.Database)
    (s : Schema) (noted : Bool) (disk : Disk Content) : Opening → Prop
  | preparing : Stands place d k db s noted disk .preparing
  | connecting (h : disk.openDatabase place.way = (.ok k, d.withHistory k db s)) :
      Stands place d k db s noted disk (.connecting maxAttempts false)
  | migrating (m : Migration) (h : disk = d.withHistory k db s) (hdue : s.Due m) :
      Stands place d k db s noted disk (.migrating k m false)
  | finished (h : disk = d.withHistory k db s) (hnoted : noted = true) :
      Stands place d k db s noted disk (.finished (.ok k))

/-- The callers share a sound file, and nobody was refused. -/
structure Fair (place : HistoryPlace) (d : Disk Content) (k : Nat) (db : Relational.Database)
    (versions : List Int) (s : Schema) (noted : Bool) (r : Race) : Prop where
  sound : s.Sound versions noted
  opens : ∃ d₁, step place r.disk .preparing = (.connecting maxAttempts false, d₁) ∧
    step place d₁ .preparing = (.connecting maxAttempts false, d₁) ∧
    d₁.openDatabase place.way = (.ok k, d.withHistory k db s)
  stands : ∀ who, Stands place d k db s noted r.disk (r.caller who)

/-- The callers are fair, and who has read the version may note it. -/
structure Clean (place : HistoryPlace) (d : Disk Content) (k : Nat) (db : Relational.Database)
    (versions : List Int) (s : Schema) (noted : Bool) (r : Race) : Prop
    extends Fair place d k db versions s noted r where
  clean : noted = true → ∀ who, ¬ (r.caller who).HasRead

variable {r : Race}

/-- A caller stands to the file as before when the other gets ahead. -/
theorem Stands.ahead (hsite : Site place d k db) (h : Stands place d k db s noted disk o)
    (ha : s.Ahead t) (hnoted : noted = true → noted' = true) :
    Stands place d k db t noted' (d.withHistory k db t) o := by
  cases h with
  | preparing => exact .preparing
  | connecting h => exact .connecting (hsite.openDatabase_withHistory t)
  | migrating m h hdue => exact .migrating m rfl (hdue.ahead ha)
  | finished h hn => exact .finished rfl (hnoted hn)

/-- The callers are fair after a step that got one of them ahead. -/
theorem Fair.ahead (hsite : Site place d k db) (h : Fair place d k db versions s noted r)
    (hsound : t.Sound versions noted') (ha : s.Ahead t) (hnoted : noted = true → noted' = true)
    (hstep : (r.caller who).step place r.disk = (o, d.withHistory k db t))
    (ho : Stands place d k db t noted' (d.withHistory k db t) o) :
    Fair place d k db versions t noted' (r.turn place who) := by
  have hdisk : (r.turn place who).disk = d.withHistory k db t := congrArg Prod.snd hstep
  refine ⟨hsound, ?_, fun other => ?_⟩
  · rw [hdisk]
    exact ⟨_, hsite.prepared_withHistory t, hsite.prepared_withHistory t,
      hsite.openDatabase_withHistory t⟩
  · rw [hdisk]
    by_cases hsame : other = who
    · rw [hsame, caller_turn, hstep]
      exact ho
    · rw [caller_turn_other hsame]
      exact (h.stands other).ahead hsite ha hnoted

/-- The callers are fair after one of them made the directory. -/
theorem Fair.turn_preparing (hsite : Site place d k db) (h : Fair place d k db versions s noted r)
    (hwho : r.caller who = .preparing) :
    Fair place d k db versions s noted (r.turn place who) ∧
      (r.turn place who).caller who = .connecting maxAttempts false := by
  obtain ⟨d₁, hprep, hagain, hopen⟩ := h.opens
  have hstep : (r.caller who).step place r.disk = (.connecting maxAttempts false, d₁) := by
    rw [hwho, hprep]
  have hdisk : (r.turn place who).disk = d₁ := congrArg Prod.snd hstep
  have hcaller : (r.turn place who).caller who = .connecting maxAttempts false := by
    rw [caller_turn, hstep]
  have hkeeps (hopened : r.disk = d.withHistory k db s) : d₁ = d.withHistory k db s := by
    rw [hopened, hsite.prepared_withHistory s] at hprep
    exact (congrArg Prod.snd hprep).symm
  refine ⟨⟨h.sound, ?_, fun other => ?_⟩, hcaller⟩
  · rw [hdisk]
    exact ⟨d₁, hagain, hagain, hopen⟩
  · rw [hdisk]
    by_cases hsame : other = who
    · rw [hsame, hcaller]
      exact .connecting hopen
    · rw [caller_turn_other hsame]
      have hother := h.stands other
      generalize r.caller other = o at hother ⊢
      cases hother with
      | preparing => exact .preparing
      | connecting => exact .connecting hopen
      | migrating m hopened hdue => exact .migrating m (hkeeps hopened) hdue
      | finished hopened hnoted => exact .finished (hkeeps hopened) hnoted

/-- One caller has noted the version that the other has read before. -/
def Collided (place : HistoryPlace) (d : Disk Content) (k : Nat) (db : Relational.Database)
    (versions : List Int) (winner : Bool) (r : Race) : Prop :=
  ∃ s, Fair place d k db versions s true r ∧ r.caller winner = .finished (.ok k) ∧
    (r.caller !winner).HasRead

theorem not_hasRead_turn (hnew : ¬ ((r.turn place who).caller who).HasRead)
    (hothers : ∀ other, ¬ (r.caller other).HasRead) (other : Bool) :
    ¬ ((r.turn place who).caller other).HasRead := by
  by_cases hsame : other = who
  · rwa [hsame]
  · rw [caller_turn_other hsame]
    exact hothers other

/-- **What a step does to callers of which nobody was refused**: they stay so, or it is the first to
note the version of two that have read it. -/
theorem Clean.turn (hsite : Site place d k db)
    (h : ∃ s noted, Clean place d k db versions s noted r) (who : Bool) :
    ((∃ s noted, Clean place d k db versions s noted (r.turn place who)) ∧
      (r.Both → (r.turn place who).Both)) ∨
    r.Both ∧ Collided place d k db versions who (r.turn place who) := by
  obtain ⟨s, noted, h⟩ := h
  have hwho := h.stands who
  generalize ho : r.caller who = o at hwho
  have hquiet (hread : ¬ o.HasRead) : r.Both → (r.turn place who).Both :=
    fun hboth => absurd (ho ▸ hboth who) hread
  cases hwho with
  | preparing =>
    obtain ⟨hfair, hcaller⟩ := h.turn_preparing hsite ho
    refine .inl ⟨⟨s, noted, hfair, fun hn => ?_⟩, hquiet id⟩
    exact not_hasRead_turn (by simp [hcaller, HasRead]) (h.clean hn)
  | connecting hopen =>
    have hstep : (r.caller who).step place r.disk =
        (.migrating k .makeVersions false, d.withHistory k db s) := by
      rw [ho, step_connecting_ok hopen]
    have hfair := h.toFair.ahead hsite h.sound (.refl s) id hstep (.migrating _ rfl trivial)
    refine .inl ⟨⟨s, noted, hfair, fun hn => not_hasRead_turn ?_ (h.clean hn)⟩, hquiet id⟩
    simp [caller_turn, hstep, HasRead, Migration.hasRead]
  | migrating m hdisk hdue =>
    obtain ⟨t, result, noted', hstatement, hsound, ha, hcourse, hdue'⟩ := h.sound.step hdue
    have hstep : (r.caller who).step place r.disk =
        (follow k false result, d.withHistory k db t) := by
      rw [ho, hdisk, hsite.step_migrating hstatement]
    cases hcourse with
    | next next hread hnoted =>
      have hfair := h.toFair.ahead hsite hsound ha id hstep (.migrating next rfl (hdue' next rfl))
      have hnew : ((r.turn place who).caller who).HasRead ↔ next.hasRead = true := by
        rw [caller_turn, hstep]
        rfl
      refine .inl ⟨⟨t, noted, hfair, fun hn => not_hasRead_turn ?_ (h.clean hn)⟩,
        fun hboth other => ?_⟩
      · rw [hnew, hread]
        rintro (hbefore | hm)
        · exact h.clean hn who (by rw [ho]; exact hbefore)
        · simp [hnoted hm] at hn
      · by_cases hsame : other = who
        · have hbefore := hboth who
          rw [ho] at hbefore
          rw [hsame, hnew, hread]
          exact .inl hbefore
        · rw [caller_turn_other hsame]
          exact hboth other
    | found hm hnoted =>
      have hfair := h.toFair.ahead hsite hsound ha (fun _ => rfl) hstep (.finished rfl rfl)
      refine .inl ⟨⟨t, true, hfair, fun _ => not_hasRead_turn ?_ (h.clean hnoted)⟩, hquiet ?_⟩
      · simp [caller_turn, hstep, follow, HasRead]
      · simp [hm, HasRead, Migration.hasRead]
    | note hm hnoted =>
      have hfair := h.toFair.ahead hsite hsound ha (fun _ => rfl) hstep (.finished rfl rfl)
      have hcaller : (r.turn place who).caller who = .finished (.ok k) := by
        rw [caller_turn, hstep]
        rfl
      have hread : (r.caller who).HasRead := by rw [ho, hm]; rfl
      by_cases hother : (r.caller !who).HasRead
      · refine .inr ⟨fun other => ?_, t, hfair, hcaller, ?_⟩
        · by_cases hsame : other = who
          · rwa [hsame]
          · rwa [Bool.eq_not_of_ne hsame]
        · rwa [caller_turn_other (by simp)]
      · refine .inl ⟨⟨t, true, hfair, fun _ other => ?_⟩, fun hboth => absurd (hboth _) hother⟩
        by_cases hsame : other = who
        · rw [hsame, hcaller]
          exact id
        · rwa [caller_turn_other hsame, Bool.eq_not_of_ne hsame]
    | refused err hm hnoted =>
      exact absurd (by rw [ho, hm]; rfl) (h.clean hnoted who)
  | finished hdisk hnoted =>
    rw [turn_finished ho]
    exact .inl ⟨⟨s, noted, h⟩, id⟩

/-- Callers that do not overlap are never refused. -/
theorem Clean.run (hsite : Site place d k db)
    (h : ∃ s noted, Clean place d k db versions s noted r) (hno : ¬ r.Overlap place schedule) :
    ∃ s noted, Clean place d k db versions s noted (r.run place schedule) := by
  induction schedule generalizing r with
  | nil => exact h
  | cons who schedule ih =>
    rw [overlap_cons, not_or] at hno
    rcases Clean.turn hsite h who with ⟨hclean, -⟩ | ⟨hboth, -⟩
    · exact ih hclean hno.2
    · exact absurd hboth hno.1

/-- Callers of which nobody was refused get the file, and the version is noted. -/
theorem Clean.finished (h : Clean place d k db versions s noted r)
    (hdone : ∀ who, ∃ result, r.caller who = .finished result) :
    (∀ who, r.caller who = .finished (.ok k)) ∧ r.disk = d.withHistory k db s ∧
      s.Sound versions true := by
  have hgot (who : Bool) : r.caller who = .finished (.ok k) ∧ r.disk = d.withHistory k db s ∧
      noted = true := by
    obtain ⟨result, hresult⟩ := hdone who
    have hwho := h.stands who
    rw [hresult] at hwho ⊢
    cases hwho with
    | finished hdisk hnoted => exact ⟨rfl, hdisk, hnoted⟩
  obtain ⟨-, hdisk, rfl⟩ := hgot true
  exact ⟨fun who => (hgot who).1, hdisk, h.sound⟩

/-- Callers that overlap are on their way to note the version, or one has noted it before the
other. -/
theorem Clean.run_overlap (hsite : Site place d k db)
    (h : ∃ s noted, Clean place d k db versions s noted r) (hoverlap : r.Overlap place schedule) :
    (r.run place schedule).Both ∨ ∃ before after winner, schedule = before ++ after ∧
      Collided place d k db versions winner (r.run place before) := by
  induction schedule generalizing r with
  | nil =>
    obtain ⟨n, hboth⟩ := hoverlap
    rw [List.take_nil] at hboth
    exact .inl hboth
  | cons who schedule ih =>
    rcases Clean.turn hsite h who with ⟨hclean, hkeeps⟩ | ⟨-, hcollided⟩
    · have hlater : (r.turn place who).Overlap place schedule :=
        (overlap_cons.mp hoverlap).elim (fun hboth => ⟨0, hkeeps hboth⟩) id
      refine (ih hclean hlater).imp id ?_
      rintro ⟨before, after, winner, rfl, hcollided⟩
      exact ⟨who :: before, after, winner, rfl, hcollided⟩
    · exact .inr ⟨[who], schedule, who, rfl, hcollided⟩

/-- **Who is refused recovers**: the file is moved aside although it is sound, unless a directory
stands at the backup name. -/
theorem Collided.completion (hsite : Site place d k db)
    (h : Collided place d k db versions winner r) :
    ∃ t, t.Sound versions true ∧
      Opening.completion place (r.caller !winner) r.disk =
        Opening.completion place .recovering (d.withHistory k db t) := by
  obtain ⟨s, hfair, -, hread⟩ := h
  have hstands := hfair.stands !winner
  generalize (r.caller !winner) = o at hstands hread ⊢
  cases hstands with
  | migrating m hdisk hdue =>
    obtain ⟨t, hsound, hrun⟩ := hfair.sound.run hdue
    rw [if_pos ⟨rfl, hread⟩] at hrun
    obtain ⟨err, hrun⟩ := hrun
    refine ⟨t, hsound, ?_⟩
    rw [hdisk, completion_migrating (hsite.held_withHistory s)]
    dsimp only
    rw [hrun, Disk.withHistory, Disk.withHistory, Disk.updateDatabase_updateDatabase]
    rfl
  | _ => exact absurd hread id

/-- Of callers that overlap, one gets the file and the other recovers. -/
theorem Clean.refused (hsite : Site place d k db)
    (h : ∃ s noted, Clean place d k db versions s noted r) (hoverlap : r.Overlap place schedule)
    (hdone : ∀ who, ∃ result, (r.run place schedule).caller who = .finished result) :
    ∃ winner result t, (r.run place schedule).caller winner = .finished (.ok k) ∧
      (r.run place schedule).caller (!winner) = .finished result ∧
      Opening.completion place .recovering (d.withHistory k db t) =
        (result, (r.run place schedule).disk) := by
  rcases Clean.run_overlap hsite h hoverlap with hboth | ⟨before, after, winner, rfl, hcollided⟩
  · obtain ⟨result, hresult⟩ := hdone true
    have hread := hboth true
    rw [hresult] at hread
    exact absurd hread id
  · have hsplit : r.run place (before ++ after) = (r.run place before).run place after :=
      List.foldl_append ..
    rw [hsplit] at hdone ⊢
    obtain ⟨result, hresult⟩ := hdone !winner
    obtain ⟨t, -, hrecovers⟩ := hcollided.completion hsite
    obtain ⟨-, -, hwon, -⟩ := hcollided
    obtain ⟨hwins, hend⟩ := completion_run hwon after
    rw [hresult, completion_finished, hrecovers] at hend
    exact ⟨winner, result, t, hwins, hresult, hend.symm⟩

end Race

end QueryGate
