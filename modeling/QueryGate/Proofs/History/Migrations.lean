import Mathlib.Data.List.MinMax
import QueryGate.History.Schema

/-!
# Migrations whose statements others come between

A file at version zero is sound if nothing in it stands in the way of the migration, else it is
blocked. On a sound file every statement but the last can be carried out again, by the same or by
another program; the last one notes the version, and is refused when another has noted it since
this one read the version.

* `AtZero s`, `Sound versions noted s`, `Blocked s`: the files at version zero.
* `Due s m`: the statements before `m` were carried out, by whomever.
* `Course noted m result noted'`: what a statement on a sound file leads to.

Results:
* `Sound.step`, `Blocked.step`: a statement leaves a file sound, or blocked.
* `Sound.run`, `Blocked.run`: whether a migration succeeds from a statement on.
* `sound_or_blocked`, `migrate_ok_iff`: a file at version zero is one of the two, and only sound
  files can be migrated.
-/

namespace QueryGate

variable {s t : Schema} {m next : Migration} {versions : List Int} {noted : Bool}

namespace Migration

/-! ## Runs -/

theorem run_next (h : m.step s = (t, .ok (some next))) : m.run s = next.run t := by
  rw [run]
  split <;> simp_all

theorem run_last (h : m.step s = (t, .ok none)) : m.run s = (t, .ok ()) := by
  rw [run]
  split <;> simp_all

theorem run_refused {err : MigrationError} (h : m.step s = (t, .error err)) :
    m.run s = (t, .error err) := by
  rw [run]
  split <;> simp_all

/-- An empty file is brought to the supported version. -/
theorem migrate_empty : Schema.migrate {} = (⟨.table (some [1]), .table {}, true⟩, .ok ()) := by
  rw [Schema.migrate, run_next rfl, run_next rfl, run_next rfl, run_next rfl, run_last rfl]
  rfl

/-- The version was read before this statement. -/
def hasRead : Migration → Bool
  | .makeVersions => false
  | .readVersion => false
  | .makeLog => true
  | .makeIndex => true
  | .noteVersion => true

/-! ## The highest version -/

theorem le_highest {v : Int} (h : v ∈ versions) : v ≤ highest versions := by
  unfold highest
  cases hmax : versions.max? with
  | none => simp [List.max?_eq_none_iff.mp hmax] at h
  | some w => exact (List.max?_eq_some_iff.mp hmax).2 v h

theorem highest_concat (h : highest versions = 0) :
    highest (versions ++ [supportedVersion]) = supportedVersion := by
  have hmax : (versions ++ [supportedVersion]).max? = some supportedVersion := by
    refine List.max?_eq_some_iff.mpr ⟨by simp, fun v hv => ?_⟩
    rcases List.mem_append.mp hv with hv | hv
    · exact ((le_highest hv).trans h.le).trans (by decide)
    · exact (List.mem_singleton.mp hv).le
  rw [highest, hmax]
  rfl

theorem supported_notMem (h : highest versions = 0) : supportedVersion ∉ versions :=
  fun hmem => absurd ((le_highest hmem).trans h.le) (by decide)

theorem afterVersion_zero : afterVersion 0 = .ok (some .makeLog) := by decide

theorem afterVersion_supported : afterVersion supportedVersion = .ok none := by decide

end Migration

namespace Schema

open Migration

/-! ## Files at version zero -/

/-- The version of the file is zero: none was noted, or zero is the highest. -/
def AtZero (s : Schema) : Prop :=
  s.versions = .absent ∨ ∃ versions, highest versions = 0 ∧
    (s.versions = .table (some versions) ∨ s.versions = .view (some versions))

/-- Nothing stands in the way of the migration from version zero. The file had these versions, and
the supported one was noted since, or not. -/
structure Sound (versions : List Int) (noted : Bool) (s : Schema) : Prop where
  zero : highest versions = 0
  versions : s.versions = .absent ∧ versions = [] ∧ noted = false ∨
    s.versions = .table (some (if noted then versions ++ [supportedVersion] else versions))
  log : s.log = .absent ∨ (∃ log, s.log = .table log) ∨ s.log = .foreign ∧ s.indexed = true

/-- The statements before this one were carried out. -/
def Due (s : Schema) : Migration → Prop
  | .makeVersions => True
  | .makeIndex => s.versions ≠ .absent ∧ s.log ≠ .absent
  | _ => s.versions ≠ .absent

/-- What was there is there still. -/
structure Ahead (s t : Schema) : Prop where
  versions : s.versions ≠ .absent → t.versions ≠ .absent
  log : s.log ≠ .absent → t.log ≠ .absent

theorem Due.ahead (h : Due s m) (ha : Ahead s t) : Due t m := by
  cases m with
  | makeVersions => trivial
  | readVersion => exact ha.versions h
  | makeLog => exact ha.versions h
  | makeIndex => exact ⟨ha.versions h.1, ha.log h.2⟩
  | noteVersion => exact ha.versions h

/-- What a statement on a sound file leads to: the next one, or the end because the version was
found or noted, or a refusal because it was noted before. -/
inductive Course (noted : Bool) (m : Migration) :
    Except MigrationError (Option Migration) → Bool → Prop
  | next (next : Migration) (hread : next.hasRead = true ↔ m.hasRead = true ∨ m = .readVersion)
      (hnoted : m = .readVersion → noted = false) : Course noted m (.ok (some next)) noted
  | found (hm : m = .readVersion) (hnoted : noted = true) : Course noted m (.ok none) true
  | note (hm : m = .noteVersion) (hnoted : noted = false) : Course noted m (.ok none) true
  | refused (err : MigrationError) (hm : m = .noteVersion) (hnoted : noted = true) :
      Course noted m (.error err) true

theorem Ahead.refl (s : Schema) : Ahead s s := ⟨id, id⟩

/-- **A statement leaves a sound file sound.** -/
theorem Sound.step (h : Sound versions noted s) (hdue : Due s m) :
    ∃ t result noted', m.step s = (t, result) ∧ Sound versions noted' t ∧ Ahead s t ∧
      Course noted m result noted' ∧ ∀ next, result = .ok (some next) → Due t next := by
  have hthere (hv : s.versions ≠ .absent) : s.versions =
      .table (some (if noted then versions ++ [supportedVersion] else versions)) :=
    h.versions.resolve_left fun habsent => hv habsent.1
  cases m with
  | makeVersions =>
    rcases h.versions with ⟨habsent, rfl, rfl⟩ | htable
    · refine ⟨{ s with versions := .table (some []) }, .ok (some .readVersion), false,
        by rw [Migration.step, habsent], ⟨h.zero, .inr rfl, h.log⟩, ⟨fun _ => by simp, id⟩,
        .next .readVersion (by simp [hasRead]) (by simp), ?_⟩
      rintro next ⟨⟩
      simp [Due]
    · refine ⟨s, .ok (some .readVersion), noted, by rw [Migration.step, htable], h, .refl s,
        .next .readVersion (by simp [hasRead]) (by simp), ?_⟩
      rintro next ⟨⟩
      simp [Due, htable]
  | readVersion =>
    have htable := hthere hdue
    cases noted with
    | true =>
      have hafter : afterVersion (highest (versions ++ [supportedVersion])) = .ok none := by
        rw [highest_concat h.zero, afterVersion_supported]
      refine ⟨s, .ok none, true, ?_, h, .refl s, .found rfl rfl, by simp⟩
      rw [Migration.step, htable, if_pos rfl]
      exact congrArg (s, ·) hafter
    | false =>
      refine ⟨s, .ok (some .makeLog), false, ?_, h, .refl s,
        .next .makeLog (by simp [hasRead]) (by simp), ?_⟩
      · rw [Migration.step, htable, if_neg (by simp)]
        exact congrArg (s, ·) (h.zero ▸ afterVersion_zero)
      · rintro next ⟨⟩
        exact hdue
  | makeLog =>
    have hcourse : Course noted .makeLog (.ok (some .makeIndex)) noted :=
      .next .makeIndex (by simp [hasRead]) (by simp)
    rcases h.log with habsent | ⟨log, htable⟩ | ⟨hforeign, hindexed⟩
    · refine ⟨{ s with log := .table {} }, _, noted, by rw [Migration.step, habsent],
        ⟨h.zero, h.versions, .inr (.inl ⟨_, rfl⟩)⟩, ⟨id, fun _ => by simp⟩, hcourse, ?_⟩
      rintro next ⟨⟩
      exact ⟨hdue, by simp⟩
    · refine ⟨s, _, noted, by rw [Migration.step, htable], h, .refl s, hcourse, ?_⟩
      rintro next ⟨⟩
      exact ⟨hdue, by simp [htable]⟩
    · refine ⟨s, _, noted, by rw [Migration.step, hforeign], h, .refl s, hcourse, ?_⟩
      rintro next ⟨⟩
      exact ⟨hdue, by simp [hforeign]⟩
  | makeIndex =>
    have hcourse : Course noted .makeIndex (.ok (some .noteVersion)) noted :=
      .next .noteVersion (by simp [hasRead]) (by simp)
    by_cases hindexed : s.indexed = true
    · refine ⟨s, _, noted, by rw [Migration.step, if_pos hindexed], h, .refl s, hcourse, ?_⟩
      rintro next ⟨⟩
      exact hdue.1
    · obtain ⟨log, htable⟩ : ∃ log, s.log = .table log := by
        rcases h.log with habsent | htable | hforeign
        · exact absurd habsent hdue.2
        · exact htable
        · exact absurd hforeign.2 hindexed
      refine ⟨{ s with indexed := true }, _, noted,
        by rw [Migration.step, if_neg hindexed, htable],
        ⟨h.zero, h.versions, .inr (.inl ⟨log, htable⟩)⟩, ⟨id, id⟩, hcourse, ?_⟩
      rintro next ⟨⟩
      exact hdue.1
  | noteVersion =>
    have htable := hthere hdue
    cases noted with
    | true =>
      have hrefused : Migration.noteVersion.step s = (s, .error (.refused "record migration"
          "UNIQUE constraint failed: schema_versions.version")) := by
        rw [Migration.step, htable, if_pos rfl]
        exact if_pos (by simp)
      exact ⟨s, _, true, hrefused, h, .refl s, .refused _ rfl rfl, by simp⟩
    | false =>
      rw [if_neg (by simp)] at htable
      refine ⟨{ s with versions := .table (some (versions ++ [supportedVersion])) }, .ok none, true,
        ?_, ⟨h.zero, .inr rfl, h.log⟩, ⟨fun _ => by simp, id⟩, .note rfl rfl, by simp⟩
      rw [Migration.step, htable]
      exact if_neg (by simpa using supported_notMem h.zero)

/-- The supported version is noted once. -/
theorem Sound.noted_once (h : Sound versions true s) :
    ∃ noted, s.versions = .table (some noted) ∧ noted.count supportedVersion = 1 := by
  refine ⟨versions ++ [supportedVersion], h.versions.resolve_left (by simp), ?_⟩
  rw [List.count_append, List.count_eq_zero_of_not_mem (supported_notMem h.zero),
    List.count_singleton_self, Nat.zero_add]

/-- **Whether a migration of a sound file succeeds**: unless the version was noted since it was
read. -/
theorem Sound.run (h : Sound versions noted s) (hdue : Due s m) :
    ∃ t, Sound versions true t ∧
      if noted = true ∧ m.hasRead = true then ∃ err, m.run s = (t, .error err)
      else m.run s = (t, .ok ()) := by
  induction s, m using Migration.run.induct generalizing noted with
  | case1 s m t next hstep ih =>
    obtain ⟨_, _, noted', hstep', hsound, -, hcourse, hnext⟩ := h.step hdue
    obtain ⟨rfl, rfl⟩ := Prod.mk.inj (hstep.symm.trans hstep')
    cases hcourse with
    | next next hread hnoted =>
      obtain ⟨u, hu, hrun⟩ := ih hsound (hnext next rfl)
      refine ⟨u, hu, ?_⟩
      have hsame : (noted = true ∧ m.hasRead = true) ↔ (noted = true ∧ next.hasRead = true) := by
        refine and_congr_right fun hn => ?_
        rw [hread]
        exact ⟨.inl, fun hor => hor.resolve_right fun hm => by simp [hnoted hm] at hn⟩
      rw [run_next hstep, if_congr hsame rfl rfl]
      exact hrun
  | case2 s m t hstep =>
    obtain ⟨_, _, noted', hstep', hsound, -, hcourse, -⟩ := h.step hdue
    obtain ⟨rfl, rfl⟩ := Prod.mk.inj (hstep.symm.trans hstep')
    cases hcourse with
    | found hm hnoted => exact ⟨t, hsound, by simp [hm, hasRead, run_last (hm ▸ hstep)]⟩
    | note hm hnoted => exact ⟨t, hsound, by simp [hnoted, run_last hstep]⟩
  | case3 s m t err hstep =>
    obtain ⟨_, _, noted', hstep', hsound, -, hcourse, -⟩ := h.step hdue
    obtain ⟨rfl, rfl⟩ := Prod.mk.inj (hstep.symm.trans hstep')
    cases hcourse with
    | refused err hm hnoted =>
      exact ⟨t, hsound, by simp [hm, hnoted, hasRead, run_refused (hm ▸ hstep)]⟩

/-! ## Blocked files -/

/-- Something in a file at version zero stands in the way of the migration. -/
structure Blocked (s : Schema) : Prop where
  zero : s.AtZero
  reason : (∃ versions?, s.versions = .view versions?) ∨ s.log = .index ∨
    s.log = .foreign ∧ s.indexed = false

/-- A statement that a migration of a blocked file may get to. -/
def Open (s : Schema) : Migration → Prop
  | .makeIndex => s.log ≠ .index
  | .noteVersion => ∃ versions?, s.versions = .view versions?
  | _ => True

/-- **A statement leaves a blocked file blocked**, and does not end the migration well. -/
theorem Blocked.step (h : Blocked s) (hopen : Open s m) :
    ∃ t result, m.step s = (t, result) ∧ Blocked t ∧ result ≠ .ok none ∧
      (∀ m', Open s m' → Open t m') ∧ ∀ next, result = .ok (some next) → Open t next := by
  cases m with
  | makeVersions =>
    rcases h.zero with habsent | ⟨versions, hzero, htable | hview⟩
    · refine ⟨{ s with versions := .table (some []) }, .ok (some .readVersion),
        by rw [Migration.step, habsent], ⟨.inr ⟨[], rfl, .inl rfl⟩, .inr ?_⟩, by simp, ?_, ?_⟩
      · refine h.reason.resolve_left ?_
        rintro ⟨_, hview⟩
        simp [habsent] at hview
      · intro m' hm
        cases m' with
        | noteVersion => exact absurd hm (by simp [Open, habsent])
        | _ => exact hm
      · rintro next ⟨⟩
        trivial
    · exact ⟨s, _, by rw [Migration.step, htable], h, by simp, fun _ => id, by simp [Open]⟩
    · exact ⟨s, _, by rw [Migration.step, hview], h, by simp, fun _ => id, by simp [Open]⟩
  | readVersion =>
    rcases h.zero with habsent | ⟨versions, hzero, htable | hview⟩
    · exact ⟨s, _, by rw [Migration.step, habsent], h, by simp, fun _ => id, by simp⟩
    · refine ⟨s, .ok (some .makeLog), ?_, h, by simp, fun _ => id, by simp [Open]⟩
      rw [Migration.step, htable]
      exact congrArg (s, ·) (hzero ▸ afterVersion_zero)
    · refine ⟨s, .ok (some .makeLog), ?_, h, by simp, fun _ => id, by simp [Open]⟩
      rw [Migration.step, hview]
      exact congrArg (s, ·) (hzero ▸ afterVersion_zero)
  | makeLog =>
    cases hlog : s.log with
    | absent =>
      refine ⟨{ s with log := .table {} }, .ok (some .makeIndex), by rw [Migration.step, hlog],
        ⟨h.zero, ?_⟩, by simp, ?_, ?_⟩
      · exact .inl (h.reason.resolve_right (by simp [hlog]))
      · intro m' hm
        cases m' with
        | makeIndex => simp [Open]
        | _ => exact hm
      · rintro next ⟨⟩
        simp [Open]
    | table log =>
      exact ⟨s, _, by rw [Migration.step, hlog], h, by simp, fun _ => id, by simp [Open, hlog]⟩
    | foreign =>
      exact ⟨s, _, by rw [Migration.step, hlog], h, by simp, fun _ => id, by simp [Open, hlog]⟩
    | index => exact ⟨s, _, by rw [Migration.step, hlog], h, by simp, fun _ => id, by simp⟩
  | makeIndex =>
    have hview (hne : ¬ (s.log = .foreign ∧ s.indexed = false)) :
        ∃ versions?, s.versions = .view versions? :=
      h.reason.resolve_right fun hor => hor.elim hopen hne
    by_cases hindexed : s.indexed = true
    · refine ⟨s, .ok (some .noteVersion), by rw [Migration.step, if_pos hindexed], h, by simp,
        fun _ => id, ?_⟩
      rintro next ⟨⟩
      exact hview (by simp [hindexed])
    · cases hlog : s.log with
      | table log =>
        refine ⟨{ s with indexed := true }, .ok (some .noteVersion),
          by rw [Migration.step, if_neg hindexed, hlog], ⟨h.zero, .inl (hview (by simp [hlog]))⟩,
          by simp, fun m' hm => by cases m' <;> exact hm, ?_⟩
        rintro next ⟨⟩
        exact hview (by simp [hlog])
      | absent =>
        exact ⟨s, _, by rw [Migration.step, if_neg hindexed, hlog], h, by simp, fun _ => id,
          by simp⟩
      | foreign =>
        exact ⟨s, _, by rw [Migration.step, if_neg hindexed, hlog], h, by simp, fun _ => id,
          by simp⟩
      | index => exact absurd hlog hopen
  | noteVersion =>
    obtain ⟨versions, hview⟩ := hopen
    exact ⟨s, _, by rw [Migration.step, hview], h, by simp, fun _ => id, by simp⟩

/-- A migration of a blocked file fails. -/
theorem Blocked.run (h : Blocked s) (hopen : Open s m) : (m.run s).2 ≠ .ok () := by
  induction s, m using Migration.run.induct with
  | case1 s m t next hstep ih =>
    obtain ⟨_, _, hstep', hblocked, -, -, hnext⟩ := h.step hopen
    obtain ⟨rfl, rfl⟩ := Prod.mk.inj (hstep.symm.trans hstep')
    rw [run_next hstep]
    exact ih hblocked (hnext next rfl)
  | case2 s m t hstep =>
    obtain ⟨_, _, hstep', -, hgoes, -⟩ := h.step hopen
    exact absurd (Prod.mk.inj (hstep.symm.trans hstep')).2.symm hgoes
  | case3 s m t err hstep => simp [run_refused hstep]

/-- **A file at version zero is sound or blocked.** -/
theorem sound_or_blocked (h : s.AtZero) : (∃ versions, Sound versions false s) ∨ Blocked s := by
  have hlog : (s.log = .absent ∨ (∃ log, s.log = .table log) ∨
      s.log = .foreign ∧ s.indexed = true) ∨
        s.log = .index ∨ s.log = .foreign ∧ s.indexed = false := by
    cases s.log <;> cases s.indexed <;> simp
  rcases hlog with hsound | hblocked
  · rcases h with habsent | ⟨versions, hzero, htable | hview⟩
    · exact .inl ⟨[], rfl, .inl ⟨habsent, rfl, rfl⟩, hsound⟩
    · exact .inl ⟨versions, hzero, .inr htable, hsound⟩
    · exact .inr ⟨.inr ⟨versions, hzero, .inr hview⟩, .inl ⟨_, hview⟩⟩
  · exact .inr ⟨h, .inr hblocked⟩

/-- **Only a sound file can be migrated** from version zero. -/
theorem migrate_ok_iff (h : s.AtZero) :
    s.migrate.2 = .ok () ↔ ∃ versions, Sound versions false s := by
  constructor
  · intro hok
    exact (sound_or_blocked h).resolve_right fun hblocked =>
      hblocked.run (m := .makeVersions) trivial hok
  · rintro ⟨versions, hsound⟩
    obtain ⟨t, -, hrun⟩ := hsound.run (m := .makeVersions) trivial
    rw [if_neg (by simp)] at hrun
    rw [Schema.migrate, hrun]

end Schema

end QueryGate
