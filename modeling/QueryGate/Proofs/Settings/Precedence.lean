import QueryGate.Proofs.Computations
import QueryGate.Settings.Sources

/-!
# Which source of the settings counts

A setting that the command line gives is the same whatever value the environment has for it, and a
setting that neither of the two gives is that of the settings file or its default. A variable whose
value cannot be read is a fault of the settings, also where the command line gives the setting.

* `Change name change`: `change` is what the variable `name` can do to the settings.
* `Overridable`: the settings that have both a variable and an option. `given`, `Fits`: the option
  is given, and the variable is absent or can be read.
* `erased s`: the settings without one of them, which is what the option cannot tell apart.
* `Kept`: what is left of the settings file.

Results:
* `override_cases`: what an override does, once for all four.
* `applyVariables_alike`: environments that agree on the other variables give settings that differ
  in the one setting at most.
* `applyTo_alike`: the option makes no difference between those.

Headline: **`options_override`**; `malformed_variable_counts` is why the variable has to be
readable.
-/

namespace QueryGate.Settings

open Text CommandLine

/-! ## What the variables do -/

/-- What a variable can do to the settings. -/
inductive Change : String → (Settings → Settings) → Prop
  | maxRows (n : Nat) :
      Change "SANDBOX_MAX_ROWS" fun s => { s with limits := { s.limits with maxRows := n } }
  | timeoutSecs (n : Nat) :
      Change "SANDBOX_TIMEOUT_SECS" fun s => { s with limits := { s.limits with timeoutSecs := n } }
  | workers (n : Nat) :
      Change "SANDBOX_WORKERS" fun s => { s with limits := { s.limits with workers := n } }
  | database (c : Connection) :
      Change "DATABASE_URL" fun s =>
        { s with database := { c with poolSize := s.database.poolSize } }

/-- The override of one variable. -/
abbrev Override : Type := String × (Settings → List Char → Except SettingsError Settings)

theorem readVariable_cases (name : String) (bound : Nat) (v : List Char) :
    (readNat? bound (trim v) = none ∧
        readVariable name bound v = .error (.badVariable name v)) ∨
      ∃ n, readNat? bound (trim v) = some n ∧ readVariable name bound v = .ok n := by
  unfold readVariable
  cases readNat? bound (trim v) with
  | none => exact Or.inl ⟨rfl, rfl⟩
  | some n => exact Or.inr ⟨n, rfl, rfl⟩

theorem number_cases {name : String} {set : Settings → Nat → Settings}
    (hset : ∀ n, Change name (set · n)) (bound : Nat) (v : List Char) :
    (∃ error, ∀ s, (readVariable name bound v >>= fun n => .ok (set s n)) = .error error) ∨
      ∃ change, Change name change ∧
        ∀ s, (readVariable name bound v >>= fun n => .ok (set s n)) = .ok (change s) := by
  obtain ⟨-, h⟩ | ⟨n, -, h⟩ := readVariable_cases name bound v
  · rw [h]
    exact Or.inl ⟨_, fun _ => rfl⟩
  · rw [h]
    exact Or.inr ⟨_, hset n, fun _ => rfl⟩

/-- **What an override does** depends on the value of the variable only: it is an error, or a change
of one setting. -/
theorem override_cases {o : Override} (ho : o ∈ overrides) (v : List Char) :
    (∃ error, ∀ s, o.2 s v = .error error) ∨
      ∃ change, Change o.1 change ∧ ∀ s, o.2 s v = .ok (change s) := by
  simp only [overrides, List.mem_cons, List.not_mem_nil, or_false] at ho
  obtain rfl | rfl | rfl | rfl := ho
  · exact number_cases .maxRows bound32 v
  · exact number_cases .timeoutSecs bound64 v
  · exact number_cases .workers bound64 v
  · cases h : Connection.ofString v with
    | error e => exact Or.inl ⟨_, fun s => by simp only [useDatabase, h]; rfl⟩
    | ok c => exact Or.inr ⟨_, .database c, fun s => by simp only [useDatabase, h]⟩

section Variables

variable {lookup : String → Option (List Char)} {l : List Override} {s t : Settings}

/-- What no variable that is set can change stays as it is. -/
theorem applyVariables_keeps {β : Type} (field : Settings → β)
    (hkeep : ∀ name change, Change name change → lookup name ≠ none →
      ∀ s, field (change s) = field s)
    (hl : ∀ o ∈ l, o ∈ overrides) (s : Settings) :
    field (applyVariables lookup l s).1 = field s := by
  induction l generalizing s with
  | nil => rfl
  | cons o l ih =>
    obtain ⟨ho, hl⟩ := List.forall_mem_cons.mp hl
    unfold applyVariables
    cases hv : lookup o.1 with
    | none => exact ih hl s
    | some v =>
      obtain ⟨error, h⟩ | ⟨change, hc, h⟩ := override_cases ho v
      · simp only [h]
      · simp only [h]
        rw [ih hl, hkeep o.1 change hc (by simp [hv])]

/-- Where nothing was wrong, every variable that is set could be read. -/
theorem ok_of_applyVariables (h : (applyVariables lookup l s).2 = none) {o : Override} (ho : o ∈ l)
    {v : List Char} (hv : lookup o.1 = some v) : ∃ s t, o.2 s v = .ok t := by
  induction l generalizing s with
  | nil => exact absurd ho List.not_mem_nil
  | cons o' l ih =>
    unfold applyVariables at h
    rcases List.mem_cons.mp ho with rfl | ho
    · simp only [hv] at h
      cases hs : o.2 s v with
      | ok t => exact ⟨s, t, hs⟩
      | error e => simp [hs] at h
    · split at h
      · exact ih h ho
      · split at h
        · exact ih h ho
        · exact absurd h (by simp)

end Variables

/-! ## Settings with a variable and an option -/

/-- The settings that have both a variable and an option of the command line. -/
inductive Overridable where
  | maxRows
  | timeout
  | database
  deriving DecidableEq, Repr

namespace Overridable

/-- The variable that gives the setting. -/
def variableName : Overridable → String
  | maxRows => "SANDBOX_MAX_ROWS"
  | timeout => "SANDBOX_TIMEOUT_SECS"
  | database => "DATABASE_URL"

/-- The command line gives the setting. -/
def given : Overridable → Invocation → Bool
  | maxRows, i => i.maxRows.isSome
  | timeout, i => i.timeout.isSome
  | database, i => i.databaseUrl.isSome

/-- A value of the variable can be read as the setting. -/
def readable : Overridable → List Char → Bool
  | maxRows, v => (readNat? bound32 (trim v)).isSome
  | timeout, v => (readNat? bound64 (trim v)).isSome
  | database, v => (Connection.ofString v).isOk

/-- The variable is absent or its value can be read. -/
def Fits (o : Overridable) (e : Environment) : Prop :=
  ∀ v, e.get? o.variableName = some v → o.readable v = true

/-- The settings without the one, for which a fixed value stands. -/
def erased : Overridable → Settings → Settings
  | maxRows, s => { s with limits := { s.limits with maxRows := 0 } }
  | timeout, s => { s with limits := { s.limits with timeoutSecs := 0 } }
  | database, s => { s with database := { poolSize := s.database.poolSize } }

end Overridable

variable {o : Overridable} {e e' : Environment} {i : Invocation} {s s' t : Settings}

/-- The variable of a setting changes that setting only. -/
theorem Change.erased {change : Settings → Settings} (h : Change o.variableName change)
    (s : Settings) : o.erased (change s) = o.erased s := by
  generalize hname : o.variableName = name at h
  cases o <;> cases h <;> first | rfl | exact absurd hname (by decide)

/-- A variable changes alike what differs in one setting at most. -/
theorem Change.alike {name : String} {change : Settings → Settings} (h : Change name change)
    (hs : o.erased s = o.erased s') : o.erased (change s) = o.erased (change s') := by
  obtain ⟨limits, database, history⟩ := s
  obtain ⟨limits', database', history'⟩ := s'
  cases o <;> cases h <;> simp_all [Overridable.erased]

theorem number_readable_iff (name : String) (bound : Nat) (set : Settings → Nat → Settings)
    {v : List Char} : (readNat? bound (trim v)).isSome = true ↔
      ∃ s t, (readVariable name bound v >>= fun n => .ok (set s n)) = .ok t := by
  obtain ⟨hn, h⟩ | ⟨n, hn, h⟩ := readVariable_cases name bound v
  · rw [hn, h]
    exact ⟨fun hs => absurd hs (by simp), fun ⟨_, _, ht⟩ => absurd ht (by simp [bind, Except.bind])⟩
  · rw [hn, h]
    exact ⟨fun _ => ⟨{}, set {} n, rfl⟩, fun _ => rfl⟩

theorem database_readable_iff {v : List Char} :
    (Connection.ofString v).isOk = true ↔ ∃ s t, useDatabase s v = .ok t := by
  unfold useDatabase
  cases Connection.ofString v with
  | error e => exact ⟨fun h => absurd h (by simp [Except.isOk, Except.toBool]), by simp⟩
  | ok c => exact ⟨fun _ => ⟨{}, _, rfl⟩, fun _ => rfl⟩

/-- The value of a variable that belongs to a setting is readable iff the override takes it. -/
theorem readable_iff {f : Settings → List Char → Except SettingsError Settings}
    (h : (o.variableName, f) ∈ overrides) {v : List Char} :
    o.readable v = true ↔ ∃ s t, f s v = .ok t := by
  cases o with
  | maxRows =>
    obtain rfl : f = _ := by simpa [overrides, Overridable.variableName] using h
    exact number_readable_iff ..
  | timeout =>
    obtain rfl : f = _ := by simpa [overrides, Overridable.variableName] using h
    exact number_readable_iff ..
  | database =>
    obtain rfl : f = _ := by simpa [overrides, Overridable.variableName] using h
    exact database_readable_iff

/-- A readable variable of a setting leaves the other settings and the other variables as they
are. -/
theorem applyVariables_own {x : Override} {l : List Override} (hx : x ∈ overrides)
    (hname : x.1 = o.variableName) (hfit : o.Fits e) (s : Settings) :
    ∃ t, o.erased t = o.erased s ∧
      applyVariables e.get? (x :: l) s = applyVariables e.get? l t := by
  obtain ⟨name, f⟩ := x
  obtain rfl : name = o.variableName := hname
  cases hv : e.get? o.variableName with
  | none => exact ⟨s, rfl, by simp only [applyVariables, hv]⟩
  | some v =>
    obtain ⟨s', t', ht⟩ := (readable_iff hx).mp (hfit v hv)
    obtain ⟨error, h⟩ | ⟨change, hc, h⟩ := override_cases hx v
    · exact absurd ((h s').symm.trans ht) (by simp)
    · have hs : f s v = .ok (change s) := h s
      exact ⟨change s, hc.erased s, by simp only [applyVariables, hv, hs]⟩

/-- **Environments that agree on the other variables** give settings that differ in the one setting
at most, or the same error. -/
theorem applyVariables_alike (hothers : ∀ name, name ≠ o.variableName → e.get? name = e'.get? name)
    (hfit : o.Fits e) (hfit' : o.Fits e') {l : List Override} (hl : ∀ x ∈ l, x ∈ overrides)
    {s s' : Settings} (hs : o.erased s = o.erased s') :
    o.erased (applyVariables e.get? l s).1 = o.erased (applyVariables e'.get? l s').1 ∧
      (applyVariables e.get? l s).2 = (applyVariables e'.get? l s').2 := by
  induction l generalizing s s' with
  | nil => exact ⟨hs, rfl⟩
  | cons x l ih =>
    obtain ⟨hx, hl⟩ := List.forall_mem_cons.mp hl
    by_cases hname : x.1 = o.variableName
    · obtain ⟨t, ht, h⟩ := applyVariables_own (l := l) hx hname hfit s
      obtain ⟨t', ht', h'⟩ := applyVariables_own (l := l) hx hname hfit' s'
      rw [h, h']
      exact ih hl (ht.trans (hs.trans ht'.symm))
    · unfold applyVariables
      rw [← hothers x.1 hname]
      cases e.get? x.1 with
      | none => exact ih hl hs
      | some v =>
        obtain ⟨error, h⟩ | ⟨change, hc, h⟩ := override_cases hx v
        · simp only [h, and_true]
          exact hs
        · simp only [h]
          exact ih hl (hc.alike hs)

/-! ## What the command line does -/

/-- The database of a command line; the size of the pool stays. -/
def databaseOf (i : Invocation) (d : Connection) : Except SettingsError Connection :=
  match i.databaseUrl with
  | none => .ok d
  | some url =>
    match Connection.ofString url with
    | .ok c => .ok { c with poolSize := d.poolSize }
    | .error e => .error (.badConnection e)

/-- The settings that a command line makes of others. -/
theorem applyTo_eq (i : Invocation) (s : Settings) :
    i.applyTo s = (databaseOf i s.database).map fun d => {
      limits := { s.limits with
        maxRows := i.maxRows.getD s.limits.maxRows
        timeoutSecs := i.timeout.getD s.limits.timeoutSecs }
      database := d
      history := { s.history with enabled := s.history.enabled && !i.noHistory } } := by
  unfold Invocation.applyTo databaseOf
  cases i.databaseUrl with
  | none => rfl
  | some url =>
    simp only [useDatabase]
    cases Connection.ofString url <;> rfl

/-- Only the size of the pool is left of a database when the command line gives one. -/
theorem databaseOf_cases {i : Invocation} {d d' : Connection} (h : databaseOf i d = .ok d') :
    d'.poolSize = d.poolSize ∧ (i.databaseUrl = none → d' = d) := by
  unfold databaseOf at h
  cases hurl : i.databaseUrl with
  | none =>
    rw [hurl] at h
    obtain rfl : d = d' := Except.ok.inj h
    exact ⟨rfl, fun _ => rfl⟩
  | some url =>
    rw [hurl] at h
    cases hc : Connection.ofString url with
    | error e => simp [hc] at h
    | ok c =>
      simp only [hc, Except.ok.injEq] at h
      rw [← h]
      exact ⟨rfl, fun hnone => absurd hnone (by simp)⟩

/-- **A setting that the command line gives** is the same whatever it was before. -/
theorem applyTo_alike (hgiven : o.given i = true) (hs : o.erased s = o.erased s') :
    i.applyTo s = i.applyTo s' := by
  obtain ⟨limits, database, history⟩ := s
  obtain ⟨limits', database', history'⟩ := s'
  rw [applyTo_eq, applyTo_eq]
  cases o with
  | maxRows =>
    obtain ⟨n, hn⟩ := Option.isSome_iff_exists.mp hgiven
    simp_all [Overridable.erased]
  | timeout =>
    obtain ⟨n, hn⟩ := Option.isSome_iff_exists.mp hgiven
    simp_all [Overridable.erased]
  | database =>
    obtain ⟨url, hurl⟩ := Option.isSome_iff_exists.mp hgiven
    simp_all [Overridable.erased, databaseOf]

/-! ## All sources -/

/-- What is left of the settings file in the settings of a run: all that neither a variable nor an
option gives. -/
structure Kept (base : Settings) (e : Environment) (i : Invocation) (s : Settings) : Prop where
  maxRows : e.get? "SANDBOX_MAX_ROWS" = none → i.maxRows = none →
    s.limits.maxRows = base.limits.maxRows
  timeoutSecs : e.get? "SANDBOX_TIMEOUT_SECS" = none → i.timeout = none →
    s.limits.timeoutSecs = base.limits.timeoutSecs
  workers : e.get? "SANDBOX_WORKERS" = none → s.limits.workers = base.limits.workers
  allowedTables : s.limits.allowedTables = base.limits.allowedTables
  maxCompare : s.limits.maxCompare = base.limits.maxCompare
  database : e.get? "DATABASE_URL" = none → i.databaseUrl = none → s.database = base.database
  poolSize : s.database.poolSize = base.database.poolSize
  enabled : i.noHistory = false → s.history.enabled = base.history.enabled
  path : s.history.path = base.history.path
  keepPerUser : s.history.keepPerUser = base.history.keepPerUser

/-- The environment and the command line leave the rest of the settings file. -/
theorem kept_of_applyTo (h : i.applyTo (applyVariables e.get? overrides s).1 = .ok t) :
    Kept s e i t := by
  rw [applyTo_eq] at h
  obtain ⟨d, hd, rfl⟩ := ok_of_map h
  obtain ⟨hpool, hsame⟩ := databaseOf_cases hd
  have hkeep {β : Type} (field : Settings → β)
      (h : ∀ name change, Change name change → e.get? name ≠ none →
        ∀ s, field (change s) = field s) :
      field (applyVariables e.get? overrides s).1 = field s :=
    applyVariables_keeps field h (fun _ hx => hx) s
  constructor
  case maxRows =>
    intro he hi
    simp only [hi, Option.getD_none]
    refine hkeep (·.limits.maxRows) fun name change hc hset s => ?_
    cases hc with
    | maxRows => exact absurd he hset
    | _ => rfl
  case timeoutSecs =>
    intro he hi
    simp only [hi, Option.getD_none]
    refine hkeep (·.limits.timeoutSecs) fun name change hc hset s => ?_
    cases hc with
    | timeoutSecs => exact absurd he hset
    | _ => rfl
  case workers =>
    intro he
    refine hkeep (·.limits.workers) fun name change hc hset s => ?_
    cases hc with
    | workers => exact absurd he hset
    | _ => rfl
  case database =>
    intro he hi
    rw [hsame hi]
    refine hkeep (·.database) fun name change hc hset s => ?_
    cases hc with
    | database => exact absurd he hset
    | _ => rfl
  case poolSize =>
    rw [hpool]
    exact hkeep (·.database.poolSize) fun _ _ hc _ _ => by cases hc <;> rfl
  case enabled =>
    intro hi
    simp only [hi, Bool.not_false, Bool.and_true]
    exact hkeep (·.history.enabled) fun _ _ hc _ _ => by cases hc <;> rfl
  -- no variable changes the others
  case allowedTables => exact hkeep (·.limits.allowedTables) fun _ _ hc _ _ => by cases hc <;> rfl
  case maxCompare => exact hkeep (·.limits.maxCompare) fun _ _ hc _ _ => by cases hc <;> rfl
  case path => exact hkeep (·.history.path) fun _ _ hc _ _ => by cases hc <;> rfl
  case keepPerUser => exact hkeep (·.history.keepPerUser) fun _ _ hc _ _ => by cases hc <;> rfl

theorem withEnvironment_eq_ok_iff :
    withEnvironment e s = .ok t ↔
      (applyVariables e.get? overrides s).1 = t ∧ (applyVariables e.get? overrides s).2 = none := by
  unfold withEnvironment applyEnvironment
  obtain ⟨s', _ | error⟩ := applyVariables e.get? overrides s <;> simp

/-- Environments that agree on the other variables give the same failure, or settings that differ in
the one setting at most. -/
theorem withEnvironment_alike
    (hothers : ∀ name, name ≠ o.variableName → e.get? name = e'.get? name)
    (hfit : o.Fits e) (hfit' : o.Fits e') (s : Settings) :
    (∃ f, withEnvironment e s = .error f ∧ withEnvironment e' s = .error f) ∨
      ∃ t t', withEnvironment e s = .ok t ∧ withEnvironment e' s = .ok t' ∧
        o.erased t = o.erased t' := by
  obtain ⟨hs, herror⟩ :=
    applyVariables_alike hothers hfit hfit' (fun _ hx => hx) (rfl : o.erased s = o.erased s)
  unfold withEnvironment applyEnvironment
  generalize applyVariables e.get? overrides s = r at hs herror ⊢
  generalize applyVariables e'.get? overrides s = r' at hs herror ⊢
  obtain ⟨t, error⟩ := r
  obtain ⟨t', error'⟩ := r'
  obtain rfl : error = error' := herror
  cases error with
  | none => exact Or.inr ⟨t, t', rfl, rfl, hs⟩
  | some error => exact Or.inl ⟨error.failure, rfl, rfl⟩

/-- A variable that cannot be read is a fault of the environment. -/
theorem withEnvironment_of_not_fits (h : ¬ o.Fits e) (s : Settings) :
    ∃ f, withEnvironment e s = .error f := by
  cases hs : withEnvironment e s with
  | error f => exact ⟨f, rfl⟩
  | ok t =>
    have hnone := (withEnvironment_eq_ok_iff.mp hs).2
    obtain ⟨f, hf⟩ : ∃ f, (o.variableName, f) ∈ overrides := by
      cases o <;> simp [overrides, Overridable.variableName]
    exact absurd (fun v hv => (readable_iff hf).mpr (ok_of_applyVariables hnone hf hv)) h

/-- **What the command line gives counts.** It is the same for every value of the variable that can
be read, and for none; a value that cannot be read is a fault of the settings all the same; and what
neither of them gives is what the settings file says, or its default. -/
theorem options_override (path : List Char) (file : SettingsText) (e : Environment)
    (i : Invocation) :
    (∀ (o : Overridable) (e' : Environment), o.given i = true →
        (∀ name, name ≠ o.variableName → e.get? name = e'.get? name) → o.Fits e → o.Fits e' →
        resolve path file e i = resolve path file e' i) ∧
      (∀ o : Overridable, ¬ o.Fits e →
        ∃ f, load path file e = .error f ∧ resolve path file e i = .error f) ∧
      ∀ s, resolve path file e i = .ok s →
        ∃ base, ofFile path file = .ok base ∧ Kept base e i s := by
  refine ⟨fun o e' hgiven hothers hfit hfit' => ?_, fun o hfit => ?_, fun s hs => ?_⟩
  · unfold resolve load
    cases ofFile path file with
    | error f => rfl
    | ok base =>
      simp only [bind, Except.bind]
      obtain ⟨f, h, h'⟩ | ⟨t, t', h, h', ht⟩ := withEnvironment_alike hothers hfit hfit' base
      · rw [h, h']
      · rw [h, h']
        exact congrArg (Except.mapError SettingsError.failure) (applyTo_alike hgiven ht)
  · have hload : ∃ f, load path file e = .error f := by
      unfold load
      cases ofFile path file with
      | error f => exact ⟨f, rfl⟩
      | ok base => exact withEnvironment_of_not_fits hfit base
    obtain ⟨f, hf⟩ := hload
    refine ⟨f, hf, ?_⟩
    unfold resolve
    rw [hf]
    rfl
  · obtain ⟨t, hload, hline⟩ := ok_of_bind hs
    obtain ⟨base, hfile, henv⟩ := ok_of_bind hload
    obtain ⟨rfl, -⟩ := withEnvironment_eq_ok_iff.mp henv
    refine ⟨base, hfile, kept_of_applyTo ?_⟩
    unfold withInvocation at hline
    cases happly : i.applyTo (applyVariables e.get? overrides base).1 with
    | error error =>
      rw [happly] at hline
      cases hline
    | ok t =>
      rw [happly] at hline
      exact congrArg Except.ok (Except.ok.inj hline)

/-- A command line that names a database file. -/
def onFile : Invocation := { databaseUrl := some "sqlite:a.db".toList, command := .query [] }

/-- The database of a command line does not depend on the one of the environment. -/
theorem options_override_sample :
    resolve [] .absent ⟨[("DATABASE_URL", "mysql://db/app".toList)]⟩ onFile =
      resolve [] .absent ⟨[]⟩ onFile := by
  have hothers : ∀ name, name ≠ Overridable.database.variableName →
      Environment.get? ⟨[("DATABASE_URL", "mysql://db/app".toList)]⟩ name =
        Environment.get? ⟨[]⟩ name := by
    intro name hname
    exact List.lookup_eq_none_iff.mpr
      (List.forall_mem_singleton.mpr (bne_iff_ne.mpr hname))
  have hfit : Overridable.database.Fits ⟨[("DATABASE_URL", "mysql://db/app".toList)]⟩ := by
    intro v hv
    obtain rfl : "mysql://db/app".toList = v := Option.some.inj hv
    decide +kernel
  have hfit' : Overridable.database.Fits ⟨[]⟩ := fun _ hv => absurd hv (by simp [Environment.get?])
  exact (options_override [] .absent _ onFile).1 .database ⟨[]⟩ rfl hothers hfit hfit'

/-- **A value that cannot be read counts**, though the command line gives the setting. -/
theorem malformed_variable_counts :
    resolve [] .absent ⟨[("DATABASE_URL", "postgres://localhost/app".toList)]⟩ onFile =
        .error (unusable "Invalid scheme 'postgres'. Expected 'mysql' or 'sqlite'") ∧
      resolve [] .absent ⟨[]⟩ onFile =
        .ok { database := { backend := .sqlite, database := some "a.db".toList } } :=
  ⟨rfl, rfl⟩

end QueryGate.Settings
