import Mathlib.Data.List.Nodup
import QueryGate.Proofs.Text.Words
import QueryGate.Server.Client

/-!
# Units of work are rolled back

A unit of work is a dialogue with a database that may answer or fail each command. Whatever it
answers, a unit whose transaction has begun ends with one `ROLLBACK`, and what it reports does not
depend on how that one is answered.

* `Exchange`, `Dialogue.transcript`: a command with its answer, and those of a whole dialogue.
* `Held d t a`: a dialogue `d` can go as the transcript `t` says, and ends with `a` then.
* `Course b ms r t reply`: what the unit of a request `r` does on the backend `b`, one case for each
  command that ends it; `Inside r t reply`: what it does inside its transaction.
* `Reports r t answer`: the answer is made of what the database gave in the transcript.

Results:
* `course_of_held`: a unit does nothing but what `Course` says.
* `log_of_converse`: a server receives the commands of the transcript and nothing else.

Headline: **`always_rolled_back`**.
-/

namespace QueryGate

open Text

/-! ## Transcripts -/

/-- A command and how the database answered it. -/
structure Exchange where
  command : Command
  result : command.Result

/-- The database's words of why the command failed, if it did. -/
def Exchange.failure? (x : Exchange) : Option String :=
  match x.result with
  | .ok _ => none
  | .error report => some report

/-- The commands of a transcript. -/
def commands (t : List Exchange) : List Command := t.map (·.command)

@[simp] theorem commands_nil : commands [] = [] := rfl

@[simp] theorem commands_cons (x : Exchange) (t : List Exchange) :
    commands (x :: t) = x.command :: commands t := rfl

@[simp] theorem commands_append (t t' : List Exchange) :
    commands (t ++ t') = commands t ++ commands t' :=
  List.map_append

section Held

variable {α σ : Type}

/-- The commands of a dialogue with a database that answers every one, each with its answer. -/
def Dialogue.transcript (respond : σ → (c : Command) → c.Result × σ) :
    Dialogue α → σ → List Exchange
  | .done _, _ => []
  | .issue c next, s =>
    ⟨c, (respond s c).1⟩ :: transcript respond (next (respond s c).1) (respond s c).2

/-- A way in which a dialogue can go, and its end. -/
inductive Held : Dialogue α → List Exchange → α → Prop
  | done (a : α) : Held (.done a) [] a
  | issue {c : Command} {next : c.Result → Dialogue α} {result : c.Result} {t : List Exchange}
      {a : α} (rest : Held (next result) t a) : Held (.issue c next) (⟨c, result⟩ :: t) a

theorem held_transcript (respond : σ → (c : Command) → c.Result × σ) (d : Dialogue α) (s : σ) :
    Held d (d.transcript respond s) (d.play respond s).2.1 := by
  induction d generalizing s with
  | done a => exact .done a
  | issue c next ih => exact .issue (ih _ _)

theorem play_commands (respond : σ → (c : Command) → c.Result × σ) (d : Dialogue α) (s : σ) :
    (d.play respond s).1 = commands (d.transcript respond s) := by
  induction d generalizing s with
  | done a => rfl
  | issue c next ih => exact congrArg (c :: ·) (ih _ _)

theorem held_done_iff {a b : α} {t : List Exchange} : Held (.done a) t b ↔ t = [] ∧ b = a := by
  constructor
  · rintro ⟨⟩
    exact ⟨rfl, rfl⟩
  · rintro ⟨rfl, rfl⟩
    exact .done _

theorem held_issue_iff {c : Command} {next : c.Result → Dialogue α} {t : List Exchange} {a : α} :
    Held (.issue c next) t a ↔
      ∃ result rest, t = ⟨c, result⟩ :: rest ∧ Held (next result) rest a := by
  constructor
  · rintro (_ | hrest)
    exact ⟨_, _, rfl, hrest⟩
  · rintro ⟨result, rest, rfl, hrest⟩
    exact .issue hrest

end Held

/-! ## What a unit does -/

/-- The unit of work for a request on a backend. Only a server is told a limit of time. -/
def Backend.unit : Backend → Nat → Request → Dialogue Reply
  | .mysql, ms, r => timedUnit ms r
  | .sqlite, _, r => r.unit

/-- What a unit does inside its transaction, and what it reports. -/
inductive Inside : Request → List Exchange → Reply → Prop
  | unplanned {r : Request} (report : String) :
      Inside r [⟨.probe r.sql, .error report⟩] (.error (queryFailure report))
  | planned (sql : Sql) (plan : Plan) :
      Inside (.probe sql) [⟨.probe sql, .ok plan⟩] (.ok ⟨plan, {}⟩)
  | failed (sql : Sql) (plan : Plan) (report : String) :
      Inside (.run sql) [⟨.probe sql, .ok plan⟩, ⟨.run sql, .error report⟩]
        (.error (queryFailure report))
  | empty (sql : Sql) (plan : Plan) (described : (Command.describe sql).Result) :
      Inside (.run sql) [⟨.probe sql, .ok plan⟩, ⟨.run sql, .ok []⟩, ⟨.describe sql, described⟩]
        (.ok ⟨plan, ⟨described.toOption.getD [], []⟩⟩)
  | rows (sql : Sql) (plan : Plan) (row : Record) (rows : List Record) :
      Inside (.run sql) [⟨.probe sql, .ok plan⟩, ⟨.run sql, .ok (row :: rows)⟩]
        (.ok ⟨plan, ⟨row.labels, row :: rows⟩⟩)

/-- What a unit does before its transaction, if nothing fails. -/
inductive Prepared : Backend → Nat → List Exchange → Prop
  | server (ms number : Nat) :
      Prepared .mysql ms [⟨.limitTime ms, .ok ()⟩, ⟨.connectionNumber, .ok number⟩]
  | file (ms : Nat) : Prepared .sqlite ms []

/-- What a unit does, and what it reports. -/
inductive Course : Backend → Nat → Request → List Exchange → Reply → Prop
  | unlimited (ms : Nat) (r : Request) (report : String) :
      Course .mysql ms r [⟨.limitTime ms, .error report⟩] (.error (queryFailure report))
  | unnumbered (ms : Nat) (r : Request) (report : String) :
      Course .mysql ms r [⟨.limitTime ms, .ok ()⟩, ⟨.connectionNumber, .error report⟩]
        (.error (queryFailure report))
  | unbegun {b : Backend} {ms : Nat} {r : Request} {lead : List Exchange}
      (prepared : Prepared b ms lead) (report : String) :
      Course b ms r (lead ++ [⟨.begin, .error report⟩]) (.error (queryFailure report))
  | begun {b : Backend} {ms : Nat} {r : Request} {lead body : List Exchange} {reply : Reply}
      (prepared : Prepared b ms lead) (inside : Inside r body reply)
      (answer : Command.rollback.Result) :
      Course b ms r (lead ++ ⟨.begin, .ok ()⟩ :: body ++ [⟨.rollback, answer⟩]) reply

variable {b : Backend} {ms : Nat} {r : Request} {t : List Exchange} {reply reply' : Reply}

theorem held_closing (h : Held (closing reply) t reply') :
    reply' = reply ∧ ∃ answer, t = [⟨.rollback, answer⟩] := by
  obtain ⟨answer, rest, rfl, hrest⟩ := held_issue_iff.mp h
  obtain ⟨rfl, rfl⟩ := held_done_iff.mp hrest
  exact ⟨rfl, answer, rfl⟩

theorem held_runUnit {sql : Sql} (h : Held (runUnit sql) t reply) :
    (∃ report, t = [⟨.begin, .error report⟩] ∧ reply = .error (queryFailure report)) ∨
      ∃ body answer, Inside (.run sql) body reply ∧
        t = ⟨.begin, .ok ()⟩ :: body ++ [⟨.rollback, answer⟩] := by
  obtain ⟨begun, t, rfl, hbegun⟩ := held_issue_iff.mp h
  rcases begun with report | ⟨⟨⟩⟩
  · obtain ⟨rfl, rfl⟩ := held_done_iff.mp hbegun
    exact Or.inl ⟨report, rfl, rfl⟩
  right
  obtain ⟨planned, t, rfl, hplanned⟩ := held_issue_iff.mp hbegun
  rcases planned with report | plan
  · obtain ⟨rfl, answer, rfl⟩ := held_closing hplanned
    exact ⟨_, answer, .unplanned report, rfl⟩
  obtain ⟨ran, t, rfl, hran⟩ := held_issue_iff.mp hplanned
  rcases ran with report | (- | ⟨row, rows⟩)
  · obtain ⟨rfl, answer, rfl⟩ := held_closing hran
    exact ⟨_, answer, .failed sql plan report, rfl⟩
  · obtain ⟨described, t, rfl, hdescribed⟩ := held_issue_iff.mp hran
    obtain ⟨rfl, answer, rfl⟩ := held_closing hdescribed
    rcases described with report | labels
    · exact ⟨_, answer, .empty sql plan (.error report), rfl⟩
    · exact ⟨_, answer, .empty sql plan (.ok labels), rfl⟩
  · obtain ⟨rfl, answer, rfl⟩ := held_closing hran
    exact ⟨_, answer, .rows sql plan row rows, rfl⟩

theorem held_probeUnit {sql : Sql} (h : Held (probeUnit sql) t reply) :
    (∃ report, t = [⟨.begin, .error report⟩] ∧ reply = .error (queryFailure report)) ∨
      ∃ body answer, Inside (.probe sql) body reply ∧
        t = ⟨.begin, .ok ()⟩ :: body ++ [⟨.rollback, answer⟩] := by
  obtain ⟨begun, t, rfl, hbegun⟩ := held_issue_iff.mp h
  rcases begun with report | ⟨⟨⟩⟩
  · obtain ⟨rfl, rfl⟩ := held_done_iff.mp hbegun
    exact Or.inl ⟨report, rfl, rfl⟩
  right
  obtain ⟨planned, t, rfl, hplanned⟩ := held_issue_iff.mp hbegun
  rcases planned with report | plan
  · obtain ⟨rfl, answer, rfl⟩ := held_closing hplanned
    exact ⟨_, answer, .unplanned (r := .probe sql) report, rfl⟩
  · obtain ⟨rfl, answer, rfl⟩ := held_closing hplanned
    exact ⟨_, answer, .planned sql plan, rfl⟩

/-- What a unit does behind its preparation. -/
theorem course_of_prepared {lead : List Exchange} (hlead : Prepared b ms lead)
    (h : Held r.unit t reply) : Course b ms r (lead ++ t) reply := by
  have hcases : (∃ report, t = [⟨.begin, .error report⟩] ∧ reply = .error (queryFailure report)) ∨
      ∃ body answer, Inside r body reply ∧
        t = ⟨.begin, .ok ()⟩ :: body ++ [⟨.rollback, answer⟩] := by
    cases r with
    | run sql => exact held_runUnit h
    | probe sql => exact held_probeUnit h
  rcases hcases with ⟨report, rfl, rfl⟩ | ⟨body, answer, hbody, rfl⟩
  · exact .unbegun hlead report
  · rw [← List.append_assoc]
    exact .begun hlead hbody answer

/-- **A unit does nothing but what its course says**, however the database answers. -/
theorem course_of_held (h : Held (b.unit ms r) t reply) : Course b ms r t reply := by
  cases b with
  | sqlite => exact course_of_prepared (.file ms) h
  | mysql =>
    obtain ⟨limited, t, rfl, hlimited⟩ := held_issue_iff.mp h
    rcases limited with report | ⟨⟨⟩⟩
    · obtain ⟨rfl, rfl⟩ := held_done_iff.mp hlimited
      exact .unlimited ms r report
    obtain ⟨numbered, t, rfl, hnumbered⟩ := held_issue_iff.mp hlimited
    rcases numbered with report | number
    · obtain ⟨rfl, rfl⟩ := held_done_iff.mp hnumbered
      exact .unnumbered ms r report
    · exact course_of_prepared (.server ms number) hnumbered

/-! ## The commands of a course -/

/-- The commands that a unit may issue inside its transaction, in their order. -/
def Request.commands : Request → List Command
  | .run sql => [.probe sql, .run sql, .describe sql]
  | .probe sql => [.probe sql]

/-- The commands that a unit may issue, in their order. -/
def unitCommands (ms : Nat) (r : Request) : List Command :=
  [.limitTime ms, .connectionNumber, .begin] ++ r.commands ++ [.rollback]

theorem nodup_unitCommands (ms : Nat) (r : Request) : (unitCommands ms r).Nodup := by
  cases r <;> simp [unitCommands, Request.commands]

section Commands

variable {lead body : List Exchange} {c : Command}

theorem Prepared.sublist (h : Prepared b ms lead) :
    (commands lead).Sublist [.limitTime ms, .connectionNumber] := by
  cases h <;> simp

theorem Inside.sublist (h : Inside r body reply) : (commands body).Sublist r.commands := by
  cases h with
  | @unplanned r => cases r <;> simp [Request.commands, Request.sql]
  | _ => simp [Request.commands]

/-- **A unit issues each of its commands once at most, in their order**, and nothing else. -/
theorem Course.sublist (h : Course b ms r t reply) : (commands t).Sublist (unitCommands ms r) := by
  have hbegin : ∀ {lead}, Prepared b ms lead →
      (commands lead ++ [Command.begin]).Sublist [.limitTime ms, .connectionNumber, .begin] :=
    fun hlead => hlead.sublist.append (.refl [Command.begin])
  unfold unitCommands
  rw [List.append_assoc]
  cases h with
  | unlimited => simp
  | unnumbered => simp
  | unbegun hlead report =>
    rw [commands_append]
    exact (hbegin hlead).trans (List.sublist_append_left ..)
  | begun hlead hbody answer =>
    rw [commands_append, commands_append, commands_cons, List.append_cons, List.append_assoc]
    exact (hbegin hlead).append (hbody.sublist.append (.refl _))

theorem Course.nodup (h : Course b ms r t reply) : (commands t).Nodup :=
  (nodup_unitCommands ms r).sublist h.sublist

/-- Neither end of a transaction stands in front of it. -/
theorem Prepared.not_mem (h : Prepared b ms lead) :
    .begin ∉ commands lead ∧ .rollback ∉ commands lead :=
  ⟨fun hm => absurd (h.sublist.subset hm) (by simp),
    fun hm => absurd (h.sublist.subset hm) (by simp)⟩

/-- Nor does one stand inside it. -/
theorem Inside.not_mem (h : Inside r body reply) : .begin ∉ commands body := by
  intro hm
  have := h.sublist.subset hm
  cases r <;> simp [Request.commands] at this

theorem command_mem {x : Exchange} (h : x ∈ t) : x.command ∈ commands t := List.mem_map_of_mem h

/-- A unit whose transaction did not begin gives up. -/
theorem Course.unbegun_last (h : Course b ms r t reply) {report : String}
    (hm : ⟨.begin, .error report⟩ ∈ t) :
    (commands t).getLast? = some .begin ∧ .rollback ∉ commands t := by
  cases h with
  | unlimited => simp at hm
  | unnumbered => simp at hm
  | unbegun hlead report' =>
    rw [commands_append]
    exact ⟨List.getLast?_concat .., by simp [hlead.not_mem.2]⟩
  | begun hlead hbody answer =>
    simp only [List.mem_append, List.mem_cons] at hm
    rcases hm with (hm | hm | hm) | hm
    · exact absurd (command_mem hm) hlead.not_mem.1
    · simp at hm
    · exact absurd (command_mem hm) hbody.not_mem
    · simp at hm

/-- A unit whose transaction began ends with its only `ROLLBACK`. -/
theorem Course.begun_last (h : Course b ms r t reply) {u : Command.begin.Answer}
    (hm : ⟨.begin, .ok u⟩ ∈ t) :
    (commands t).getLast? = some .rollback ∧ (commands t).count .rollback = 1 := by
  have hlast : (commands t).getLast? = some .rollback := by
    cases h with
    | unlimited => simp at hm
    | unnumbered => simp at hm
    | unbegun hlead report =>
      rcases List.mem_append.mp hm with hm | hm
      · exact absurd (command_mem hm) hlead.not_mem.1
      · simp at hm
    | begun hlead hbody answer =>
      rw [commands_append]
      exact List.getLast?_concat ..
  exact ⟨hlast, List.count_eq_one_of_mem h.nodup (List.mem_of_getLast? hlast)⟩

/-- The first letters of a unit's own words. -/
theorem exists_text_eq_cons (b : Backend) (hrun : ∀ q, c ≠ .run q) :
    ∃ x s, c.text b = x :: s ∧ x ∈ ['S', 'B', 'E', 'P', 'R'] := by
  cases c with
  | run q => exact absurd rfl (hrun q)
  | limitTime ms => exact ⟨'S', _, rfl, by decide⟩
  | connectionNumber => exact ⟨'S', _, rfl, by decide⟩
  | begin => exact ⟨'B', _, rfl, by decide⟩
  | probe q => cases b <;> exact ⟨'E', _, rfl, by decide⟩
  | describe q => exact ⟨'P', _, rfl, by decide⟩
  | rollback => exact ⟨'R', _, rfl, by decide⟩

/-- **A unit commits nothing**: only the caller's own statement may be a `COMMIT`. -/
theorem run_of_commit (hx : BeginsWith "commit".toList (trimStart (c.text b))) :
    ∃ q, c = .run q := by
  by_contra hrun
  obtain ⟨x, s, htext, hmem⟩ := exists_text_eq_cons b fun q hq => hrun ⟨q, hq⟩
  have hfirst : ∀ x ∈ ['S', 'B', 'E', 'P', 'R'], isBlank x = false ∧ foldLetter x ≠ 'c' := by decide
  obtain ⟨hblank, hne⟩ := hfirst x hmem
  obtain ⟨w, after, hcut, hw, -⟩ := hx
  rw [htext, trimStart_of_startsBlank (s := x :: s) hblank] at hcut
  cases w with
  | nil => exact absurd hw (by decide)
  | cons y w =>
    obtain rfl := (List.cons.inj hcut).1
    exact hne (List.cons.inj hw).1

/-- Whatever a unit does beyond its preparation, it does in a transaction that has begun. -/
theorem Course.begun_of_mem (h : Course b ms r t reply) (hc : c ∈ commands t)
    (hlead : c ∉ [.limitTime ms, .connectionNumber, .begin]) :
    ⟨.begin, .ok ()⟩ ∈ t := by
  cases h with
  | unlimited => exact absurd (List.mem_cons.mpr (Or.inl (List.mem_singleton.mp hc))) hlead
  | unnumbered =>
    have hm : c ∈ [Command.limitTime ms, .connectionNumber] ++ [.begin] :=
      List.mem_append_left _ hc
    exact absurd hm hlead
  | unbegun hprepared report =>
    rw [commands_append] at hc
    have hm := (hprepared.sublist.append (.refl [Command.begin])).subset hc
    exact absurd hm hlead
  | begun hprepared hbody answer => simp

/-- A unit that runs a statement runs the caller's, and once. -/
theorem Course.run_once (h : Course b ms r t reply) {q : Sql} (hm : .run q ∈ commands t) :
    r = .run q ∧ (commands t).count (.run q) = 1 := by
  refine ⟨?_, List.count_eq_one_of_mem h.nodup hm⟩
  have hunit := h.sublist.subset hm
  cases r with
  | run sql =>
    obtain rfl : q = sql := by simpa [unitCommands, Request.commands] using hunit
    rfl
  | probe sql => simp [unitCommands, Request.commands] at hunit

/-- A unit that probes a plan sends the caller's statement behind the backend's words only. -/
theorem Course.probe_only {q : Sql} (h : Course b ms (.probe q) t reply) (hc : c ∈ commands t) :
    c ∈ [.limitTime ms, .connectionNumber, .begin, .rollback] ∨
      c.text b = b.explainLead.toList ++ ' ' :: q := by
  have hunit := h.sublist.subset hc
  simp only [unitCommands, Request.commands, List.cons_append, List.nil_append,
    List.mem_cons, List.not_mem_nil, or_false] at hunit ⊢
  rcases hunit with rfl | rfl | rfl | rfl | rfl
  · simp
  · simp
  · simp
  · exact Or.inr rfl
  · simp

end Commands

/-! ## The reply of a course -/

/-- The unit goes on when the command has failed. -/
def Command.isOptional : Command → Bool
  | .describe _ => true
  | .rollback => true
  | _ => false

/-- The database's words of why the first of the steps failed that must not fail. -/
def firstFailure? (t : List Exchange) : Option String :=
  (t.filter (!·.command.isOptional)).findSome? Exchange.failure?

/-- An answer is made of what the database gave: the plan of the statement and, if it was run, its
rows. Their columns are those of the first row; where there is none they are those of the
description, or none if that failed. -/
structure Reports (r : Request) (t : List Exchange) (answer : StatementRun) : Prop where
  plan : ⟨.probe r.sql, .ok answer.plan⟩ ∈ t
  probed : ∀ sql, r = .probe sql → answer.result = {}
  rows : ∀ sql, r = .run sql → ⟨.run sql, .ok answer.result.rows⟩ ∈ t
  columns : ∀ row rows, answer.result.rows = row :: rows → answer.result.columns = row.labels
  described : ∀ sql, r = .run sql → answer.result.rows = [] →
    ∃ described : (Command.describe sql).Result, ⟨.describe sql, described⟩ ∈ t ∧
      answer.result.columns = match described with
        | .ok labels => labels
        | .error _ => []

theorem Prepared.failure? {lead : List Exchange} (h : Prepared b ms lead) (t : List Exchange) :
    firstFailure? (lead ++ t) = firstFailure? t := by
  cases h <;> rfl

/-- What a unit reports from inside its transaction. -/
theorem Inside.reports {body : List Exchange} (h : Inside r body reply)
    (answer : Command.rollback.Result) (t : List Exchange) (hbody : ∀ x ∈ body, x ∈ t) :
    match firstFailure? (⟨.begin, .ok ()⟩ :: body ++ [⟨.rollback, answer⟩]) with
    | some report => reply = .error (queryFailure report)
    | none => ∃ answer, reply = .ok answer ∧ Reports r t answer := by
  cases h with
  | unplanned report => rfl
  | failed sql plan report => rfl
  | planned sql plan => exact ⟨_, rfl, hbody _ (.head _), fun _ _ => rfl, by simp, by simp, by simp⟩
  | empty sql plan described =>
    refine ⟨_, rfl, hbody _ (.head _), by simp, ?_, by simp, ?_⟩
    · rintro _ ⟨⟩
      exact hbody _ (by simp)
    · rintro _ ⟨⟩ -
      exact ⟨described, hbody _ (by simp), by cases described <;> rfl⟩
  | rows sql plan row rows =>
    refine ⟨_, rfl, hbody _ (.head _), by simp, ?_, ?_, by simp⟩
    · rintro _ ⟨⟩
      exact hbody _ (by simp)
    · rintro _ _ ⟨⟩
      rfl

/-- What a unit reports. -/
theorem Course.reports (h : Course b ms r t reply) :
    match firstFailure? t with
    | some report => reply = .error (queryFailure report)
    | none => ∃ answer, reply = .ok answer ∧ Reports r t answer := by
  cases h with
  | unlimited => rfl
  | unnumbered => rfl
  | unbegun hlead report =>
    rw [hlead.failure?]
    rfl
  | begun hlead hbody answer =>
    rw [List.append_assoc, hlead.failure?]
    exact hbody.reports answer _ (by simp +contextual)

/-! ## What a server receives -/

section Server

open Server Client

theorem log_respond (talk : Talk) (c : Command) :
    (talk.respond c).2.client.log = talk.client.log ++ [(talk.number, c.text .mysql)] := by
  unfold Talk.respond
  dsimp only
  split <;> split <;> rfl

theorem number_respond (talk : Talk) (c : Command) : (talk.respond c).2.number = talk.number := rfl

/-- **A server receives the commands of a conversation that ends**, in their order and on its
connection, and nothing else. -/
theorem log_of_converse {α : Type} {d : Dialogue α} {talk talk' : Talk} {a : α}
    (h : d.converse Talk.respond talk = (.ok a, talk')) :
    ∃ t, Held d t a ∧ talk'.client.log =
      talk.client.log ++ (commands t).map fun c => (talk.number, c.text .mysql) := by
  induction d generalizing talk with
  | done b =>
    obtain ⟨hb, rfl⟩ := Prod.mk.inj h
    obtain rfl := Except.ok.inj hb
    exact ⟨[], .done b, (List.append_nil _).symm⟩
  | issue c next ih =>
    rw [Dialogue.converse] at h
    have hlog := log_respond talk c
    have hnumber := number_respond talk c
    rcases hanswer : talk.respond c with ⟨_ | result, after⟩
    · rw [hanswer] at h
      exact absurd (congrArg Prod.fst h) (by simp)
    · rw [hanswer] at h hlog hnumber
      obtain ⟨t, ht, hafter⟩ := ih result h
      refine ⟨_, .issue ht, ?_⟩
      rw [hafter, hlog, hnumber]
      simp

end Server

/-! ## The law -/

/-- **Always rolled back.** Whatever a database answers to the commands of a unit, on either
backend: nothing follows a `BEGIN` that failed; behind one that succeeded there is exactly one
`ROLLBACK`, and it is the last command. Only a caller's statement may be a `COMMIT`; it runs once at
most, and a unit that probes its plan sends it behind the backend's words only. The reply is the
report of the first step that failed, or is made of what the database gave, whatever it answered to
the `ROLLBACK`. -/
theorem always_rolled_back {σ : Type} (respond : σ → (c : Command) → c.Result × σ) (s : σ)
    (b : Backend) (ms : Nat) (r : Request) :
    let t := (b.unit ms r).transcript respond s
    let issued := ((b.unit ms r).play respond s).1
    let reply := ((b.unit ms r).play respond s).2.1
    issued = commands t ∧
    (∀ report, ⟨.begin, .error report⟩ ∈ t →
      issued.getLast? = some .begin ∧ .rollback ∉ issued) ∧
    (⟨.begin, .ok ()⟩ ∈ t → issued.getLast? = some .rollback ∧ issued.count .rollback = 1) ∧
    (∀ c ∈ issued, c ∉ [.limitTime ms, .connectionNumber, .begin] → ⟨.begin, .ok ()⟩ ∈ t) ∧
    (∀ c ∈ issued, BeginsWith "commit".toList (trimStart (c.text b)) → r = .run (c.text b)) ∧
    (∀ q, .run q ∈ issued → r = .run q ∧ issued.count (.run q) = 1) ∧
    (∀ q, r = .probe q → ∀ c ∈ issued,
      c ∈ [.limitTime ms, .connectionNumber, .begin, .rollback] ∨
        c.text b = b.explainLead.toList ++ ' ' :: q) ∧
    match firstFailure? t with
    | some report => reply = .error (queryFailure report)
    | none => ∃ answer, reply = .ok answer ∧ Reports r t answer := by
  intro t issued reply
  have hissued : issued = commands t := play_commands respond (b.unit ms r) s
  have hcourse : Course b ms r t reply := course_of_held (held_transcript respond (b.unit ms r) s)
  rw [hissued]
  refine ⟨rfl, fun _ => hcourse.unbegun_last, hcourse.begun_last,
    fun _ => hcourse.begun_of_mem, ?_, fun _ => hcourse.run_once, ?_, hcourse.reports⟩
  · intro c hc hcommit
    obtain ⟨q, rfl⟩ := run_of_commit hcommit
    exact (hcourse.run_once hc).1
  · rintro q rfl c hc
    exact hcourse.probe_only hc

end QueryGate
