import QueryGate.Proofs.Admission.Tables
import QueryGate.Proofs.Admission.Verdict
import QueryGate.Proofs.Text.Nesting

/-!
# Which of the named tables admission looks at

A statement names a table by an identifier behind `FROM` or `JOIN`, or behind the comma of a list of
tables. The scan of admission reads a run of word characters and backticks behind one of the two
words and a gap, so it looks at some of the named tables only.

* `Identifier raw after`: a longest run of word characters, or a name in backticks.
* `Named s before raw after`: the identifier names a table of `s`.
* `Guarded s before raw after`: it is what the scan reads at its place.

* `Unread s before raw after`: one of five reasons why the scan does not read it.

Headline: **`named_allowed_iff`**: every guarded name of an admitted statement is allow-listed, so
all tables that it names are allow-listed iff those are that the scan does not read.
`listed_table_leaks` and `unread_tables_leak` have a statement for each of the five reasons that is
admitted with a table of another name.
-/

namespace QueryGate.Sql

open Text

/-! ## Named tables -/

/-- The inside of a name in backticks: any backtick in it is doubled. -/
inductive QuotedBody : Sql → Prop
  | nil : QuotedBody []
  | char {c : Char} {s : Sql} (ne : c ≠ '\x60') (more : QuotedBody s) : QuotedBody (c :: s)
  | pair {s : Sql} (more : QuotedBody s) : QuotedBody ('\x60' :: '\x60' :: s)

/-- The text `raw` before `after` is an identifier: a longest run of word characters, or a name in
backticks. -/
inductive Identifier : Sql → Sql → Prop
  | plain {raw after : Sql} (ne_nil : raw ≠ []) (chars : ∀ c ∈ raw, isWord c = true)
      (ends : endsWord after = true) : Identifier raw after
  | quoted {body after : Sql} (inside : QuotedBody body) (ends : after.head? ≠ some '\x60') :
      Identifier ('\x60' :: (body ++ ['\x60'])) after

/-- In `s`, between `before` and `after`, the identifier `raw` names a table. -/
inductive Named (s : Sql) : Sql → Sql → Sql → Prop
  /-- Behind a whole word `FROM` or `JOIN`, where blanks may be missing before a backtick. -/
  | lead {b w gap raw after : Sql} (text : s = b ++ (w ++ gap ++ raw ++ after))
      (lead : SpellsLead w) (begins : beginsWord b = true)
      (whole : endsWord (gap ++ raw ++ after) = true) (blank : AllBlank gap)
      (identifier : Identifier raw after) : Named s (b ++ w ++ gap) raw after
  /-- Behind the comma that follows a named table. -/
  | listed {b first gap gap' raw after : Sql}
      (named : Named s b first (gap ++ ',' :: (gap' ++ raw ++ after))) (blank : AllBlank gap)
      (blank' : AllBlank gap') (identifier : Identifier raw after) :
      Named s (b ++ first ++ gap ++ ',' :: gap') raw after

/-- The word `w` behind `b`, with `rest` behind it, is the end of a name that stands behind an
earlier `FROM` or `JOIN`. -/
def Swallowed (s b w rest : Sql) : Prop :=
  ∃ before w' gap' x, b = before ++ (w' ++ gap' ++ x) ∧ TableRef s before w' gap' (x ++ w) rest

/-- The identifier is what the scan reads at its place: it stands behind `FROM` or `JOIN` and a gap,
it is a whole run of characters of table names, and its keyword is not swallowed. -/
def Guarded (s before raw after : Sql) : Prop :=
  ∃ b w gap, before = b ++ w ++ gap ∧ TableRef s b w gap raw after ∧
    ¬ Swallowed s b w (gap ++ raw ++ after)

/-- Why the scan does not read an identifier of `s`. -/
inductive Unread (s : Sql) : Sql → Sql → Sql → Prop
  /-- It is listed behind a comma. -/
  | listed {b gap raw after : Sql} (blank : AllBlank gap) : Unread s (b ++ ',' :: gap) raw after
  /-- No blank stands between it and its keyword. -/
  | glued {b w raw after : Sql} (lead : SpellsLead w) : Unread s (b ++ w) raw after
  /-- It has an odd character. -/
  | odd {before raw after : Sql} {c : Char} (mem : c ∈ raw) (odd : isNameChar c = false) :
      Unread s before raw after
  /-- A word or a backtick follows at once. -/
  | runsOn {before raw after : Sql} {c : Char} (next : c ∈ after.head?)
      (more : isNameChar c = true) : Unread s before raw after
  /-- Its keyword is the end of another name. -/
  | swallowed {b w gap raw after : Sql} (lead : SpellsLead w) (blank : AllBlank gap)
      (inName : Swallowed s b w (gap ++ raw ++ after)) : Unread s (b ++ w ++ gap) raw after

theorem Identifier.ne_nil {raw after : Sql} (h : Identifier raw after) : raw ≠ [] := by
  cases h with
  | plain hne => exact hne
  | quoted => exact List.cons_ne_nil _ _

/-- **A named table is guarded unless the scan does not read it** for one of the five reasons. -/
theorem Named.guarded_or_unread {s before raw after : Sql} (h : Named s before raw after) :
    Guarded s before raw after ∨ Unread s before raw after := by
  cases h with
  | listed _ _ hblank' _ => exact Or.inr (.listed hblank')
  | @lead b w gap _ _ htext hlead hbegins _ hblank hid =>
    by_cases hgap : gap = []
    · rw [hgap, List.append_nil]
      exact Or.inr (.glued hlead)
    by_cases hodd : ∃ c ∈ raw, isNameChar c = false
    · obtain ⟨c, hc, hodd⟩ := hodd
      exact Or.inr (.odd hc hodd)
    by_cases hnext : ∃ c ∈ after.head?, isNameChar c = true
    · obtain ⟨c, hc, hnext⟩ := hnext
      exact Or.inr (.runsOn hc hnext)
    by_cases hin : Swallowed s b w (gap ++ raw ++ after)
    · exact Or.inr (.swallowed hlead hblank hin)
    · have hrun : NameRun raw after :=
        ⟨hid.ne_nil, fun c hc => Bool.not_eq_false _ ▸ fun h => hodd ⟨c, hc, h⟩,
          fun c hc => Bool.not_eq_true _ ▸ fun h => hnext ⟨c, hc, h⟩⟩
      exact Or.inl ⟨b, w, gap, rfl, ⟨htext, hlead, hbegins, hgap, hblank, hrun⟩, hin⟩

/-! ## Places in the core -/

section TableRef

variable {s c front trail before w gap name after : Sql} {heads : List (Sql × Sql)}

theorem TableRef.not_explain (h : TableRef s before w gap name after) :
    startsWord explainWord (w ++ gap ++ name ++ after) = false := by
  have hends : endsWord (gap ++ name ++ after) = true := by
    rw [List.append_assoc]
    exact endsWord_of_gap h.blank h.gap_ne _
  have hcut : w ++ gap ++ name ++ after = w ++ (gap ++ name ++ after) := by
    simp only [List.append_assoc]
  rcases h.lead with hw | hw
  · exact not_explain_of_stripWord? proper_fromWord (by decide)
      (stripWord?_eq_some_iff.mpr ⟨w, hw, hcut, hends⟩)
  · exact not_explain_of_stripWord? proper_joinWord (by decide)
      (stripWord?_eq_some_iff.mpr ⟨w, hw, hcut, hends⟩)

/-- **A name stands in the whole text iff it stands behind the front.** -/
theorem Front.tableRef_iff (hf : Front front s) :
    TableRef (front ++ s) before w gap name after ↔
      ∃ b, before = front ++ b ∧ TableRef s b w gap name after := by
  constructor
  · intro h
    obtain ⟨b, rfl, hs⟩ := hf.place h.text h.begins h.not_endsWord h.not_explain
    exact ⟨b, rfl, hs, h.lead, beginsWord_of_append h.begins, h.gap_ne, h.blank, h.run⟩
  · rintro ⟨b, rfl, h⟩
    refine ⟨?_, h.lead, hf.begins h.text h.begins h.not_endsWord, h.gap_ne, h.blank, h.run⟩
    conv => lhs; rw [h.text]
    simp only [List.append_assoc]

/-- Blanks at the end belong to no name. -/
theorem tableRef_append_blank_iff (ht : AllBlank trail) :
    TableRef (s ++ trail) before w gap name after ↔
      ∃ rest, after = rest ++ trail ∧ TableRef s before w gap name rest := by
  constructor
  · intro h
    have hs := h.text
    rw [← List.append_assoc] at hs
    rcases List.append_eq_append_iff.mp hs with ⟨x, hx, htrail⟩ | ⟨rest, rfl, rfl⟩
    · -- the last character of the name would be a blank
      have hnil : x = [] := by
        by_contra hne
        obtain ⟨init, d, rfl⟩ := (List.eq_nil_or_concat x).resolve_left hne
        obtain ⟨front', e, hlast⟩ := (List.eq_nil_or_concat name).resolve_left h.run.ne_nil
        rw [List.concat_eq_append] at hx htrail hlast
        have hblank : isBlank d = true := ht d (by rw [htrail]; simp)
        have hname : isNameChar e = true := h.run.chars e (by rw [hlast]; simp)
        rw [hlast] at hx
        have hed : e = d := by simpa using congrArg List.getLast? hx
        rw [hed, isNameChar_of_isBlank hblank] at hname
        exact Bool.false_ne_true hname
      rw [hnil, List.nil_append] at htrail
      rw [hnil, List.append_nil] at hx
      refine ⟨[], htrail.symm, ?_, h.lead, h.begins, h.gap_ne, h.blank, h.run.ne_nil, h.run.chars,
        fun _ hc => absurd hc (by simp)⟩
      rw [← hx, List.append_nil]
    · refine ⟨rest, rfl, by simp only [List.append_assoc], h.lead, h.begins, h.gap_ne, h.blank,
        h.run.ne_nil, h.run.chars, ?_⟩
      intro d hd
      refine h.run.ends d ?_
      obtain ⟨rest', rfl⟩ := List.head?_eq_some_iff.mp hd
      rfl
  · rintro ⟨rest, rfl, h⟩
    refine ⟨by rw [h.text]; simp only [List.append_assoc], h.lead, h.begins, h.gap_ne, h.blank,
      h.run.ne_nil, h.run.chars, ?_⟩
    cases rest with
    | nil => exact fun d hd => isNameChar_of_isBlank (ht d (List.mem_of_head? hd))
    | cons d rest => exact h.run.ends

/-- **The names of the submitted text stand in its core.** -/
theorem Layers.tableRef_of_trim (h : Layers heads (trim s) c) : ∃ front trail,
    ∀ before w gap name after, TableRef s before w gap name after ↔
      ∃ b rest, before = front ++ b ∧ after = rest ++ trail ∧ TableRef c b w gap name rest := by
  obtain ⟨front, trail, hs, hf, ht⟩ := h.front_of_trim
  refine ⟨front, trail, fun before w gap name after => ?_⟩
  rw [hs, hf.tableRef_iff]
  simp only [tableRef_append_blank_iff ht]
  constructor
  · rintro ⟨b, hb, rest, hrest, href⟩; exact ⟨b, rest, hb, hrest, href⟩
  · rintro ⟨b, rest, hb, hrest, href⟩; exact ⟨b, hb, rest, hrest, href⟩

/-- **The scan of the core finds every guarded name** of the submitted text. -/
theorem Guarded.mem_tableNames {raw : Sql} (hg : Guarded s before raw after)
    (hl : Layers heads (trim s) c) : tableName raw ∈ c.tableNames := by
  obtain ⟨front, trail, hplace⟩ := hl.tableRef_of_trim
  obtain ⟨b, w, gap, -, href, hfree⟩ := hg
  obtain ⟨b, rest, rfl, rfl, hcore⟩ := (hplace ..).mp href
  rw [tableNames_eq]
  rcases mem_or_swallowed hcore with hmem | ⟨before', w', gap', x, rfl, href', -⟩
  · exact List.mem_map_of_mem hmem
  · refine absurd ⟨front ++ before', w', gap', x, (List.append_assoc ..).symm, ?_⟩ hfree
    refine (hplace ..).mpr ⟨before', _, rfl, ?_, href'⟩
    simp only [List.append_assoc]

end TableRef

end QueryGate.Sql

namespace QueryGate.Gate

open Text Sql

variable {g : Gate} {sql q : Sql}

/-- **The tables that admission does not look at.** Every guarded name of an admitted statement is
allow-listed. So all tables that it names are allow-listed iff those are that the scan does not
read. -/
theorem named_allowed_iff (hq : g.judge .standard sql = .accepted q) :
    (∀ before raw after, Named sql before raw after →
        g.allowed.contains (tableName raw) = true) ↔
      ∀ before raw after, Named sql before raw after → Unread sql before raw after →
        g.allowed.contains (tableName raw) = true := by
  obtain ⟨heads, c, ha, -⟩ := judge_eq_accepted_iff.mp hq
  constructor
  · exact fun h before raw after hn _ => h before raw after hn
  · intro h before raw after hn
    rcases hn.guarded_or_unread with hg | hu
    · exact ha.tables rfl _ (hg.mem_tableNames ha.layers)
    · exact h before raw after hn hu

/-- A statement that is admitted. -/
theorem named_allowed_iff_sample :
    Gate.judge {} .standard "SELECT * FROM sample_orders LIMIT 1".toList =
        .accepted "SELECT * FROM sample_orders LIMIT 1".toList ∧
      ((∀ before raw after, Named "SELECT * FROM sample_orders LIMIT 1".toList before raw after →
          AllowList.sample.contains (tableName raw) = true) ↔
        ∀ before raw after, Named "SELECT * FROM sample_orders LIMIT 1".toList before raw after →
          Unread "SELECT * FROM sample_orders LIMIT 1".toList before raw after →
            AllowList.sample.contains (tableName raw) = true) := by
  have hq : Gate.judge {} .standard "SELECT * FROM sample_orders LIMIT 1".toList =
      .accepted "SELECT * FROM sample_orders LIMIT 1".toList := by decide +kernel
  exact ⟨hq, named_allowed_iff hq⟩

/-- A standard caller's statement, without comments and literals, is admitted although it names a
table that is not allow-listed. -/
structure Leaks (g : Gate) (sql : Sql) : Prop where
  accepted : ∃ q, g.judge .standard sql = .accepted q
  balanced : nesting 0 sql = some 0
  uncommented : Uncommented sql
  unquoted : Unquoted sql
  named : ∃ before raw after, Named sql before raw after ∧
    g.allowed.contains (tableName raw) = false

/-- **A table behind a comma leaks.** -/
theorem listed_table_leaks : Leaks {} "SELECT * FROM sample_customers, users".toList where
  accepted := ⟨"SELECT * FROM sample_customers, users LIMIT 1000".toList, by decide +kernel⟩
  balanced := by decide
  uncommented := by decide
  unquoted := by decide
  named := by
    have hfirst : Named "SELECT * FROM sample_customers, users".toList "SELECT * FROM ".toList
        "sample_customers".toList ", users".toList :=
      @Named.lead _ "SELECT * ".toList "FROM".toList " ".toList _ _ (by decide) (by decide)
        (by decide) (by decide) (by decide) (.plain (by decide) (by decide) (by decide))
    have hsecond : Named "SELECT * FROM sample_customers, users".toList
        ("SELECT * FROM ".toList ++ "sample_customers".toList ++ [] ++ ',' :: " ".toList)
        "users".toList [] :=
      .listed hfirst (by decide) (by decide) (.plain (by decide) (by decide) (by decide))
    exact ⟨_, _, _, hsecond, by decide +kernel⟩

/-- The inside of a name in backticks that has no backtick. -/
theorem quotedBody_of_not_mem {s : Sql} (h : '\x60' ∉ s) : QuotedBody s := by
  induction s with
  | nil => exact .nil
  | cons c s ih =>
    rw [List.mem_cons, not_or] at h
    exact .char (Ne.symm h.1) (ih h.2)

/-- **None of the other reasons is idle**: a glued name, an odd one, one that runs on and one behind
a swallowed keyword leak as well. -/
theorem unread_tables_leak :
    Leaks {} "SELECT * FROM\x60users\x60".toList ∧
      Leaks {} "SELECT * FROM \x60sample_orders-old\x60".toList ∧
      Leaks {} "SELECT * FROM sample_\x60orders\x60".toList ∧
      Leaks { allowed := .ofNames ["from".toList] } "SELECT * FROM from users".toList := by
  have hglued : Named "SELECT * FROM\x60users\x60".toList "SELECT * FROM".toList
      "\x60users\x60".toList [] :=
    @Named.lead _ "SELECT * ".toList "FROM".toList [] _ _ (by decide) (by decide) (by decide)
      (by decide) (by decide)
      (.quoted (quotedBody_of_not_mem (s := "users".toList) (by decide)) (by decide))
  have hodd : Named "SELECT * FROM \x60sample_orders-old\x60".toList "SELECT * FROM ".toList
      "\x60sample_orders-old\x60".toList [] :=
    @Named.lead _ "SELECT * ".toList "FROM".toList " ".toList _ _ (by decide) (by decide)
      (by decide) (by decide) (by decide)
      (.quoted (quotedBody_of_not_mem (s := "sample_orders-old".toList) (by decide)) (by decide))
  have hrunsOn : Named "SELECT * FROM sample_\x60orders\x60".toList "SELECT * FROM ".toList
      "sample_".toList "\x60orders\x60".toList :=
    @Named.lead _ "SELECT * ".toList "FROM".toList " ".toList _ _ (by decide) (by decide)
      (by decide) (by decide) (by decide) (.plain (by decide) (by decide) (by decide))
  have hswallowed : Named "SELECT * FROM from users".toList "SELECT * FROM from ".toList
      "users".toList [] :=
    @Named.lead _ "SELECT * FROM ".toList "from".toList " ".toList _ _ (by decide) (by decide)
      (by decide) (by decide) (by decide) (.plain (by decide) (by decide) (by decide))
  refine ⟨⟨⟨"SELECT * FROM\x60users\x60 LIMIT 1000".toList, ?_⟩, ?_, ?_, ?_, _, _, _, hglued, ?_⟩,
    ⟨⟨"SELECT * FROM \x60sample_orders-old\x60 LIMIT 1000".toList, ?_⟩, ?_, ?_, ?_, _, _, _, hodd,
      ?_⟩,
    ⟨⟨"SELECT * FROM sample_\x60orders\x60 LIMIT 1000".toList, ?_⟩, ?_, ?_, ?_, _, _, _, hrunsOn,
      ?_⟩,
    ⟨⟨"SELECT * FROM from users LIMIT 1000".toList, ?_⟩, ?_, ?_, ?_, _, _, _, hswallowed, ?_⟩⟩
  all_goals decide +kernel

end QueryGate.Gate
