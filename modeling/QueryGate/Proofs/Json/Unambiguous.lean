import QueryGate.Json
import QueryGate.Proofs.Text.Digits

/-!
# Structured output is unambiguous

The compact form of a value says what it is and where it ends, whatever stands behind it: only a
number needs something else than a digit there. So no two values without floats have one text.

* `Apart text P a`: the text of `a` is told apart from that of any other `b` with `P b`, and from
  what follows.
* `listed text`: the texts of a list with commas between.
* `Json.Floatless v`: no float stands in the value.

Results:
* `apart_natText`, `apart_intText`, `Json.apart_quote`: numbers and strings.
* `listed_apart`: a list in brackets, if its members are told apart.
* `Json.Floatless.apart`: values, by induction.

Headline: **`Json.text_injective`**.
-/

namespace QueryGate

open Text

variable {α : Type} {text : α → List Char} {P : α → Prop} {r s : List Char}

/-- The text of `a` is told apart from that of any other `b` with `P b`, and from what follows. -/
def Apart (text : α → List Char) (P : α → Prop) (a : α) : Prop :=
  ∀ b, P b → ∀ r s, Stops r → Stops s → text a ++ r = text b ++ s → a = b ∧ r = s

/-! ## Numbers -/

theorem apart_natText (n : Nat) : Apart natText (fun _ => True) n := by
  intro m _ r s hr hs h
  have hdigits := congrArg (List.takeWhile isAsciiDigit) h
  have hrest := congrArg (List.dropWhile isAsciiDigit) h
  rw [takeWhile_natText n hr, takeWhile_natText m hs] at hdigits
  rw [dropWhile_natText n hr, dropWhile_natText m hs] at hrest
  exact ⟨natText_injective hdigits, hrest⟩

/-- A number that is not negative has no sign. -/
theorem natText_append_ne_minus (n : Nat) : natText n ++ r ≠ '-' :: s := by
  obtain ⟨d, ds, hd, hdigit⟩ := natText_eq_cons n
  rw [hd]
  intro h
  rw [(List.cons.inj h).1] at hdigit
  exact absurd hdigit (by decide)

theorem apart_intText (i : Int) : Apart intText (fun _ => True) i := by
  intro j _ r s hr hs h
  cases i with
  | ofNat n =>
    cases j with
    | ofNat m =>
      obtain ⟨rfl, hrest⟩ := apart_natText n m trivial r s hr hs h
      exact ⟨rfl, hrest⟩
    | negSucc m => exact absurd h (natText_append_ne_minus n)
  | negSucc n =>
    cases j with
    | ofNat m => exact absurd h.symm (natText_append_ne_minus m)
    | negSucc m =>
      obtain ⟨hnm, hrest⟩ := apart_natText (n + 1) (m + 1) trivial r s hr hs (List.cons.inj h).2
      exact ⟨congrArg Int.negSucc (Nat.succ.inj hnm), hrest⟩

/-! ## Lists -/

/-- The texts of a list with commas between. -/
def listed (text : α → List Char) : List α → List Char
  | [] => []
  | a :: as => text a ++ as.flatMap fun b => ',' :: text b

/-- The members behind the first one, up to the closing bracket. -/
theorem commas_apart {close : Char} (hclose : close ≠ ',') (hstops : isAsciiDigit close = false)
    {as : List α} (has : ∀ a ∈ as, Apart text P a) : ∀ {bs : List α}, (∀ b ∈ bs, P b) →
    (as.flatMap fun a => ',' :: text a) ++ close :: r =
      (bs.flatMap fun b => ',' :: text b) ++ close :: s → as = bs ∧ r = s := by
  have hbehind (cs : List α) (t : List Char) :
      Stops ((cs.flatMap fun c => ',' :: text c) ++ close :: t) := by
    cases cs with
    | nil => exact stops_cons.mpr hstops
    | cons c cs => exact stops_cons.mpr (by decide)
  induction as with
  | nil =>
    intro bs _ h
    cases bs with
    | nil => exact ⟨rfl, (List.cons.inj h).2⟩
    | cons b bs => exact absurd (List.cons.inj h).1 hclose
  | cons a as ih =>
    intro bs hbs h
    cases bs with
    | nil => exact absurd (List.cons.inj h).1.symm hclose
    | cons b bs =>
      obtain ⟨hfirst, hothers⟩ := List.forall_mem_cons.mp has
      obtain ⟨hb, hmore⟩ := List.forall_mem_cons.mp hbs
      rw [List.flatMap_cons, List.flatMap_cons, List.append_assoc, List.append_assoc] at h
      obtain ⟨hab, hrest⟩ := hfirst b hb _ _ (hbehind as r) (hbehind bs s) (List.cons.inj h).2
      obtain ⟨hall, hrs⟩ := ih hothers hmore hrest
      exact ⟨by rw [hab, hall], hrs⟩

/-- **A list in brackets is told apart** if its members are and none of them begins with the closing
bracket. -/
theorem listed_apart {close : Char} (hclose : close ≠ ',') (hstops : isAsciiDigit close = false)
    (hbegins : ∀ a, P a → ∀ r s, text a ++ r ≠ close :: s) {as bs : List α}
    (has : ∀ a ∈ as, P a ∧ Apart text P a) (hbs : ∀ b ∈ bs, P b)
    (h : listed text as ++ close :: r = listed text bs ++ close :: s) : as = bs ∧ r = s := by
  cases as with
  | nil =>
    cases bs with
    | nil => exact ⟨rfl, (List.cons.inj h).2⟩
    | cons b bs =>
      rw [listed, listed, List.append_assoc] at h
      exact absurd h.symm (hbegins b (hbs b List.mem_cons_self) _ _)
  | cons a as =>
    cases bs with
    | nil =>
      rw [listed, listed, List.append_assoc] at h
      exact absurd h (hbegins a (has a List.mem_cons_self).1 _ _)
    | cons b bs =>
      -- with a comma in front of both, every member stands behind one
      refine commas_apart hclose hstops (fun a ha => (has a ha).2) hbs ?_
      simpa [listed] using h

namespace Json

/-! ## Strings -/

/-- The value of a lower-case hexadecimal digit. -/
def hexDigitValue (c : Char) : Nat := if c.toNat < 58 then c.toNat - 48 else c.toNat - 87

/-- The character that an escaped text begins with, and what follows it. -/
def readEscaped? : List Char → Option (Char × List Char)
  | '\\' :: 'u' :: '0' :: '0' :: x :: y :: r =>
    some (Char.ofNat (16 * hexDigitValue x + hexDigitValue y), r)
  | '\\' :: 'b' :: r => some ('\x08', r)
  | '\\' :: 'f' :: r => some ('\x0c', r)
  | '\\' :: 'n' :: r => some ('\n', r)
  | '\\' :: 'r' :: r => some ('\r', r)
  | '\\' :: 't' :: r => some ('\t', r)
  | '\\' :: c :: r => some (c, r)
  | c :: r => some (c, r)
  | [] => none

theorem readEscaped?_plain {c : Char} (h : c ≠ '\\') (r : List Char) :
    readEscaped? (c :: r) = some (c, r) := by
  unfold readEscaped?
  split <;> simp_all

theorem hexDigitValue_hexDigit : ∀ n < 16, hexDigitValue (hexDigit n) = n := by decide

/-- **An escaped character is read back.** -/
theorem readEscaped?_escapeChar (c : Char) (r : List Char) :
    readEscaped? (escapeChar c ++ r) = some (c, r) := by
  unfold escapeChar
  split_ifs with hquote hback hb hf hn hr ht hcontrol
  · rw [hquote]; rfl
  · rw [hback]; rfl
  · rw [hb]; rfl
  · rw [hf]; rfl
  · rw [hn]; rfl
  · rw [hr]; rfl
  · rw [ht]; rfl
  · have hhigh := hexDigitValue_hexDigit (c.toNat / 16) (by omega)
    have hlow := hexDigitValue_hexDigit (c.toNat % 16) (by omega)
    have hsum : 16 * (c.toNat / 16) + c.toNat % 16 = c.toNat := Nat.div_add_mod ..
    show some (Char.ofNat _, r) = _
    rw [hhigh, hlow, hsum, Char.ofNat_toNat]
  · exact readEscaped?_plain hback r

/-- No escaped character begins with a quote. -/
theorem escapeChar_append_ne_quote (c : Char) : escapeChar c ++ r ≠ '"' :: s := by
  unfold escapeChar
  intro h
  split_ifs at h with hquote
  all_goals have hfirst := (List.cons.inj h).1
  all_goals first
    | exact hquote hfirst
    | exact absurd hfirst (by decide)

/-- An escaped text ends at the first quote. -/
theorem escape_apart {cs ds : List Char}
    (h : escape cs ++ '"' :: r = escape ds ++ '"' :: s) : cs = ds ∧ r = s := by
  induction cs generalizing ds with
  | nil =>
    cases ds with
    | nil => exact ⟨rfl, (List.cons.inj h).2⟩
    | cons d ds =>
      rw [escape, escape, List.append_assoc] at h
      exact absurd h.symm (escapeChar_append_ne_quote d)
  | cons c cs ih =>
    cases ds with
    | nil =>
      rw [escape, escape, List.append_assoc] at h
      exact absurd h (escapeChar_append_ne_quote c)
    | cons d ds =>
      rw [escape, escape, List.append_assoc, List.append_assoc] at h
      have hread := congrArg readEscaped? h
      rw [readEscaped?_escapeChar, readEscaped?_escapeChar] at hread
      obtain ⟨rfl, hrest⟩ := Prod.mk.inj (Option.some.inj hread)
      obtain ⟨rfl, hrs⟩ := ih hrest
      exact ⟨rfl, hrs⟩

theorem quote_apart {k l : String} (h : quote k ++ r = quote l ++ s) : k = l ∧ r = s := by
  rw [quote, quote, List.cons_append, List.cons_append, List.append_assoc, List.append_assoc] at h
  obtain ⟨hkl, hrs⟩ := escape_apart (List.cons.inj h).2
  exact ⟨String.toList_inj.mp hkl, hrs⟩

/-! ## Values -/

/-- No float stands in the value. -/
inductive Floatless : Json → Prop
  | null : Floatless .null
  | bool (b : Bool) : Floatless (.bool b)
  | int (i : Int) : Floatless (.int i)
  | str (s : String) : Floatless (.str s)
  | arr {items : List Json} (h : ∀ v ∈ items, v.Floatless) : Floatless (.arr items)
  | obj {fields : List (String × Json)} (h : ∀ f ∈ fields, f.2.Floatless) : Floatless (.obj fields)

/-- A field of an object. -/
def fieldText (f : String × Json) : List Char := quote f.1 ++ ':' :: f.2.compact

theorem compactItems_eq (items : List Json) : compactItems items = listed compact items := by
  induction items with
  | nil => rfl
  | cons v items ih =>
    cases items with
    | nil => simp [compactItems, listed]
    | cons w items => simp [compactItems, listed, ih]

theorem compactFields_eq (fields : List (String × Json)) :
    compactFields fields = listed fieldText fields := by
  induction fields with
  | nil => rfl
  | cons f fields ih =>
    cases fields with
    | nil => simp [compactFields, listed, fieldText]
    | cons g fields => simp [compactFields, listed, fieldText, ih]

/-- What can be seen of a value at its first character. -/
inductive Kind where
  | null
  | bool (b : Bool)
  | number
  | str
  | arr
  | obj

def kind : Json → Kind
  | .null => .null
  | .bool b => .bool b
  | .int _ => .number
  | .float _ => .number
  | .str _ => .str
  | .arr _ => .arr
  | .obj _ => .obj

/-- The kind of the values that begin with this character. -/
def kindOf? (c : Char) : Option Kind :=
  if c = '-' ∨ isAsciiDigit c = true then some .number
  else if c = 'n' then some .null
  else if c = 't' then some (.bool true)
  else if c = 'f' then some (.bool false)
  else if c = '"' then some .str
  else if c = '[' then some .arr
  else if c = '{' then some .obj
  else none

theorem Floatless.begins {v : Json} (h : v.Floatless) :
    ∃ c cs, v.compact = c :: cs ∧ kindOf? c = some v.kind := by
  cases h with
  | bool b => cases b <;> exact ⟨_, _, rfl, rfl⟩
  | int i =>
    cases i with
    | ofNat n =>
      obtain ⟨d, ds, hd, hdigit⟩ := natText_eq_cons n
      exact ⟨d, ds, hd, if_pos (.inr hdigit)⟩
    | negSucc n => exact ⟨_, _, rfl, rfl⟩
  | _ => exact ⟨_, _, rfl, rfl⟩

/-- Values with one text are of one kind. -/
theorem Floatless.kind_eq {v w : Json} (hv : v.Floatless) (hw : w.Floatless)
    (h : v.compact ++ r = w.compact ++ s) : v.kind = w.kind := by
  obtain ⟨c, cs, hc, hv⟩ := hv.begins
  obtain ⟨d, ds, hd, hw⟩ := hw.begins
  rw [hc, hd] at h
  rw [← Option.some_inj, ← hv, ← hw, (List.cons.inj h).1]

/-- No value begins with a closing bracket. -/
theorem Floatless.append_ne_bracket {v : Json} (hv : v.Floatless) : v.compact ++ r ≠ ']' :: s := by
  obtain ⟨c, cs, hc, hkind⟩ := hv.begins
  rw [hc]
  intro h
  rw [(List.cons.inj h).1] at hkind
  exact absurd hkind (by simp [kindOf?, isAsciiDigit])

theorem apart_fieldText {f : String × Json} (h : Apart compact Floatless f.2) :
    Apart fieldText (fun g => g.2.Floatless) f := by
  intro g hg r s hr hs htext
  rw [fieldText, fieldText, List.append_assoc, List.append_assoc] at htext
  obtain ⟨hkey, hvalue⟩ := quote_apart htext
  obtain ⟨hvalue, hrs⟩ := h g.2 hg r s hr hs (List.cons.inj hvalue).2
  exact ⟨Prod.ext hkey hvalue, hrs⟩

/-- **A value is told apart from every other one**, and from what follows. -/
theorem Floatless.apart {v : Json} (hv : v.Floatless) : Apart compact Floatless v := by
  induction hv with
  | null =>
    intro w hw r s _ _ h
    have hkind := Floatless.null.kind_eq hw h
    cases hw with
    | null => exact ⟨rfl, List.append_cancel_left h⟩
    | _ => cases hkind
  | bool b =>
    intro w hw r s _ _ h
    have hkind := (Floatless.bool b).kind_eq hw h
    cases hw with
    | bool =>
      cases hkind
      exact ⟨rfl, List.append_cancel_left h⟩
    | _ => cases hkind
  | int i =>
    intro w hw r s hr hs h
    have hkind := (Floatless.int i).kind_eq hw h
    cases hw with
    | int j =>
      obtain ⟨rfl, hrs⟩ := apart_intText i j trivial r s hr hs h
      exact ⟨rfl, hrs⟩
    | _ => cases hkind
  | str k =>
    intro w hw r s _ _ h
    have hkind := (Floatless.str k).kind_eq hw h
    cases hw with
    | str l =>
      obtain ⟨rfl, hrs⟩ := quote_apart h
      exact ⟨rfl, hrs⟩
    | _ => cases hkind
  | @arr items hitems ih =>
    intro w hw r s _ _ h
    have hkind := (Floatless.arr hitems).kind_eq hw h
    cases hw with
    | @arr others hothers =>
      rw [compact, compact, compactItems_eq, compactItems_eq] at h
      simp only [List.cons_append, List.append_assoc, List.nil_append, List.cons.injEq,
        true_and] at h
      obtain ⟨rfl, hrs⟩ := listed_apart (by decide) (by decide)
        (fun _ hv _ _ => hv.append_ne_bracket) (fun v hv => ⟨hitems v hv, ih v hv⟩) hothers h
      exact ⟨rfl, hrs⟩
    | _ => cases hkind
  | @obj fields hfields ih =>
    intro w hw r s _ _ h
    have hkind := (Floatless.obj hfields).kind_eq hw h
    cases hw with
    | @obj others hothers =>
      rw [compact, compact, compactFields_eq, compactFields_eq] at h
      simp only [List.cons_append, List.append_assoc, List.nil_append, List.cons.injEq,
        true_and] at h
      obtain ⟨rfl, hrs⟩ := listed_apart (by decide) (by decide)
        (fun _ _ _ _ hquote => absurd (List.cons.inj hquote).1 (by decide))
        (fun f hf => ⟨hfields f hf, apart_fieldText (ih f hf)⟩) hothers h
      exact ⟨rfl, hrs⟩
    | _ => cases hkind

/-- **Values without floats that have one text are equal.** -/
theorem text_injective {v w : Json} (hv : v.Floatless) (hw : w.Floatless) (h : v.text = w.text) :
    v = w := by
  have htext : v.compact ++ [] = w.compact ++ [] := by
    rw [List.append_nil, List.append_nil]
    exact String.ofList_inj.mp h
  exact (hv.apart w hw [] [] (by simp [Stops]) (by simp [Stops]) htext).1

end Json

end QueryGate
