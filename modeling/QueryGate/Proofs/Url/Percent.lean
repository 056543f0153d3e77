import QueryGate.Url.Basic

/-!
# What percent-encoding leaves

A text that was encoded for some part of a URL may stand there as it is: encoding it once more
changes nothing.

* `Plain set cs`: all characters of `cs` may stand in the part of a URL with the set `set`.
* `codeChars`: the characters that an encoded character is made of.

Results:
* `mem_encode`: a character of an encoded text stood there before, or belongs to a code.
* `plain_encode`, `encode_of_plain`: what was encoded is plain, and what is plain is not changed.
* `encode_of_isDot`: no segment of a path becomes a dot by encoding.
-/

namespace QueryGate.Url

open Text

/-- All characters of the text may stand in the part of a URL with this set. -/
def Plain (set : EncodeSet) (cs : List Char) : Prop := ∀ c ∈ cs, set c = false ∧ c.toNat < 128

instance (set : EncodeSet) (cs : List Char) : Decidable (Plain set cs) :=
  inferInstanceAs (Decidable (∀ c ∈ cs, _))

/-- A character that the set leaves alone is none of the set. -/
theorem ne_of_set {set : EncodeSet} {c x : Char} (hc : set c = false) (hx : set x = true) :
    c ≠ x := by
  rintro rfl
  exact absurd (hc.symm.trans hx) Bool.false_ne_true

/-- A character that may stand in a path is visible. -/
theorem visible_of_path {c : Char} (h : EncodeSet.path c = false) : 32 < c.toNat := by
  have hcontrol : ¬ c.toNat < 32 := by
    simp only [EncodeSet.path, EncodeSet.controls, Bool.or_eq_false_iff,
      decide_eq_false_iff_not] at h
    exact h.1.1
  have hblank : c.toNat ≠ 32 := fun heq =>
    ne_of_set (x := ' ') h (by decide) (by rw [← Char.ofNat_toNat c, heq])
  omega

theorem path_of_userinfo {c : Char} (h : EncodeSet.userinfo c = false) :
    EncodeSet.path c = false := by
  simp only [EncodeSet.userinfo, Bool.or_eq_false_iff] at h
  exact h.1

/-- The characters of which an encoded character is made. -/
def codeChars : List Char := '%' :: (List.range 16).map upperHex

variable {set : EncodeSet} {cs : List Char} {c : Char}

theorem upperHex_mem {n : Nat} (h : n < 16) : upperHex n ∈ codeChars :=
  List.mem_cons_of_mem _ (List.mem_map_of_mem (List.mem_range.mpr h))

theorem mem_codeChars_of_byte {b : UInt8} (h : c ∈ encodeByte b) : c ∈ codeChars := by
  have hb : b.toNat < 256 := b.toNat_lt
  rcases List.mem_cons.mp h with rfl | h
  · exact List.mem_cons_self
  rcases List.mem_cons.mp h with rfl | h
  · exact upperHex_mem (by omega)
  · obtain rfl := List.mem_singleton.mp h
    exact upperHex_mem (by omega)

/-- A character that is not encoded stands for itself. -/
theorem encodeChar_of_plain (hset : set c = false) (hascii : c.toNat < 128) :
    encodeChar set c = [c] := by
  rw [encodeChar, if_neg]
  simpa [hset] using hascii

/-- What is left of a character. -/
theorem encodeChar_cases (set : EncodeSet) (c : Char) :
    (set c = false ∧ c.toNat < 128 ∧ encodeChar set c = [c]) ∨
      (set c = true ∨ 128 ≤ c.toNat) ∧
        encodeChar set c = (String.utf8EncodeChar c).flatMap encodeByte := by
  by_cases h : set c = true ∨ 128 ≤ c.toNat
  · exact Or.inr ⟨h, if_pos (by simpa using h)⟩
  · have hset : set c = false := by simpa using fun hs => h (Or.inl hs)
    have hascii : c.toNat < 128 := Nat.lt_of_not_le fun hle => h (Or.inr hle)
    exact Or.inl ⟨hset, hascii, encodeChar_of_plain hset hascii⟩

/-- **A character of an encoded text stood there before, or belongs to a code.** -/
theorem mem_encode (h : c ∈ encode set cs) :
    (c ∈ cs ∧ set c = false ∧ c.toNat < 128) ∨ c ∈ codeChars := by
  obtain ⟨x, hx, hc⟩ := List.mem_flatMap.mp h
  rcases encodeChar_cases set x with ⟨hset, hascii, henc⟩ | ⟨-, henc⟩
  · rw [henc] at hc
    obtain rfl := List.mem_singleton.mp hc
    exact Or.inl ⟨hx, hset, hascii⟩
  · rw [henc] at hc
    obtain ⟨b, -, hb⟩ := List.mem_flatMap.mp hc
    exact Or.inr (mem_codeChars_of_byte hb)

/-- **What was encoded is plain**, if the set leaves the codes alone. -/
theorem plain_encode (hset : Plain set codeChars) (cs : List Char) : Plain set (encode set cs) :=
  fun c hc => (mem_encode hc).elim (fun h => h.2) (hset c)

/-- **What is plain is not changed.** -/
theorem encode_of_plain (h : Plain set cs) : encode set cs = cs := by
  induction cs with
  | nil => rfl
  | cons c cs ih =>
    obtain ⟨hset, hascii⟩ := h c List.mem_cons_self
    rw [encode, List.flatMap_cons, encodeChar_of_plain hset hascii]
    exact congrArg (c :: ·) (ih fun x hx => h x (List.mem_cons_of_mem _ hx))

theorem utf8EncodeChar_ne_nil (c : Char) : String.utf8EncodeChar c ≠ [] := by
  unfold String.utf8EncodeChar
  dsimp only
  split
  · simp
  split
  · simp
  split <;> simp

theorem encode_eq_nil_iff : encode set cs = [] ↔ cs = [] := by
  constructor
  · intro h
    cases cs with
    | nil => rfl
    | cons c cs =>
      have hc : encodeChar set c = [] := (List.append_eq_nil_iff.mp h).1
      rcases encodeChar_cases set c with ⟨-, -, henc⟩ | ⟨-, henc⟩
      · exact absurd (henc.symm.trans hc) (by simp)
      · obtain ⟨b, bs, hb⟩ := List.exists_cons_of_ne_nil (utf8EncodeChar_ne_nil c)
        rw [henc, hb] at hc
        exact absurd hc (by simp [encodeByte])
  · rintro rfl
    rfl

/-! ## Dots -/

/-- A segment of a path that stands for a step: none, or one upward. -/
def isDot (seg : List Char) : Bool := isSingleDot seg || isDoubleDot seg

/-- The spellings of dots, in lower case. -/
def dotTexts : List (List Char) :=
  [".", "%2e", "..", "%2e%2e", "%2e.", ".%2e"].map String.toList

theorem mem_dotTexts {seg : List Char} (h : isDot seg = true) :
    seg.map lowerAscii ∈ dotTexts := by
  simp only [isDot, isSingleDot, isDoubleDot, Bool.or_eq_true, beq_iff_eq, List.any_cons,
    List.any_nil, Bool.or_false] at h
  rcases h with (rfl | h) | h | h | h | h
  · decide
  all_goals rw [h]; decide

/-- The first byte of a character is no point, unless the character is one. -/
theorem eq_point_of_byte {b : UInt8} {bs : List UInt8} (h : String.utf8EncodeChar c = b :: bs)
    (hb : b.toNat = 46) : c = '.' := by
  unfold String.utf8EncodeChar at h
  dsimp only at h
  split at h
  · obtain rfl := (List.cons.inj h).1
    have hc : c.val.toNat = 46 := by
      rw [UInt8.toNat_ofNat'] at hb
      omega
    exact Char.ext (UInt32.toNat_inj.mp hc)
  all_goals
    exfalso
    repeat' split at h
    all_goals
      obtain rfl := (List.cons.inj h).1
      rw [UInt8.toNat_ofNat'] at hb
      omega

/-- In a spelling of dots a code is that of a point. -/
theorem point_of_dotTexts : ∀ s ∈ dotTexts, ∀ i < 6, s[i]? = some '%' →
    s[i + 1]? = some '2' ∧ s[i + 2]? = some 'e' := by decide

theorem length_of_dotTexts : ∀ s ∈ dotTexts, s.length ≤ 6 := by decide

theorem lower_upperHex : ∀ n < 16, (lowerAscii (upperHex n) = '2' → n = 2) ∧
    (lowerAscii (upperHex n) = 'e' → n = 14) := by decide

/-- **No segment becomes a dot by encoding.** -/
theorem encode_of_isDot {seg : List Char} (h : isDot (encode .path seg) = true) :
    encode .path seg = seg := by
  have htext := mem_dotTexts h
  refine encode_of_plain ?_
  refine Decidable.byContradiction fun hplain => ?_
  -- Some character of the segment was encoded. It would have to be a point.
  obtain ⟨c, hc, henc⟩ : ∃ c ∈ seg, ¬(EncodeSet.path c = false ∧ c.toNat < 128) := by
    simpa [Plain] using hplain
  obtain ⟨a, b, rfl⟩ := List.append_of_mem hc
  rcases encodeChar_cases .path c with ⟨hset, hascii, -⟩ | ⟨hcode, hchar⟩
  · exact henc ⟨hset, hascii⟩
  obtain ⟨byte, bytes, hbyte⟩ := List.exists_cons_of_ne_nil (utf8EncodeChar_ne_nil c)
  obtain ⟨rest, hrest⟩ : ∃ rest, encode .path (a ++ c :: b) = encode .path a ++
      '%' :: upperHex (byte.toNat / 16) :: upperHex (byte.toNat % 16) :: rest := by
    refine ⟨bytes.flatMap encodeByte ++ encode .path b, ?_⟩
    rw [encode, encode, List.flatMap_append, List.flatMap_cons, hchar, hbyte]
    rfl
  rw [hrest] at htext
  have hlt := byte.toNat_lt
  obtain ⟨hhigh, hlow⟩ := point_of_dotTexts _ htext (encode .path a).length
    (Nat.lt_of_lt_of_le (by simp) (length_of_dotTexts _ htext)) (by simp [lowerAscii])
  have hhigh := (lower_upperHex (byte.toNat / 16) (by omega)).1 (by simpa using hhigh)
  have hlow := (lower_upperHex (byte.toNat % 16) (by omega)).2 (by simpa using hlow)
  obtain rfl := eq_point_of_byte hbyte (by omega)
  exact henc (by decide)

end QueryGate.Url
