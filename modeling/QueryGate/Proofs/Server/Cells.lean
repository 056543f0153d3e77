import Mathlib.Algebra.Group.Int.Defs
import Mathlib.Algebra.Group.Nat.Defs
import QueryGate.Proofs.Text.Integers
import QueryGate.Server.Cell

/-!
# What a value tells of its cell

A cell of a column of integers holds a number, however its digits are spelled; any other cell holds
its bytes. The value that is read from a cell gives back what the cell holds, with one exception:
of a number that is read as a truth value only that it is zero or that it is not. Floats, dates and
times are shown in another form than they were sent; of their cells it is only said that they are
not absent.

* `CellKind.Writes k cs i`: the text is a number as a column of the kind has it.
* `CellKind.Holds k bs c`: a cell with these bytes holds the content `c`.
* `Content.ofValue?`: what a value gives back; `CellKind.told`: what is told of a content.

Results:
* `CellKind.decode_eq_null_iff`: only an absent cell is read as an absent value.
* `CellKind.ofValue?_decode`: a value gives back what is told of the content of its cell.
* `CellKind.decode_eq_iff`: two cells are read alike iff they hold the same content or two numbers
  that are read as true.

Headline: **`cells_told_apart`**.
-/

namespace QueryGate

/-! ## Texts in bytes -/

namespace Text

/-- The bytes in which a text travels. -/
def utf8 (cs : List Char) : List UInt8 := cs.flatMap String.utf8EncodeChar

/-- **A text is read from its own bytes** and from no others. -/
theorem decodeUtf8?_eq_some_iff {bs : List UInt8} {s : String} :
    decodeUtf8? bs = some s ↔ utf8 s.toList = bs := by
  have hbytes : s.toByteArray.data.toList = utf8 s.toList := by
    rw [← String.utf8Encode_toList, List.utf8Encode, List.data_toByteArray]
    rfl
  rw [decodeUtf8?, String.fromUTF8?, ← hbytes]
  constructor
  · intro h
    split at h
    · obtain rfl := Option.some.inj h
      rfl
    · cases h
  · rintro rfl
    exact dif_pos s.isValidUTF8

theorem decodeUtf8?_utf8 (cs : List Char) : decodeUtf8? (utf8 cs) = some (String.ofList cs) :=
  decodeUtf8?_eq_some_iff.mpr (by rw [String.toList_ofList])

theorem utf8_injective : Function.Injective utf8 := fun cs cs' h => by
  have hread := decodeUtf8?_utf8 cs
  rw [h, decodeUtf8?_utf8 cs'] at hread
  exact (String.ofList_injective (Option.some.inj hread)).symm

end Text

namespace Server

open Text

/-! ## What a cell holds -/

/-- What a cell holds. -/
inductive Content where
  | number (i : Int)
  | bytes (bs : List UInt8)
  deriving DecidableEq, Repr

/-- A number that is read as true. -/
def Content.IsTrue : Content → Prop
  | .number i => i ≠ 0
  | .bytes _ => False

variable {k : CellKind} {bs bs' : List UInt8} {cs : List Char} {s : String} {v : Value}
  {c d : Content} {i j : Int}

namespace CellKind

/-- The text is a number as a column of the kind has it. A truth value is a number of one byte. -/
def Writes : CellKind → List Char → Int → Prop
  | .boolean, cs, i => Signed cs i ∧ -2 ^ 7 ≤ i ∧ i < 2 ^ 7
  | .signed, cs, i => Signed cs i ∧ -2 ^ 63 ≤ i ∧ i < 2 ^ 63
  | .unsigned, cs, i => ∃ n : Nat, i = n ∧ Unsigned cs n ∧ n < 2 ^ 64
  | _, _, _ => False

/-- A cell with these bytes holds the number that they write, and else the bytes. -/
inductive Holds (k : CellKind) (bs : List UInt8) : Content → Prop
  | number {cs : List Char} {i : Int} (hcs : utf8 cs = bs) (h : k.Writes cs i) :
    k.Holds bs (.number i)
  | bytes (h : ∀ cs i, utf8 cs = bs → ¬ k.Writes cs i) : k.Holds bs (.bytes bs)

/-- A column of the kind has numbers in its cells. -/
def isNumeric : CellKind → Bool
  | .boolean => true
  | .signed => true
  | .unsigned => true
  | _ => false

/-- Cells of the kind are shown in another form than they were sent. -/
def isRecast : CellKind → Bool
  | .single => true
  | .double => true
  | .day => true
  | .time => true
  | .dayTime => true
  | .instant => true
  | _ => false

theorem Writes.isNumeric (h : k.Writes cs i) : k.isNumeric = true := by
  cases k with
  | boolean | signed | unsigned => rfl
  | _ => exact h.elim

theorem Writes.unique (h : k.Writes cs i) (h' : k.Writes cs j) : i = j := by
  cases k with
  | boolean =>
    have hread := (readInt?_eq_some_iff (twoTo_pos 7)).mpr h
    exact Option.some.inj (hread.symm.trans ((readInt?_eq_some_iff (twoTo_pos 7)).mpr h'))
  | signed =>
    have hread := (readInt?_eq_some_iff (twoTo_pos 63)).mpr h
    exact Option.some.inj (hread.symm.trans ((readInt?_eq_some_iff (twoTo_pos 63)).mpr h'))
  | unsigned =>
    obtain ⟨n, rfl, hn⟩ := h
    obtain ⟨m, rfl, hm⟩ := h'
    have hread := readNat?_eq_some_iff.mpr hn
    exact congrArg _ (Option.some.inj (hread.symm.trans (readNat?_eq_some_iff.mpr hm)))
  | _ => exact h.elim

/-- **A cell holds one content.** -/
theorem existsUnique_holds (k : CellKind) (bs : List UInt8) : ∃! c, k.Holds bs c := by
  by_cases hwrites : ∃ cs i, utf8 cs = bs ∧ k.Writes cs i
  · obtain ⟨cs, i, hcs, hi⟩ := hwrites
    refine ⟨.number i, .number hcs hi, fun c hc => ?_⟩
    cases hc with
    | number hcs' hj =>
      obtain rfl := utf8_injective (hcs'.trans hcs.symm)
      rw [hj.unique hi]
    | bytes h => exact absurd hi (h cs i hcs)
  · have hbytes : ∀ cs i, utf8 cs = bs → ¬ k.Writes cs i := fun cs i hcs hi =>
      hwrites ⟨cs, i, hcs, hi⟩
    refine ⟨.bytes bs, .bytes hbytes, fun c hc => ?_⟩
    cases hc with
    | number hcs hi => exact absurd hi (hbytes _ _ hcs)
    | bytes => rfl

/-! ## Reading a cell -/

/-- The value of a number. -/
def valueOf : CellKind → Int → Value
  | .boolean, i => .bool (i != 0)
  | .unsigned, i => .uint (UInt64.ofNat i.toNat)
  | _, i => .int (Int64.ofInt i)

/-- **In a column of numbers** exactly those texts are read that write one. -/
theorem read?_eq_some_iff (hk : k.isNumeric = true) :
    k.read? s = some v ↔ ∃ i, k.Writes s.toList i ∧ k.valueOf i = v := by
  cases k with
  | boolean =>
    rw [read?, Option.map_eq_some_iff]
    exact exists_congr fun i => and_congr_left' (readInt?_eq_some_iff (twoTo_pos 7))
  | signed =>
    rw [read?, Option.map_eq_some_iff]
    exact exists_congr fun i => and_congr_left' (readInt?_eq_some_iff (twoTo_pos 63))
  | unsigned =>
    rw [read?, Option.map_eq_some_iff]
    constructor
    · rintro ⟨n, hn, rfl⟩
      exact ⟨n, ⟨n, rfl, readNat?_eq_some_iff.mp hn⟩, rfl⟩
    · rintro ⟨_, ⟨n, rfl, hn⟩, rfl⟩
      exact ⟨n, readNat?_eq_some_iff.mpr hn, rfl⟩
  | _ => cases hk

theorem decode_of_writes (h : k.Writes cs i) : k.decode (some (utf8 cs)) = k.valueOf i := by
  have hread : k.read? (String.ofList cs) = some (k.valueOf i) :=
    (read?_eq_some_iff h.isNumeric).mpr ⟨i, by rwa [String.toList_ofList], rfl⟩
  have hk : k ≠ .bytes := by
    rintro rfl
    exact h.elim
  simp only [decode, if_neg hk, decodeUtf8?_utf8, hread, Option.getD_some]

theorem read?_ne_null : k.read? s ≠ some .null := by
  cases k <;> simp [read?]

/-- **Only an absent cell is read as an absent value**, whatever the kind of its column. -/
theorem decode_eq_null_iff {cell : Option (List UInt8)} :
    k.decode cell = .null ↔ cell = none := by
  refine ⟨fun h => ?_, fun h => h ▸ rfl⟩
  cases cell with
  | none => rfl
  | some bs =>
    rw [decode] at h
    split at h
    · cases h
    · split at h
      · rename_i s _
        cases hread : k.read? s with
        | none => rw [hread] at h; cases h
        | some v =>
          rw [hread] at h
          obtain rfl : v = .null := h
          exact absurd hread read?_ne_null
      · cases h

/-! ## What is told of a cell -/

/-- What is told of a content: of a truth value, whether it is zero. -/
def told : CellKind → Content → Content
  | .boolean, .number i => .number (if i = 0 then 0 else 1)
  | _, c => c

@[simp]
theorem told_bytes : k.told (.bytes bs) = .bytes bs := by
  cases k <;> rfl

end CellKind

/-- What a value gives back of the cell that it was read from. -/
def Content.ofValue? : Value → Option Content
  | .bool b => some (.number (if b then 1 else 0))
  | .int i => some (.number i.toInt)
  | .uint n => some (.number n.toNat)
  | .decimal s => some (.bytes (utf8 s.toList))
  | .text s => some (.bytes (utf8 s.toList))
  | .bytes bs => some (.bytes bs)
  | _ => none

namespace CellKind

theorem ofValue?_valueOf (h : k.Writes cs i) :
    Content.ofValue? (k.valueOf i) = some (k.told (.number i)) := by
  cases k with
  | boolean => by_cases hi : i = 0 <;> simp [valueOf, told, Content.ofValue?, hi]
  | signed =>
    obtain ⟨-, hlow, hhigh⟩ := h
    simp only [valueOf, told, Content.ofValue?, Int64.toInt_ofInt_of_le hlow hhigh]
  | unsigned =>
    obtain ⟨n, rfl, -, hn⟩ := h
    simp only [valueOf, told, Content.ofValue?, Int.toNat_natCast, UInt64.toNat_ofNat_of_lt' hn]
  | _ => exact h.elim

/-- What writes no number of its column is kept. -/
theorem ofValue?_decode_bytes (hk : k.isRecast = false)
    (h : ∀ cs i, utf8 cs = bs → ¬ k.Writes cs i) :
    Content.ofValue? (k.decode (some bs)) = some (.bytes bs) := by
  rw [decode]
  split
  · rfl
  · split
    · rename_i s hs
      obtain rfl := decodeUtf8?_eq_some_iff.mp hs
      cases hread : k.read? s with
      | none => rfl
      | some v =>
        cases k with
        | boolean | signed | unsigned =>
          -- what is read in a column of numbers writes one
          obtain ⟨i, hi, -⟩ := (read?_eq_some_iff rfl).mp hread
          exact absurd hi (h _ i rfl)
        | decimal | text =>
          obtain rfl := Option.some.inj hread
          rfl
        | bytes => cases hread
        | _ => cases hk
    · rfl

/-- **A value gives back what is told of the content of its cell.** -/
theorem ofValue?_decode (hk : k.isRecast = false) (h : k.Holds bs c) :
    Content.ofValue? (k.decode (some bs)) = some (k.told c) := by
  cases h with
  | number hcs h => rw [← hcs, decode_of_writes h, ofValue?_valueOf h]
  | bytes h => rw [ofValue?_decode_bytes hk h, told_bytes]

/-- A flag beyond one byte is kept as a text, and bytes that are no text stay bytes. -/
example : CellKind.boolean.decode (some [0x31, 0x32, 0x38]) = .text "128" ∧
    CellKind.text.decode (some [0xFF]) = .bytes [0xFF] := by decide

/-- **A number that is read as true** is not told from another one. -/
theorem decode_of_isTrue (hc : CellKind.boolean.Holds bs c) (htrue : c.IsTrue) :
    CellKind.boolean.decode (some bs) = .bool true := by
  cases hc with
  | number hcs hi =>
    rw [← hcs, decode_of_writes hi]
    exact congrArg Value.bool (bne_iff_ne.mpr htrue)
  | bytes => exact htrue.elim

/-- Of different contents the same is told only of two numbers that are read as true. -/
theorem told_eq_told_iff :
    k.told c = k.told d ↔ c = d ∨ k = .boolean ∧ c.IsTrue ∧ d.IsTrue := by
  by_cases hk : k = .boolean
  · subst hk
    cases c with
    | bytes => cases d <;> simp [told, Content.IsTrue]
    | number i =>
      cases d with
      | bytes => simp [told, Content.IsTrue]
      | number j =>
        by_cases hi : i = 0 <;> by_cases hj : j = 0 <;>
          simp [told, Content.IsTrue, hi, hj, eq_comm]
  · have hsame : ∀ c, k.told c = c := fun c => by
      cases k with
      | boolean => exact absurd rfl hk
      | _ => rfl
    simp [hsame, hk]

/-- **Two cells are read alike** iff they hold the same content or two numbers that are read as
true. -/
theorem decode_eq_iff (hk : k.isRecast = false) (hc : k.Holds bs c) (hd : k.Holds bs' d) :
    k.decode (some bs) = k.decode (some bs') ↔
      c = d ∨ k = .boolean ∧ c.IsTrue ∧ d.IsTrue := by
  constructor
  · intro h
    -- equal values give back the same
    have hvalue := ofValue?_decode hk hc
    rw [h, ofValue?_decode hk hd] at hvalue
    exact told_eq_told_iff.mp (Option.some.inj hvalue).symm
  · rintro (rfl | ⟨rfl, hcTrue, hdTrue⟩)
    · cases hc with
      | number hcs hi =>
        cases hd with
        | number hcs' hj => rw [← hcs, ← hcs', decode_of_writes hi, decode_of_writes hj]
      | bytes =>
        cases hd with
        | bytes => rfl
    · rw [decode_of_isTrue hc hcTrue, decode_of_isTrue hd hdTrue]

end CellKind

/-! ## Columns by the names of their types -/

/-- The types of floats, dates and times. Every other type is one of integers, exact numbers, texts
or bytes. -/
def recastTypes : List String := ["FLOAT", "DOUBLE", "DATE", "TIME", "DATETIME", "TIMESTAMP"]

variable {type : String}

theorem ofType_mem_namedKinds (type : String) :
    (type, CellKind.ofType type) ∈ namedKinds ∨ CellKind.ofType type = .text := by
  unfold CellKind.ofType
  cases hlookup : namedKinds.lookup type with
  | none => exact .inr rfl
  | some k =>
    obtain ⟨before, after, hsplit, -⟩ := List.lookup_eq_some_iff.mp hlookup
    exact .inl (by simp [hsplit])

theorem isRecast_ofType (h : type ∉ recastTypes) : (CellKind.ofType type).isRecast = false := by
  have hnamed : ∀ p ∈ namedKinds, p.1 ∉ recastTypes → p.2.isRecast = false := by decide
  rcases ofType_mem_namedKinds type with hmem | htext
  · exact hnamed _ hmem h
  · rw [htext]
    rfl

theorem ofType_eq_boolean_iff : CellKind.ofType type = .boolean ↔ type = "BOOLEAN" := by
  have hnamed : ∀ p ∈ namedKinds, p.2 = .boolean → p.1 = "BOOLEAN" := by decide
  constructor
  · intro h
    rcases ofType_mem_namedKinds type with hmem | htext
    · exact hnamed _ hmem h
    · rw [htext] at h
      cases h
  · rintro rfl
    rfl

/-- **Reading tells cells apart.** In a column of integers, exact numbers, texts or bytes every cell
holds one content, only an absent cell is read as an absent value, and two cells are read alike iff
they hold the same content, or the column is one of truth values and both hold a number other than
zero: such a number is read as true. -/
theorem cells_told_apart (htype : type ∉ recastTypes) :
    (∀ bs, ∃! c, (CellKind.ofType type).Holds bs c) ∧
      (∀ cell, (CellKind.ofType type).decode cell = .null ↔ cell = none) ∧
      (∀ {bs bs' : List UInt8} {c d : Content}, (CellKind.ofType type).Holds bs c →
        (CellKind.ofType type).Holds bs' d →
        ((CellKind.ofType type).decode (some bs) = (CellKind.ofType type).decode (some bs') ↔
          c = d ∨ type = "BOOLEAN" ∧ c.IsTrue ∧ d.IsTrue)) ∧
      (type = "BOOLEAN" → ∀ {bs : List UInt8} {c : Content}, (CellKind.ofType type).Holds bs c →
        c.IsTrue → (CellKind.ofType type).decode (some bs) = .bool true) := by
  refine ⟨(CellKind.ofType type).existsUnique_holds, fun _ => CellKind.decode_eq_null_iff,
    fun hc hd => ?_, ?_⟩
  · rw [CellKind.decode_eq_iff (isRecast_ofType htype) hc hd, ofType_eq_boolean_iff]
  · rintro rfl bs c hc htrue
    exact CellKind.decode_of_isTrue hc htrue

/-- A flag tells zero from a number, and a wide column its least number from its greatest. -/
theorem cells_told_apart_sample :
    "BOOLEAN" ∉ recastTypes ∧ "BIGINT" ∉ recastTypes ∧
      (CellKind.ofType "BOOLEAN").Holds (utf8 (intText 0)) (.number 0) ∧
      (CellKind.ofType "BOOLEAN").Holds (utf8 (intText (-1))) (.number (-1)) ∧
      (CellKind.ofType "BIGINT").Holds (utf8 (intText (-2 ^ 63))) (.number (-2 ^ 63)) ∧
      (CellKind.ofType "BIGINT").Holds (utf8 (intText (2 ^ 63 - 1))) (.number (2 ^ 63 - 1)) ∧
      (CellKind.ofType "BOOLEAN").decode (some (utf8 (intText 0))) ≠
        (CellKind.ofType "BOOLEAN").decode (some (utf8 (intText (-1)))) ∧
      (CellKind.ofType "BIGINT").decode (some (utf8 (intText (-2 ^ 63)))) ≠
        (CellKind.ofType "BIGINT").decode (some (utf8 (intText (2 ^ 63 - 1)))) := by
  have hflag : "BOOLEAN" ∉ recastTypes := by decide
  have hwide : "BIGINT" ∉ recastTypes := by decide
  have hzero : (CellKind.ofType "BOOLEAN").Holds (utf8 (intText 0)) (.number 0) :=
    .number rfl ⟨signed_intText 0, by decide, by decide⟩
  have hminus : (CellKind.ofType "BOOLEAN").Holds (utf8 (intText (-1))) (.number (-1)) :=
    .number rfl ⟨signed_intText (-1), by decide, by decide⟩
  have hleast : (CellKind.ofType "BIGINT").Holds (utf8 (intText (-2 ^ 63))) (.number (-2 ^ 63)) :=
    .number rfl ⟨signed_intText (-2 ^ 63), by decide, by decide⟩
  have hgreatest :
      (CellKind.ofType "BIGINT").Holds (utf8 (intText (2 ^ 63 - 1))) (.number (2 ^ 63 - 1)) :=
    .number rfl ⟨signed_intText (2 ^ 63 - 1), by decide, by decide⟩
  refine ⟨hflag, hwide, hzero, hminus, hleast, hgreatest, fun h => ?_, fun h => ?_⟩
  · rcases ((cells_told_apart hflag).2.2.1 hzero hminus).mp h with hsame | ⟨-, htrue, -⟩
    · cases hsame
    · exact htrue rfl
  · rcases ((cells_told_apart hwide).2.2.1 hleast hgreatest).mp h with hsame | ⟨hname, -⟩
    · cases hsame
    · exact absurd hname (by decide)

/-- **A truth value hides its number**: flags that hold one and two are read alike. -/
theorem truth_hides_number :
    (CellKind.ofType "BOOLEAN").Holds (utf8 ['1']) (.number 1) ∧
      (CellKind.ofType "BOOLEAN").Holds (utf8 ['2']) (.number 2) ∧
      Content.number 1 ≠ .number 2 ∧
      (CellKind.ofType "BOOLEAN").decode (some (utf8 ['1'])) = .bool true ∧
      (CellKind.ofType "BOOLEAN").decode (some (utf8 ['2'])) = .bool true := by
  have hone : CellKind.boolean.Writes ['1'] 1 := ⟨signed_intText 1, by decide, by decide⟩
  have htwo : CellKind.boolean.Writes ['2'] 2 := ⟨signed_intText 2, by decide, by decide⟩
  exact ⟨.number rfl hone, .number rfl htwo, by decide, CellKind.decode_of_writes hone,
    CellKind.decode_of_writes htwo⟩

end Server

end QueryGate
