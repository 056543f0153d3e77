import Mathlib.Algebra.Group.Nat.Defs
import QueryGate.Proofs.Text.Words
import QueryGate.Url.Ipv6

/-!
# The canonical text of an IPv6 address

The text in which an address is written is read back as the same address, and whatever is read is an
address of eight pieces.

* `IsAddress pieces`: eight pieces of sixteen bits each.

Results:
* `hexPiece_pieceText`: one piece is read back.
* `exists_of_longestZeros`: the run of zeros that the text leaves out is one.
* `mem_ipv6Text`: the text has nothing but digits and colons.

Headlines: **`readIpv6?_ipv6Text`**, **`isAddress_of_read`**.
-/

namespace QueryGate.Url

open Text

/-- Eight pieces of sixteen bits each. -/
structure IsAddress (pieces : List Nat) : Prop where
  length : pieces.length = 8
  lt : ∀ n ∈ pieces, n < 65536

variable {n fuel : Nat} {l pieces : List Nat} {cs rest : List Char} {p q : Ipv6Pieces} {c : Char}

/-! ## One piece -/

/-- The number that a row of hexadecimal digits denotes. -/
def hexNumber (cs : List Char) : Nat := cs.foldl (fun n c => 16 * n + (hexValue? c).getD 0) 0

theorem hexValue?_digitChar : ∀ n < 16, hexValue? n.digitChar = some n := by decide

theorem hexNumber_concat (cs : List Char) (c : Char) :
    hexNumber (cs ++ [c]) = 16 * hexNumber cs + (hexValue? c).getD 0 := by
  simp [hexNumber]

/-- The digits of a piece are hexadecimal and denote it. -/
theorem pieceText_spec (n : Nat) :
    hexNumber (pieceText n) = n ∧ ∀ c ∈ pieceText n, (hexValue? c).isSome = true := by
  induction n using Nat.strongRecOn with
  | ind n ih =>
    unfold pieceText at ih ⊢
    by_cases hlt : n < 16
    · rw [Nat.toDigits_of_lt_base hlt]
      have hvalue := hexValue?_digitChar n hlt
      refine ⟨?_, fun c hc => ?_⟩
      · simp [hexNumber, hvalue]
      · obtain rfl := List.mem_singleton.mp hc
        rw [hvalue]
        rfl
    · have hle : 16 ≤ n := Nat.le_of_not_lt hlt
      have hvalue := hexValue?_digitChar (n % 16) (Nat.mod_lt _ (by decide))
      obtain ⟨hnumber, hdigits⟩ := ih (n / 16) (Nat.div_lt_self (by omega) (by decide))
      rw [Nat.toDigits_of_base_le (by decide) hle]
      refine ⟨?_, fun c hc => ?_⟩
      · rw [hexNumber_concat, hnumber, hvalue]
        exact Nat.div_add_mod n 16
      · rcases List.mem_append.mp hc with hc | hc
        · exact hdigits c hc
        · obtain rfl := List.mem_singleton.mp hc
          rw [hvalue]
          rfl

theorem pieceText_ne_nil (n : Nat) : pieceText n ≠ [] := Nat.toDigits_ne_nil

/-- **One piece is read back**, whatever follows it that is no digit. -/
theorem hexPiece_pieceText (hn : n < 65536) (rest : List Char)
    (hrest : ∀ c ∈ rest.head?, (hexValue? c).isSome = false) :
    hexPiece (pieceText n ++ rest) = (n, rest) := by
  obtain ⟨hnumber, hdigits⟩ := pieceText_spec n
  have hlength : (pieceText n).length ≤ 4 :=
    (Nat.length_toDigits_le_iff (by decide) (by decide)).mpr (by simpa using hn)
  have htake : (pieceText n ++ rest).take 4 =
      pieceText n ++ rest.take (4 - (pieceText n).length) := by
    rw [List.take_append, List.take_of_length_le hlength]
  have hafter : ∀ c ∈ (rest.take (4 - (pieceText n).length)).head?,
      (hexValue? c).isSome = false := by
    intro c hc
    rw [List.head?_take] at hc
    split at hc
    · exact absurd hc (by simp)
    · exact hrest c hc
  unfold hexPiece
  simp only [htake, takeWhile_run hdigits hafter, List.drop_left]
  exact congrArg (·, rest) hnumber

theorem ne_colon_of_hex (h : (hexValue? c).isSome = true) : c ≠ ':' := by
  rintro rfl
  exact absurd h (by decide)

/-! ## Reading pieces -/

theorem used_push (p : Ipv6Pieces) (n : Nat) : (p.push n).used = p.used + 1 := by
  unfold Ipv6Pieces.push Ipv6Pieces.used
  split
  · rw [List.length_append]
    rfl
  · rename_i hbehind
    rw [hbehind, List.length_append]
    rfl

theorem exists_pieceText (n : Nat) : ∃ c cs, pieceText n = c :: cs ∧ c ≠ ':' := by
  obtain ⟨c, cs, hcs⟩ := List.exists_cons_of_ne_nil (pieceText_ne_nil n)
  exact ⟨c, cs, hcs, ne_colon_of_hex ((pieceText_spec n).2 c (by rw [hcs]; simp))⟩

theorem loop_piece (hn : n < 65536) (hused : p.used < 8) (hrest : rest ≠ []) :
    ipv6Loop (fuel + 1) p (pieceText n ++ ':' :: rest) = ipv6Loop fuel (p.push n) rest := by
  have hpiece := hexPiece_pieceText hn (':' :: rest) (by simp; decide)
  obtain ⟨c, cs, hcs, hc⟩ := exists_pieceText n
  rw [hcs, List.cons_append] at hpiece ⊢
  rw [ipv6Loop, if_neg (Nat.ne_of_lt hused), if_neg hc, hpiece]
  exact if_neg (by simpa using hrest)

theorem loop_last (hn : n < 65536) (hused : p.used < 8) :
    ipv6Loop (fuel + 1) p (pieceText n) = some (p.push n) := by
  have hpiece := hexPiece_pieceText hn [] (by simp)
  obtain ⟨c, cs, hcs, hc⟩ := exists_pieceText n
  rw [List.append_nil] at hpiece
  rw [hcs] at hpiece ⊢
  rw [ipv6Loop, if_neg (Nat.ne_of_lt hused), if_neg hc, hpiece]

theorem loop_gap (hused : p.used < 8) (hbehind : p.behind = none) :
    ipv6Loop (fuel + 1) p (':' :: rest) = ipv6Loop fuel { p with behind := some [] } rest := by
  rw [ipv6Loop, if_neg (Nat.ne_of_lt hused), if_pos rfl, if_neg (by simp [hbehind])]

theorem joinPieces_cons (n m : Nat) (l : List Nat) :
    joinPieces (n :: m :: l) = pieceText n ++ ':' :: joinPieces (m :: l) := rfl

theorem exists_joinPieces (n : Nat) (l : List Nat) :
    ∃ c cs, joinPieces (n :: l) = c :: cs ∧ c ≠ ':' := by
  obtain ⟨c, cs, hcs, hc⟩ := exists_pieceText n
  cases l with
  | nil => exact ⟨c, cs, hcs, hc⟩
  | cons m l => exact ⟨c, _, by rw [joinPieces_cons, hcs]; rfl, hc⟩

theorem joinPieces_ne_nil (n : Nat) (l : List Nat) : joinPieces (n :: l) ≠ [] := by
  obtain ⟨c, cs, hcs, -⟩ := exists_joinPieces n l
  rw [hcs]
  exact List.cons_ne_nil c cs

/-- Pieces are read to the end of the text. -/
theorem loop_join (hl : ∀ m ∈ n :: l, m < 65536) (hused : p.used + (n :: l).length ≤ 8) :
    ipv6Loop (fuel + (n :: l).length) p (joinPieces (n :: l)) =
      some ((n :: l).foldl Ipv6Pieces.push p) := by
  induction l generalizing n p with
  | nil => exact loop_last (hl n List.mem_cons_self) hused
  | cons m l ih =>
    rw [joinPieces_cons, List.length_cons, ← Nat.add_assoc,
      loop_piece (hl n List.mem_cons_self) (by simp at hused; omega) (joinPieces_ne_nil m l)]
    refine ih (fun k hk => hl k (List.mem_cons_of_mem _ hk)) ?_
    rw [used_push]
    simp only [List.length_cons] at hused ⊢
    omega

/-- Pieces are read up to a colon that belongs to no piece. -/
theorem loop_join_gap (hl : ∀ m ∈ n :: l, m < 65536) (hused : p.used + (n :: l).length ≤ 8)
    (hrest : rest ≠ []) :
    ipv6Loop (fuel + (n :: l).length) p (joinPieces (n :: l) ++ ':' :: rest) =
      ipv6Loop fuel ((n :: l).foldl Ipv6Pieces.push p) rest := by
  induction l generalizing n p with
  | nil => exact loop_piece (hl n List.mem_cons_self) hused hrest
  | cons m l ih =>
    rw [joinPieces_cons, List.append_assoc, List.cons_append, List.length_cons, ← Nat.add_assoc,
      loop_piece (hl n List.mem_cons_self) (by simp at hused; omega) (by simp [joinPieces_ne_nil])]
    refine ih (fun k hk => hl k (List.mem_cons_of_mem _ hk)) ?_
    rw [used_push]
    simp only [List.length_cons] at hused ⊢
    omega

theorem foldl_push_before (before l : List Nat) :
    l.foldl Ipv6Pieces.push ⟨before, none⟩ = ⟨before ++ l, none⟩ := by
  induction l generalizing before with
  | nil => simp
  | cons n l ih =>
    rw [List.foldl_cons, Ipv6Pieces.push, ih]
    simp

theorem foldl_push_behind (before behind l : List Nat) :
    l.foldl Ipv6Pieces.push ⟨before, some behind⟩ = ⟨before, some (behind ++ l)⟩ := by
  induction l generalizing behind with
  | nil => simp
  | cons n l ih =>
    rw [List.foldl_cons, Ipv6Pieces.push, ih]
    simp

/-! ## The run of zeros -/

theorem eq_replicate_append (l : List Nat) :
    l = List.replicate (zeroRun l) 0 ++ l.drop (zeroRun l) := by
  induction l with
  | nil => rfl
  | cons n l ih =>
    by_cases hn : n = 0
    · subst hn
      exact congrArg (0 :: ·) ih
    · have hrun : zeroRun (n :: l) = 0 := by simp [zeroRun, hn]
      rw [hrun]
      rfl

/-- **What the text leaves out is a run of zeros.** -/
theorem exists_of_longestZeros {i start len : Nat} (h : longestZeros i l = (start, len))
    (hlen : len ≠ 0) :
    ∃ a b, l = a ++ List.replicate len 0 ++ b ∧ start = i + a.length := by
  induction l generalizing i with
  | nil =>
    obtain ⟨-, rfl⟩ := Prod.mk.inj h
    exact absurd rfl hlen
  | cons n l ih =>
    rw [longestZeros] at h
    split at h
    · obtain ⟨a, b, rfl, rfl⟩ := ih h
      exact ⟨n :: a, b, rfl, by simp; omega⟩
    · obtain ⟨rfl, rfl⟩ := Prod.mk.inj h
      exact ⟨[], _, eq_replicate_append (n :: l), by simp⟩

/-! ## The text -/

/-- A text that begins with no colon is read from its start. -/
theorem readIpv6?_of_ne_colon (hc : c ≠ ':') :
    readIpv6? (c :: cs) = (ipv6Loop 10 {} (c :: cs)).bind Ipv6Pieces.complete? := by
  unfold readIpv6?
  split <;> simp_all

/-- An address without a gap. -/
theorem readIpv6?_joinPieces (h : IsAddress pieces) :
    readIpv6? (joinPieces pieces) = some pieces := by
  obtain ⟨hlength, hlt⟩ := h
  obtain ⟨n, l, rfl⟩ := List.exists_cons_of_length_pos (by omega : 0 < pieces.length)
  have hused : Ipv6Pieces.used {} + (n :: l).length ≤ 8 := by
    rw [hlength]
    decide
  have hloop : ipv6Loop 10 {} (joinPieces (n :: l)) = some ⟨n :: l, none⟩ := by
    rw [show 10 = 2 + (n :: l).length by omega, loop_join hlt hused, foldl_push_before,
      List.nil_append]
  obtain ⟨c, cs, hcs, hc⟩ := exists_joinPieces n l
  rw [hcs] at hloop ⊢
  rw [readIpv6?_of_ne_colon hc, hloop]
  simp [Ipv6Pieces.complete?, hlength]

/-- Behind the gap come the other pieces, if there are any. -/
theorem loop_behind (before : List Nat) (hl : ∀ n ∈ l, n < 65536)
    (hused : before.length + 1 + l.length ≤ 8) (hfuel : l.length < fuel) :
    ipv6Loop fuel ⟨before, some []⟩ (joinPieces l) = some ⟨before, some l⟩ := by
  obtain ⟨more, rfl⟩ := Nat.exists_eq_add_of_lt hfuel
  cases l with
  | nil => rfl
  | cons n l =>
    have hused' : Ipv6Pieces.used ⟨before, some []⟩ + (n :: l).length ≤ 8 := hused
    rw [show (n :: l).length + more + 1 = (more + 1) + (n :: l).length by omega,
      loop_join hl hused', foldl_push_behind, List.nil_append]

/-- An address with a gap. -/
theorem readIpv6?_gap {a b : List Nat} (ha : ∀ n ∈ a, n < 65536) (hb : ∀ n ∈ b, n < 65536)
    (hlength : a.length + b.length < 8) :
    readIpv6? (joinPieces a ++ ':' :: ':' :: joinPieces b) =
      some (a ++ List.replicate (8 - a.length - b.length) 0 ++ b) := by
  cases a with
  | nil =>
    have hloop : ipv6Loop 10 ⟨[], some []⟩ (joinPieces b) = some ⟨[], some b⟩ :=
      loop_behind [] hb (by simp at hlength ⊢; omega) (by simp at hlength; omega)
    show (ipv6Loop 10 ⟨[], some []⟩ (joinPieces b)).bind Ipv6Pieces.complete? = _
    rw [hloop]
    rfl
  | cons n a =>
    obtain ⟨c, cs, hcs, hc⟩ := exists_joinPieces n a
    have hused : Ipv6Pieces.used {} + (n :: a).length ≤ 8 := by
      rw [show Ipv6Pieces.used {} = 0 from rfl]
      omega
    have hgap : Ipv6Pieces.used ⟨n :: a, none⟩ < 8 := by
      rw [show Ipv6Pieces.used ⟨n :: a, none⟩ = (n :: a).length from rfl]
      omega
    have hloop : ipv6Loop 10 {} (joinPieces (n :: a) ++ ':' :: ':' :: joinPieces b) =
        some ⟨n :: a, some b⟩ := by
      rw [show 10 = (9 - (n :: a).length) + 1 + (n :: a).length by omega,
        loop_join_gap ha hused (by simp), foldl_push_before, List.nil_append,
        loop_gap hgap rfl]
      exact loop_behind (n :: a) hb (by omega) (by omega)
    rw [hcs, List.cons_append] at hloop ⊢
    rw [readIpv6?_of_ne_colon hc, hloop]
    rfl

/-- **The text of an address is read back as the address.** -/
theorem readIpv6?_ipv6Text (h : IsAddress pieces) : readIpv6? (ipv6Text pieces) = some pieces := by
  rcases hzeros : longestZeros 0 pieces with ⟨start, len⟩
  unfold ipv6Text
  rw [hzeros]
  dsimp only
  split
  · exact readIpv6?_joinPieces h
  · obtain ⟨a, b, rfl, rfl⟩ := exists_of_longestZeros hzeros (by omega)
    obtain ⟨hlength, hlt⟩ := h
    simp only [List.length_append, List.length_replicate] at hlength
    have htake : (a ++ List.replicate len 0 ++ b).take (0 + a.length) = a := by simp
    have hdrop : (a ++ List.replicate len 0 ++ b).drop (0 + a.length + len) = b := by
      rw [Nat.zero_add]
      exact List.drop_left' (by simp)
    rw [htake, hdrop, readIpv6?_gap (fun n hn => hlt n (by simp [hn]))
      (fun n hn => hlt n (by simp [hn])) (by omega)]
    rw [show 8 - a.length - b.length = len by omega]

/-! ## What is read -/

/-- The pieces so far fit into an address. -/
structure Ipv6Pieces.Fits (p : Ipv6Pieces) : Prop where
  used : p.used ≤ 8
  before : ∀ n ∈ p.before, n < 65536
  behind : ∀ l, p.behind = some l → ∀ n ∈ l, n < 65536

theorem hexValue?_lt (c : Char) : (hexValue? c).getD 0 < 16 := by
  unfold hexValue?
  split
  · rename_i h
    have hle := Char.le_def.mp h.2
    have : c.toNat ≤ 57 := hle
    simp only [Option.getD_some]
    omega
  split
  · rename_i h
    have : c.toNat ≤ 102 := Char.le_def.mp h.2
    simp only [Option.getD_some]
    omega
  split
  · rename_i h
    have : c.toNat ≤ 70 := Char.le_def.mp h.2
    simp only [Option.getD_some]
    omega
  · decide

/-- Four bits for each digit. -/
theorem hexNumber_lt (cs : List Char) : hexNumber cs < 16 ^ cs.length := by
  have hfold : ∀ start, cs.foldl (fun n c => 16 * n + (hexValue? c).getD 0) start <
      (start + 1) * 16 ^ cs.length := by
    induction cs with
    | nil => simp
    | cons c cs ih =>
      intro start
      have hc := hexValue?_lt c
      rw [List.foldl_cons, List.length_cons, Nat.pow_succ]
      refine Nat.lt_of_lt_of_le (ih _) ?_
      rw [Nat.mul_comm (16 ^ cs.length), ← Nat.mul_assoc]
      exact Nat.mul_le_mul_right _ (by omega)
  simpa [hexNumber] using hfold 0

theorem hexPiece_lt (cs : List Char) : (hexPiece cs).1 < 65536 := by
  have hlength : ((cs.take 4).takeWhile fun c => (hexValue? c).isSome).length ≤ 4 :=
    Nat.le_trans (List.takeWhile_sublist _).length_le (List.length_take_le 4 cs)
  exact Nat.lt_of_lt_of_le (hexNumber_lt _) (Nat.pow_le_pow_right (by decide) hlength)

/-- A number of a dotted address is a byte. -/
theorem ipv4Piece?_lt (h : ipv4Piece? cs = some (n, rest)) : n < 256 := by
  unfold ipv4Piece? at h
  dsimp only at h
  split at h
  · exact absurd h (by simp)
  · rename_i hn
    obtain ⟨rfl, -⟩ := Prod.mk.inj (Option.some.inj h)
    simp only [Bool.or_eq_true, decide_eq_true_eq, not_or] at hn
    omega

theorem ipv4Pieces?_lt {count : Nat} (h : ipv4Pieces? count cs = some l) : ∀ n ∈ l, n < 256 := by
  induction count generalizing cs l with
  | zero => exact absurd h (by simp [ipv4Pieces?])
  | succ count ih =>
    cases count with
    | zero =>
      rw [ipv4Pieces?] at h
      split at h
      · rename_i hpiece
        obtain rfl := Option.some.inj h
        exact List.forall_mem_singleton.mpr (ipv4Piece?_lt hpiece)
      · exact absurd h (by simp)
    | succ count =>
      rw [ipv4Pieces?] at h
      · split at h
        · rename_i hpiece
          obtain ⟨l, hl, rfl⟩ := Option.map_eq_some_iff.mp h
          exact List.forall_mem_cons.mpr ⟨ipv4Piece?_lt hpiece, ih hl⟩
        · exact absurd h (by simp)
      · simp

/-- A dotted address fills two pieces. -/
theorem dottedPieces?_spec (h : dottedPieces? cs = some l) :
    ∃ n m, l = [n, m] ∧ n < 65536 ∧ m < 65536 := by
  unfold dottedPieces? at h
  split at h
  · rename_i a b c d hpieces
    obtain rfl := Option.some.inj h
    have hlt := ipv4Pieces?_lt hpieces
    simp only [List.forall_mem_cons] at hlt
    exact ⟨_, _, rfl, by omega, by omega⟩
  · exact absurd h (by simp)

theorem Ipv6Pieces.Fits.push (h : p.Fits) (hused : p.used < 8) (hn : n < 65536) :
    (p.push n).Fits := by
  refine ⟨by rw [used_push]; omega, ?_, ?_⟩
  · unfold Ipv6Pieces.push
    split
    · exact h.before
    · exact List.forall_mem_append.mpr ⟨h.before, List.forall_mem_singleton.mpr hn⟩
  · unfold Ipv6Pieces.push
    split
    · rename_i l hl
      rintro _ ⟨⟩
      exact List.forall_mem_append.mpr ⟨h.behind l hl, List.forall_mem_singleton.mpr hn⟩
    · exact h.behind

/-- What is read fits into an address. -/
theorem fits_of_loop (h : p.Fits) (hloop : ipv6Loop fuel p cs = some q) : q.Fits := by
  induction fuel generalizing p cs with
  | zero => exact absurd hloop (by simp [ipv6Loop])
  | succ fuel ih =>
    cases cs with
    | nil =>
      obtain rfl := Option.some.inj hloop
      exact h
    | cons c cs =>
      rw [ipv6Loop] at hloop
      split at hloop
      · exact absurd hloop (by simp)
      rename_i hfull
      have hused : p.used < 8 := by
        have := h.used
        omega
      split at hloop
      · split at hloop
        · exact absurd hloop (by simp)
        · rename_i hnone
          have hbehind : p.behind = none := by simpa using hnone
          refine ih (p := { p with behind := some [] }) ⟨?_, h.before, ?_⟩ hloop
          · unfold Ipv6Pieces.used at hused ⊢
            rw [hbehind] at hused
            exact hused
          · rintro _ ⟨⟩
            exact List.forall_mem_nil _
      · have hpiece := hexPiece_lt (c :: cs)
        split at hloop
        · rename_i hread
          rw [hread] at hpiece
          obtain rfl := Option.some.inj hloop
          exact h.push hused hpiece
        · rename_i hread
          rw [hread] at hpiece
          split at hloop
          · exact absurd hloop (by simp)
          · exact ih (h.push hused hpiece) hloop
        · split at hloop
          · exact absurd hloop (by simp)
          · rename_i hroom
            obtain ⟨l, hl, rfl⟩ := Option.map_eq_some_iff.mp hloop
            obtain ⟨n, m, rfl, hn, hm⟩ := dottedPieces?_spec hl
            have hroom : p.used ≤ 6 := by
              simp only [Bool.or_eq_true, decide_eq_true_eq, not_or] at hroom
              omega
            exact (h.push hused hn).push (by rw [used_push]; omega) hm
        · exact absurd hloop (by simp)

/-- What fits into an address and fills it is one. -/
theorem isAddress_of_complete (h : p.Fits) (hcomplete : p.complete? = some pieces) :
    IsAddress pieces := by
  unfold Ipv6Pieces.complete? at hcomplete
  split at hcomplete
  · rename_i l hbehind
    obtain rfl := Option.some.inj hcomplete
    have hused : p.before.length + (l.length + 1) ≤ 8 := by
      simpa [Ipv6Pieces.used, hbehind] using h.used
    refine ⟨?_, fun n hn => ?_⟩
    · simp only [List.length_append, List.length_replicate]
      omega
    · simp only [List.mem_append, List.mem_replicate] at hn
      rcases hn with (hn | ⟨-, rfl⟩) | hn
      · exact h.before n hn
      · decide
      · exact h.behind l hbehind n hn
  · obtain ⟨hlength, hcomplete⟩ := Option.ite_none_right_eq_some.mp hcomplete
    obtain rfl := Option.some.inj hcomplete
    exact ⟨hlength, h.before⟩

/-- **What is read is an address.** -/
theorem isAddress_of_read (h : readIpv6? cs = some pieces) : IsAddress pieces := by
  unfold readIpv6? at h
  obtain ⟨p, hloop, hcomplete⟩ := Option.bind_eq_some_iff.mp h
  refine isAddress_of_complete ?_ hcomplete
  have hempty : Ipv6Pieces.Fits {} := ⟨by decide, by simp, by simp⟩
  split at hloop
  · exact fits_of_loop ⟨by decide, by simp, by simp⟩ hloop
  · exact absurd hloop (by simp)
  · exact absurd hloop (by simp)
  · exact fits_of_loop hempty hloop

/-! ## The characters of the text -/

theorem mem_joinPieces (hc : c ∈ joinPieces l) : (hexValue? c).isSome = true ∨ c = ':' := by
  induction l with
  | nil => exact absurd hc (by simp [joinPieces])
  | cons n l ih =>
    cases l with
    | nil => exact Or.inl ((pieceText_spec n).2 c hc)
    | cons m l =>
      rw [joinPieces_cons] at hc
      rcases List.mem_append.mp hc with hc | hc
      · exact Or.inl ((pieceText_spec n).2 c hc)
      · exact (List.mem_cons.mp hc).elim Or.inr ih

/-- **The text has nothing but digits and colons.** -/
theorem mem_ipv6Text (hc : c ∈ ipv6Text pieces) : (hexValue? c).isSome = true ∨ c = ':' := by
  unfold ipv6Text at hc
  dsimp only at hc
  split at hc
  · exact mem_joinPieces hc
  · rcases List.mem_append.mp hc with hc | hc
    · exact mem_joinPieces hc
    rcases List.mem_cons.mp hc with rfl | hc
    · exact Or.inr rfl
    rcases List.mem_cons.mp hc with rfl | hc
    · exact Or.inr rfl
    · exact mem_joinPieces hc

end QueryGate.Url
