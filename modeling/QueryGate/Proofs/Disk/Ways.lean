import Mathlib.Data.List.TakeWhile
import QueryGate.Disk.Path

/-!
# The way of a path and of its neighbours

A path that ends in a name leads into the directory before the name. With another extension it
leads to a neighbour in that directory.

* `EndsInName p`: the last piece of the path, slashes and single dots at its end apart, is a name.

Results:
* `names_eq_concat`: the way of such a path.
* `names_withExtension`: the way of its neighbour with another extension.
* `ne_stem_append`: an extension of two parts makes another name.
* `names_trimmed`: slashes and single dots at the end of a path do not matter.
-/

namespace QueryGate.Path

variable {p q x : Path} {c : Char}

/-! ## Pieces -/

theorem pieces_ne_nil (p : Path) : pieces p ≠ [] := by
  cases p with
  | nil => simp [pieces]
  | cons c p =>
    rw [pieces]
    split
    · simp
    · split <;> simp

theorem pieces_append_slash (p q : Path) : pieces (p ++ '/' :: q) = pieces p ++ pieces q := by
  induction p with
  | nil => simp [pieces]
  | cons c p ih =>
    rw [List.cons_append, pieces, pieces, ih]
    by_cases hc : c = '/'
    · rw [if_pos hc, if_pos hc, List.cons_append]
    · rw [if_neg hc, if_neg hc]
      cases hp : pieces p with
      | nil => exact absurd hp (pieces_ne_nil p)
      | cons first rest => rfl

theorem pieces_of_no_slash (h : '/' ∉ x) : pieces x = [x] := by
  induction x with
  | nil => rfl
  | cons c x ih =>
    rw [List.mem_cons, not_or] at h
    rw [pieces, if_neg (Ne.symm h.1), ih h.2]

theorem isAbsolute_append (h : p ≠ []) (q : Path) : isAbsolute (p ++ q) = isAbsolute p := by
  cases p with
  | nil => exact absurd rfl h
  | cons c p => rfl

/-! ## The end of a path -/

/-- A piece is followed from the directory before it. -/
theorem names_append (base : List FileName) (hp : p = [] ∨ ∃ q, p = q ++ ['/'])
    (hx : '/' ∉ x) : names base (p ++ x) = follow (names base p) x := by
  rcases hp with rfl | ⟨q, rfl⟩
  · have habs : isAbsolute x = false := by
      cases x with
      | nil => rfl
      | cons c x =>
        rw [isAbsolute, List.head?_cons, beq_eq_false_iff_ne]
        exact fun hc => hx (Option.some.inj hc ▸ List.mem_cons_self)
    rw [List.nil_append, names, pieces_of_no_slash hx, habs]
    rfl
  · have habs := isAbsolute_append (p := q ++ ['/']) (by simp) x
    rw [names, names, habs, List.append_assoc, List.singleton_append, pieces_append_slash,
      pieces_append_slash, pieces_of_no_slash hx, List.foldl_append, List.foldl_append]
    rfl

theorem names_slash (base : List FileName) (hp : p ≠ []) :
    names base (p ++ ['/']) = names base p := by
  rw [names, names, isAbsolute_append hp, pieces_append_slash, List.foldl_append]
  rfl

theorem names_slash_dot (base : List FileName) (p : Path) :
    names base (p ++ ['/', '.']) = names base (p ++ ['/']) := by
  have happ := names_append base (.inr ⟨p, rfl⟩) (x := ['.']) (by decide)
  rw [List.append_assoc] at happ
  exact happ

theorem names_trimmedIn (base : List FileName) (fuel : Nat) (p : Path) :
    names base (trimmedIn fuel p) = names base p := by
  induction fuel generalizing p with
  | zero => rfl
  | succ fuel ih =>
    rw [trimmedIn]
    split
    · rename_i c r hrev
      have hp : p = (c :: r).reverse ++ ['/'] := by simpa using congrArg List.reverse hrev
      rw [ih, hp, names_slash base (by simp)]
    · rename_i r hrev
      have hp : p = r.reverse ++ ['/', '.'] := by simpa using congrArg List.reverse hrev
      rw [ih, hp, names_slash_dot, List.reverse_cons]
    · rfl

/-- **Slashes and single dots at the end of a path do not matter.** -/
theorem names_trimmed (base : List FileName) (p : Path) : names base (trimmed p) = names base p :=
  names_trimmedIn base _ p

theorem directoryPart_append_fileName (p : Path) : directoryPart p ++ fileName p = trimmed p := by
  rw [directoryPart, fileName, ← List.reverse_append, List.takeWhile_append_dropWhile,
    List.reverse_reverse]

theorem directoryPart_eq (p : Path) : directoryPart p = [] ∨ ∃ q, directoryPart p = q ++ ['/'] := by
  unfold directoryPart
  cases hrest : (trimmed p).reverse.dropWhile (· ≠ '/') with
  | nil => exact .inl rfl
  | cons c r =>
    have hc := List.head?_dropWhile_not (· ≠ '/') (trimmed p).reverse
    rw [hrest] at hc
    obtain rfl : c = '/' := by simpa using hc
    exact .inr ⟨r.reverse, List.reverse_cons ..⟩

theorem slash_notMem_fileName (p : Path) : '/' ∉ fileName p := by
  intro h
  simpa using List.mem_takeWhile_imp (List.mem_reverse.mp h)

/-! ## Paths of files -/

/-- The path ends in a name. -/
def EndsInName (p : Path) : Prop :=
  fileName p ≠ [] ∧ fileName p ≠ ['.'] ∧ fileName p ≠ ['.', '.']

instance (p : Path) : Decidable p.EndsInName := inferInstanceAs (Decidable (_ ∧ _))

theorem follow_name (at' : List FileName) (h : x ≠ [] ∧ x ≠ ['.'] ∧ x ≠ ['.', '.']) :
    follow at' x = at' ++ [x] := by
  rw [follow, if_neg (by simp [h]), if_neg h.2.2]

/-- **The way of a path that ends in a name**: into its directory, then the name. -/
theorem names_eq_concat (base : List FileName) (h : p.EndsInName) :
    names base p = names base (directoryPart p) ++ [fileName p] := by
  rw [← names_trimmed base p, ← directoryPart_append_fileName,
    names_append base (directoryPart_eq p) (slash_notMem_fileName p), follow_name _ h]

theorem stem_spec (x : FileName) : stem x = x ∨ ∃ e, '.' ∉ e ∧ x = stem x ++ '.' :: e := by
  unfold stem
  split
  · exact .inl rfl
  · exact .inl rfl
  · rename_i c r hne hrest
    refine .inr ⟨(x.reverse.takeWhile (· ≠ '.')).reverse, fun hdot => ?_, ?_⟩
    · simpa using List.mem_takeWhile_imp (List.mem_reverse.mp hdot)
    · have hc := List.head?_dropWhile_not (· ≠ '.') x.reverse
      rw [hrest] at hc
      obtain rfl : c = '.' := by simpa using hc
      have hparts := List.takeWhile_append_dropWhile (p := (· ≠ '.')) (l := x.reverse)
      rw [hrest] at hparts
      simpa using (congrArg List.reverse hparts).symm

/-- **An extension of two parts makes another name.** -/
theorem ne_stem_append {extension : List Char} (hdot : '.' ∈ extension) (x : FileName) :
    x ≠ stem x ++ '.' :: extension := by
  intro hsame
  rcases stem_spec x with hstem | ⟨e, he, hx⟩
  · rw [hstem] at hsame
    simpa using congrArg List.length hsame
  · have hcut : '.' :: e = '.' :: extension := List.append_cancel_left (hx.symm.trans hsame)
    exact he ((List.cons.inj hcut).2 ▸ hdot)

theorem stem_subset (x : FileName) : stem x ⊆ x := by
  rcases stem_spec x with hstem | ⟨e, -, hx⟩
  · rw [hstem]
    exact List.Subset.refl _
  · intro c hc
    rw [hx]
    exact List.mem_append_left _ hc

/-- **The neighbour of a path with another extension.** -/
theorem names_withExtension (base : List FileName) (p : Path) {extension : List Char}
    (hslash : '/' ∉ extension) (hlong : 2 ≤ extension.length) :
    names base (p.withExtension extension) =
      names base (directoryPart p) ++ [stem (fileName p) ++ '.' :: extension] := by
  rw [withExtension, List.append_assoc, names_append base (directoryPart_eq p), follow_name]
  · refine ⟨fun h => ?_, fun h => ?_, fun h => ?_⟩ <;>
    · have hlength := congrArg List.length h
      simp only [List.length_append, List.length_cons, List.length_nil] at hlength
      omega
  · rw [List.mem_append, List.mem_cons, not_or, not_or]
    exact ⟨fun h => slash_notMem_fileName p (stem_subset _ h), by decide, hslash⟩

end QueryGate.Path
