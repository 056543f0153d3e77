import QueryGate.Proofs.Text.Words
import QueryGate.Proofs.Url.Percent

/-!
# Paths that are read

The path of a URL is read as segments without dots, each encoded for its place. A path of such
segments is read as it stands.

* `SegmentText seg`: a segment as reading leaves it.
* `PathText cs`: what follows the first slash of a path as reading leaves it.

Headlines: **`pathText_of_read`**, **`readPath_of_pathText`**.
-/

namespace QueryGate.Url

open Text

/-- A segment of a path as reading leaves it. -/
structure SegmentText (seg : List Char) : Prop where
  plain : Plain .path seg
  noDot : isDot seg = false

instance (seg : List Char) : Decidable (SegmentText seg) :=
  decidable_of_iff (Plain .path seg ∧ isDot seg = false) ⟨fun h => ⟨h.1, h.2⟩, fun h => ⟨h.1, h.2⟩⟩

/-- What follows the first slash of a path as reading leaves it. -/
def PathText (cs : List Char) : Prop := ∀ seg ∈ cs.splitOn '/', SegmentText seg

instance (cs : List Char) : Decidable (PathText cs) := inferInstanceAs (Decidable (∀ seg ∈ _, _))

variable {seg cs path : List Char} {segs stack : List (List Char)} {c : Char}

/-! ## Slashes -/

/-- A slash in front of each segment, or between the segments. -/
theorem flatMap_slash (h : segs ≠ []) :
    segs.flatMap ('/' :: ·) = '/' :: ['/'].intercalate segs := by
  induction segs with
  | nil => exact absurd rfl h
  | cons seg segs ih =>
    cases segs with
    | nil => simp
    | cons seg' segs =>
      rw [List.flatMap_cons, ih (by simp)]
      simp [List.intercalate]

/-- The segments of a text, each behind its slash. -/
theorem flatMap_splitOn (cs : List Char) :
    (cs.splitOn '/').flatMap ('/' :: ·) = '/' :: cs := by
  rw [flatMap_slash (by simp), List.intercalate_splitOn]

theorem slash_not_mem (h : seg ∈ cs.splitOn '/') : '/' ∉ seg := by
  induction cs generalizing seg with
  | nil =>
    obtain rfl : seg = [] := by simpa using h
    exact List.not_mem_nil
  | cons c cs ih =>
    rw [List.splitOn_cons_eq_if_modifyHead] at h
    split at h
    · rcases List.mem_cons.mp h with rfl | h
      · exact List.not_mem_nil
      · exact ih h
    · rename_i hc
      obtain ⟨first, others, hsplit⟩ := List.exists_cons_of_ne_nil (l := cs.splitOn '/') (by simp)
      rw [hsplit, List.modifyHead_cons] at h
      rcases List.mem_cons.mp h with rfl | h
      · have hfirst := ih (by rw [hsplit]; exact List.mem_cons_self)
        intro hm
        rcases List.mem_cons.mp hm with rfl | hm
        · exact hc (by simp)
        · exact hfirst hm
      · exact ih (by rw [hsplit]; exact List.mem_cons_of_mem _ h)

/-! ## Segments -/

/-- A segment as reading leaves it, between slashes. -/
structure Settled (seg : List Char) : Prop where
  text : SegmentText seg
  noSlash : '/' ∉ seg

theorem settled_nil : Settled [] := ⟨by decide, List.not_mem_nil⟩

/-- **A segment that is no dot is settled by encoding.** -/
theorem settled_encode (hslash : '/' ∉ seg) (hdouble : ¬ isDoubleDot seg = true)
    (hsingle : ¬ isSingleDot seg = true) : Settled (encode .path seg) where
  text.plain := plain_encode (by decide) seg
  text.noDot := by
    have hseg : isDot seg = false := by simp [isDot, hdouble, hsingle]
    cases hdot : isDot (encode .path seg) with
    | false => rfl
    | true =>
      rw [encode_of_isDot hdot, hseg] at hdot
      exact absurd hdot Bool.false_ne_true
  noSlash hm := (mem_encode hm).elim (fun hm => hslash hm.1) (by decide)

theorem mem_of_mem_leave (h : seg ∈ leave stack) : seg ∈ stack := by
  cases stack with
  | nil => exact h
  | cons top stack =>
    rw [leave] at h
    split at h
    · exact h
    · exact List.mem_cons_of_mem _ h

theorem settled_reverse (hseg : Settled seg) (h : ∀ seg ∈ stack, Settled seg) :
    ∀ s ∈ (seg :: stack).reverse, Settled s := fun s hs =>
  List.forall_mem_cons.mpr ⟨hseg, h⟩ s (List.mem_reverse.mp hs)

/-- **Resolving dots leaves settled segments.** -/
theorem settled_resolveDots (hstack : ∀ seg ∈ stack, Settled seg)
    (hsegs : ∀ seg ∈ segs, '/' ∉ seg) : ∀ seg ∈ resolveDots stack segs, Settled seg := by
  have hleave : ∀ {stack}, (∀ seg ∈ stack, Settled seg) → ∀ seg ∈ leave stack, Settled seg :=
    fun h seg hseg => h seg (mem_of_mem_leave hseg)
  fun_induction resolveDots stack segs with
  | case1 stack => exact fun seg hseg => hstack seg (List.mem_reverse.mp hseg)
  | case2 stack seg hdouble => exact settled_reverse settled_nil (hleave hstack)
  | case3 stack seg hdouble hsingle => exact settled_reverse settled_nil hstack
  | case4 stack seg hdouble hsingle =>
    have hseg := settled_encode (hsegs seg List.mem_cons_self) hdouble hsingle
    exact settled_reverse hseg hstack
  | case5 stack seg rest hrest hdouble ih =>
    exact ih (hleave hstack) fun s hs => hsegs s (List.mem_cons_of_mem _ hs)
  | case6 stack seg rest hrest hdouble hsingle ih =>
    exact ih hstack fun s hs => hsegs s (List.mem_cons_of_mem _ hs)
  | case7 stack seg rest hrest hdouble hsingle ih =>
    have hseg := settled_encode (hsegs seg List.mem_cons_self) hdouble hsingle
    exact ih (List.forall_mem_cons.mpr ⟨hseg, hstack⟩) fun s hs =>
      hsegs s (List.mem_cons_of_mem _ hs)

theorem resolveDots_ne_nil (h : segs ≠ []) : resolveDots stack segs ≠ [] := by
  fun_induction resolveDots stack segs with
  | case1 stack => exact absurd rfl h
  | case2 | case3 | case4 => simp
  | case5 stack seg rest hrest hdouble ih => exact ih (by rintro rfl; exact hrest rfl)
  | case6 stack seg rest hrest hdouble hsingle ih => exact ih (by rintro rfl; exact hrest rfl)
  | case7 stack seg rest hrest hdouble hsingle ih => exact ih (by rintro rfl; exact hrest rfl)

/-- Settled segments are left as they stand. -/
theorem resolveDots_of_segmentText (h : ∀ seg ∈ segs, SegmentText seg) :
    resolveDots stack segs = stack.reverse ++ segs := by
  have hdots : ∀ {seg}, SegmentText seg → isDoubleDot seg = false ∧ isSingleDot seg = false :=
    fun hseg => by simpa [isDot, and_comm] using hseg.noDot
  fun_induction resolveDots stack segs with
  | case1 stack => simp
  | case2 stack seg hdouble =>
    exact absurd hdouble (by simp [hdots (h seg List.mem_cons_self)])
  | case3 stack seg hdouble hsingle =>
    exact absurd hsingle (by simp [hdots (h seg List.mem_cons_self)])
  | case4 stack seg hdouble hsingle =>
    rw [encode_of_plain (h seg List.mem_cons_self).plain, List.reverse_cons]
  | case5 stack seg rest hrest hdouble ih =>
    exact absurd hdouble (by simp [hdots (h seg List.mem_cons_self)])
  | case6 stack seg rest hrest hdouble hsingle ih =>
    exact absurd hsingle (by simp [hdots (h seg List.mem_cons_self)])
  | case7 stack seg rest hrest hdouble hsingle ih =>
    rw [ih fun s hs => h s (List.mem_cons_of_mem _ hs),
      encode_of_plain (h seg List.mem_cons_self).plain, List.reverse_cons, List.append_assoc]
    rfl

/-! ## Paths -/

/-- The path that settled segments make. -/
theorem pathText_of_settled (hne : segs ≠ []) (hsegs : ∀ seg ∈ segs, Settled seg)
    (h : segs.flatMap ('/' :: ·) = '/' :: path) : PathText path := by
  rw [flatMap_slash hne] at h
  obtain rfl := (List.cons.inj h).2
  unfold PathText
  rw [List.splitOn_intercalate '/' (fun seg hseg => (hsegs seg hseg).noSlash) hne]
  exact fun seg hseg => (hsegs seg hseg).text

/-- **What is read as a path has segments without dots**, each encoded for its place. -/
theorem pathText_of_read (h : readPath cs = '/' :: path) : PathText path := by
  have hread : ∀ {cs : List Char},
      (resolveDots [] (cs.splitOn '/')).flatMap ('/' :: ·) = '/' :: path →
      PathText path := fun {cs} h =>
    pathText_of_settled (resolveDots_ne_nil (by simp))
      (settled_resolveDots (by simp) fun seg hseg => slash_not_mem hseg) h
  unfold readPath at h
  split at h
  · exact absurd h (by simp)
  · exact hread h
  · exact hread h

theorem mem_pathText (h : PathText cs) (hc : c ∈ cs) :
    c = '/' ∨ EncodeSet.path c = false ∧ c.toNat < 128 := by
  have hmem : c ∈ (cs.splitOn '/').flatMap ('/' :: ·) := by
    rw [flatMap_splitOn]
    exact List.mem_cons_of_mem _ hc
  obtain ⟨seg, hseg, hc⟩ := List.mem_flatMap.mp hmem
  exact (List.mem_cons.mp hc).imp_right ((h seg hseg).plain c)

/-- Neither a query nor a fragment begins in such a path. -/
theorem keep_of_pathText (h : PathText cs) :
    ∀ c ∈ '/' :: cs, (c != '?' && c != '#') = true := by
  intro c hc
  rcases List.mem_cons.mp hc with rfl | hc
  · decide
  rcases mem_pathText h hc with rfl | ⟨hset, -⟩
  · decide
  · have hquery : c ≠ '?' := ne_of_set hset (by decide)
    have hfragment : c ≠ '#' := ne_of_set hset (by decide)
    simp [hquery, hfragment]

/-- **A path of such segments is read as it stands.** -/
theorem readPath_of_pathText (h : PathText cs) : readPath ('/' :: cs) = '/' :: cs := by
  have htake : ('/' :: cs ++ []).takeWhile (fun c => c != '?' && c != '#') = '/' :: cs :=
    takeWhile_run (keep_of_pathText h) (by simp)
  rw [List.append_nil] at htake
  unfold readPath
  rw [htake]
  show (resolveDots [] (cs.splitOn '/')).flatMap ('/' :: ·) = '/' :: cs
  rw [resolveDots_of_segmentText h, List.reverse_nil, List.nil_append, flatMap_splitOn]

theorem readQuery_of_pathText (h : PathText cs) : readQuery ('/' :: cs) = none := by
  have hdrop : ('/' :: cs ++ []).dropWhile (fun c => c != '?' && c != '#') = [] :=
    dropWhile_run (keep_of_pathText h) (by simp)
  rw [List.append_nil] at hdrop
  unfold readQuery
  rw [hdrop]

end QueryGate.Url
