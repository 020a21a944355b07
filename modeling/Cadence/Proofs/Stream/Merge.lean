import Cadence.Proofs.Stream.Difference
/-!
# The union of any two lists

The union of two sources compares only their current heads, so on lists in any order it still
gives a definite interleaving. It keeps the whole left list in order. Of the right list it keeps
a subsequence, and drops one value at each tie, a value equal to the left head it met
(`ordUnion_interleaves`). So the union holds exactly the values of both lists, and is as long as
both less its ties. On two strictly ascending lists it is the ascending enumeration of the values
of either (`ordUnion_eq_sort`). The union source over two lists collects to this list
(`Union.toList_interleaves`).
-/
namespace Cadence

/-! ## Interleavings -/

/-- `zs` is made of the values of `xs` and of `ys`, each list's values in their own order. -/
inductive Interleaves {α : Type} : List α → List α → List α → Prop
  /-- Nothing interleaves nothing. -/
  | nil : Interleaves [] [] []
  /-- The next value is the left list's. -/
  | left {a : α} {xs ys zs : List α} : Interleaves xs ys zs → Interleaves (a :: xs) ys (a :: zs)
  /-- The next value is the right list's. -/
  | right {b : α} {xs ys zs : List α} : Interleaves xs ys zs → Interleaves xs (b :: ys) (b :: zs)

namespace Interleaves

variable {α : Type} {xs ys zs : List α}

theorem nil_right : ∀ xs : List α, Interleaves xs [] xs
  | [] => .nil
  | _ :: xs => .left (nil_right xs)

theorem nil_left : ∀ ys : List α, Interleaves [] ys ys
  | [] => .nil
  | _ :: ys => .right (nil_left ys)

theorem length_eq (h : Interleaves xs ys zs) : zs.length = xs.length + ys.length := by
  induction h with
  | nil => rfl
  | left _ ih => simp only [List.length_cons, ih]; omega
  | right _ ih => simp only [List.length_cons, ih]; omega

theorem sublist_left (h : Interleaves xs ys zs) : xs.Sublist zs := by
  induction h with
  | nil => exact .slnil
  | left _ ih => exact ih.cons_cons _
  | right _ ih => exact ih.cons _

theorem mem_iff (h : Interleaves xs ys zs) {z : α} : z ∈ zs ↔ z ∈ xs ∨ z ∈ ys := by
  induction h with
  | nil => simp
  | left _ ih => simp only [List.mem_cons, ih]; tauto
  | right _ ih => simp only [List.mem_cons, ih]; tauto

end Interleaves

/-! ## Ties -/

section Ties

variable {α : Type} [Ord α]

/-- The steps at which the union of two lists finds its two heads equal and drops the right
one. -/
def ordUnionTies : List α → List α → Nat
  | [], _ => 0
  | _ :: _, [] => 0
  | a :: xs, b :: ys =>
    match compare a b with
    | .lt => ordUnionTies xs (b :: ys)
    | .gt => ordUnionTies (a :: xs) ys
    | .eq => ordUnionTies xs ys + 1
termination_by xs ys => xs.length + ys.length

theorem ordUnionTies_cons_cons (a b : α) (xs ys : List α) :
    ordUnionTies (a :: xs) (b :: ys) = match compare a b with
      | .lt => ordUnionTies xs (b :: ys)
      | .gt => ordUnionTies (a :: xs) ys
      | .eq => ordUnionTies xs ys + 1 := by
  rw [ordUnionTies]

/-- The union of two lists interleaves the left list with what it keeps of the right; what it
drops of the right is one value per tie with a value of the left. -/
theorem ordUnion_interleaves (l r : List α) :
    ∃ kept dropped, Interleaves l kept (ordUnion l r) ∧ Interleaves kept dropped r ∧
      (∀ y ∈ dropped, ∃ x ∈ l, compare x y = .eq) ∧ dropped.length = ordUnionTies l r := by
  induction l, r using ordUnion.induct with
  | case1 r =>
    refine ⟨r, [], ?_, .nil_right r, by simp, by simp [ordUnionTies]⟩
    simpa using Interleaves.nil_left r
  | case2 a l =>
    refine ⟨[], [], ?_, .nil, by simp, by simp [ordUnionTies]⟩
    simpa using Interleaves.nil_right (a :: l)
  | case3 a l b r hc ih =>
    -- the left head is given; nothing of the right list is used up
    obtain ⟨kept, dropped, hl, hr, hd, hn⟩ := ih
    rw [ordUnion_cons_cons, hc]
    refine ⟨kept, dropped, .left hl, hr, fun y hy => ?_, by rw [ordUnionTies_cons_cons, hc, hn]⟩
    obtain ⟨x, hx, hxy⟩ := hd y hy
    exact ⟨x, List.mem_cons_of_mem _ hx, hxy⟩
  | case4 a l b r hc ih =>
    -- the right head is given, and kept
    obtain ⟨kept, dropped, hl, hr, hd, hn⟩ := ih
    rw [ordUnion_cons_cons, hc]
    exact ⟨b :: kept, dropped, .right hl, .left hr, hd, by rw [ordUnionTies_cons_cons, hc, hn]⟩
  | case5 a l b r hc ih =>
    -- a tie: the left head is given and the right head dropped
    obtain ⟨kept, dropped, hl, hr, hd, hn⟩ := ih
    rw [ordUnion_cons_cons, hc]
    refine ⟨kept, b :: dropped, .left hl, .right hr, fun y hy => ?_, ?_⟩
    · rcases List.mem_cons.1 hy with rfl | hy
      · exact ⟨a, List.mem_cons_self, hc⟩
      · obtain ⟨x, hx, hxy⟩ := hd y hy
        exact ⟨x, List.mem_cons_of_mem _ hx, hxy⟩
    · rw [ordUnionTies_cons_cons, hc, List.length_cons, hn]

end Ties

/-! ## Lists of a linear order -/

section Linear

variable {α : Type} [LinearOrder α]

theorem ordUnion_interleaves_mem (l r : List α) :
    ∃ kept dropped, Interleaves l kept (ordUnion l r) ∧ Interleaves kept dropped r ∧
      (∀ y ∈ dropped, y ∈ l) ∧ dropped.length = ordUnionTies l r := by
  obtain ⟨kept, dropped, hl, hr, hd, hn⟩ := ordUnion_interleaves l r
  refine ⟨kept, dropped, hl, hr, fun y hy => ?_, hn⟩
  obtain ⟨x, hx, hxy⟩ := hd y hy
  exact compare_eq_iff_eq.1 hxy ▸ hx

theorem mem_ordUnion {l r : List α} {x : α} : x ∈ ordUnion l r ↔ x ∈ l ∨ x ∈ r := by
  obtain ⟨kept, dropped, hl, hr, hd, -⟩ := ordUnion_interleaves_mem l r
  rw [hl.mem_iff]
  constructor
  · rintro (hx | hx)
    · exact .inl hx
    · exact .inr (hr.sublist_left.subset hx)
  · rintro (hx | hx)
    · exact .inl hx
    · rcases hr.mem_iff.1 hx with hx | hx
      · exact .inr hx
      · exact .inl (hd x hx)

theorem ordUnion_pairwise_lt {l r : List α} (hl : l.Pairwise (· < ·)) (hr : r.Pairwise (· < ·)) :
    (ordUnion l r).Pairwise (· < ·) := by
  induction l, r using ordUnion.induct with
  | case1 r => simpa using hr
  | case2 a l => simpa using hl
  | case3 a l b r hc ih =>
    rw [ordUnion_cons_cons, hc]
    have hab : a < b := compare_lt_iff_lt.1 hc
    obtain ⟨hal, hl⟩ := List.pairwise_cons.1 hl
    refine List.pairwise_cons.2 ⟨fun z hz => ?_, ih hl hr⟩
    rcases mem_ordUnion.1 hz with hz | hz
    · exact hal z hz
    · rcases List.mem_cons.1 hz with rfl | hz
      · exact hab
      · exact hab.trans ((List.pairwise_cons.1 hr).1 z hz)
  | case4 a l b r hc ih =>
    rw [ordUnion_cons_cons, hc]
    have hba : b < a := compare_gt_iff_gt.1 hc
    obtain ⟨hbr, hr⟩ := List.pairwise_cons.1 hr
    refine List.pairwise_cons.2 ⟨fun z hz => ?_, ih hl hr⟩
    rcases mem_ordUnion.1 hz with hz | hz
    · rcases List.mem_cons.1 hz with rfl | hz
      · exact hba
      · exact hba.trans ((List.pairwise_cons.1 hl).1 z hz)
    · exact hbr z hz
  | case5 a l b r hc ih =>
    rw [ordUnion_cons_cons, hc]
    obtain rfl : a = b := compare_eq_iff_eq.1 hc
    obtain ⟨hal, hl⟩ := List.pairwise_cons.1 hl
    obtain ⟨har, hr⟩ := List.pairwise_cons.1 hr
    refine List.pairwise_cons.2 ⟨fun z hz => ?_, ih hl hr⟩
    rcases mem_ordUnion.1 hz with hz | hz
    · exact hal z hz
    · exact har z hz

/-- The union of two strictly ascending lists enumerates the values of either, in ascending
order. -/
theorem ordUnion_eq_sort {l r : List α} (hl : l.SortedLT) (hr : r.SortedLT) :
    ordUnion l r = (l.toFinset ∪ r.toFinset).sort := by
  refine (ordUnion_pairwise_lt hl.pairwise hr.pairwise).sortedLT.eq_of_mem_iff
    (Finset.sortedLT_sort _) fun x => ?_
  rw [mem_ordUnion, Finset.mem_sort, Finset.mem_union, List.mem_toFinset, List.mem_toFinset]

theorem Union.toList_ofSources (l r : List α) :
    Source.toList (Union.ofSources l r : Union (List α) (List α) α) = .ok (ordUnion l r) :=
  (Union.run_ofPeeks (Peek.run_later.2 (Source.run_list l))
    (Peek.run_later.2 (Source.run_list r))).toList_eq
    (Union.bounded Source.bounded_list Source.bounded_list) ⟨trivial, trivial⟩

/-- The union of two lists interleaves the whole left list with a subsequence of the right, leaving
out one value per tie; on strictly ascending lists it enumerates the values of both. -/
theorem Union.toList_interleaves (l r : List α) :
    ∃ o, Source.toList (Union.ofSources l r : Union (List α) (List α) α) = .ok o ∧
      (∃ kept dropped, Interleaves l kept o ∧ Interleaves kept dropped r ∧
        (∀ y ∈ dropped, y ∈ l) ∧ dropped.length = ordUnionTies l r) ∧
      (∀ x, x ∈ o ↔ x ∈ l ∨ x ∈ r) ∧
      o.length + ordUnionTies l r = l.length + r.length ∧
      (l.SortedLT → r.SortedLT → o = (l.toFinset ∪ r.toFinset).sort) := by
  obtain ⟨kept, dropped, hl, hr, hdrop, hn⟩ := ordUnion_interleaves_mem l r
  refine ⟨ordUnion l r, toList_ofSources l r, ⟨kept, dropped, hl, hr, hdrop, hn⟩,
    fun x => mem_ordUnion, ?_, ordUnion_eq_sort⟩
  -- the union is the left list and the kept values; the right list is those and the ties
  rw [hl.length_eq, hr.length_eq, ← hn]
  omega

end Linear

end Cadence
