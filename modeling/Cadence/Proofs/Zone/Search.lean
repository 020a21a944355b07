import Cadence.Proofs.Zone.Offsets
import Mathlib.Data.List.Chain
import Mathlib.Order.Monotone.Basic

/-!
# Zones whose spans begin in order

A zone's spans are searched by bisection, on the UTC line for an instant and on the wall clock
for a wall time. The search only ever stops at a span whose bounds hold the second it looks for
(`Zone.bisect_eq_some`), and where the spans begin in order no other span holds it
(`Zone.bisect_eq_of_split`). So the instant found for a wall time lies in the span it was read
with and carries that span's offset, and a zone whose spans begin in order, with offsets less
than a day that lie within a day of one another, is regular (`TimeZone.regular_of_ordered`).
The day on its wall clock then moves second by second, so it never goes back when no change of
offset moves it back (`TimeZone.daysForward_of_ordered`). Both conditions are computable checks,
which New York's spans in the 2024a data pass (`TimeZone.newYork_regular`,
`TimeZone.newYork_daysForward`).
-/

namespace Cadence

namespace Zone

/-! ## Bisection -/

theorem bisect_eq_some {f : Nat → Ordering} {lo hi i : Nat} (h : bisect f lo hi = some i) :
    f i = .eq ∧ lo ≤ i ∧ i < hi := by
  fun_induction bisect f lo hi with
  | case1 lo hi _ mid _ ih =>
    obtain ⟨heq, hlo, hhi⟩ := ih h
    exact ⟨heq, by omega, hhi⟩
  | case2 lo hi _ mid _ ih =>
    obtain ⟨heq, hlo, hhi⟩ := ih h
    exact ⟨heq, hlo, by omega⟩
  | case3 lo hi _ mid hmid =>
    rw [← Option.some.inj h]
    exact ⟨hmid, by omega, by omega⟩
  | case4 => cases h

/-- Bisection finds the index whose comparison holds when every index before it compares to
its right and every index after it to its left. -/
theorem bisect_eq_of_split {f : Nat → Ordering} {lo hi k : Nat} (hlo : lo ≤ k) (hk : k < hi)
    (hlt : ∀ i, i < k → f i = .lt) (hgt : ∀ i, k < i → i < hi → f i = .gt) (heq : f k = .eq) :
    bisect f lo hi = some k := by
  fun_induction bisect f lo hi with
  | case1 lo hi _ mid hmid ih =>
    have hmk : mid < k := by
      by_contra hge
      rcases Nat.lt_or_eq_of_le (Nat.le_of_not_lt hge) with h | h
      · rw [hgt mid h (by omega)] at hmid
        cases hmid
      · rw [← h, heq] at hmid
        cases hmid
    exact ih (by omega) hk hgt
  | case2 lo hi _ mid hmid ih =>
    have hkm : k < mid := by
      by_contra hge
      rcases Nat.lt_or_eq_of_le (Nat.le_of_not_lt hge) with h | h
      · rw [hlt mid h] at hmid
        cases hmid
      · rw [h, heq] at hmid
        cases hmid
    exact ih hlo hkm (fun i h _ => hgt i h (by omega))
  | case3 lo hi _ mid hmid =>
    rcases Nat.lt_trichotomy mid k with h | h | h
    · rw [hlt mid h] at hmid
      cases hmid
    · rw [h]
    · rw [hgt mid h (by omega)] at hmid
      cases hmid
  | case4 lo hi hge => omega

namespace Bounds

variable {b : Bounds} {x : Int}

theorem compareTo_eq_eq_iff : b.compareTo x = .eq ↔ b.contains x := by
  obtain ⟨_ | a, _ | c⟩ := b <;> simp only [compareTo, contains] <;> split_ifs <;> simp_all

theorem compareTo_eq_lt {c : Int} (hlo : ∀ a ∈ b.lo, a ≤ x) (hhi : b.hi = some c) (hc : c ≤ x) :
    b.compareTo x = .lt := by
  obtain ⟨lo, hi⟩ := b
  simp only at hhi hlo
  subst hhi
  cases lo with
  | none => simp [compareTo, hc]
  | some a =>
    have ha : a ≤ x := hlo a rfl
    simp [compareTo, ha, hc, Int.not_lt.2 hc]

theorem compareTo_eq_gt {a : Int} (hlo : b.lo = some a) (ha : x < a) : b.compareTo x = .gt := by
  obtain ⟨lo, hi⟩ := b
  simp only at hlo
  subst hlo
  cases hi <;> simp [compareTo, Int.not_le.2 ha]

theorem contains_of (hlo : ∀ a ∈ b.lo, a ≤ x) (hhi : ∀ c ∈ b.hi, x < c) : b.contains x := by
  obtain ⟨lo, hi⟩ := b
  cases lo <;> cases hi <;> simp_all [contains]

/-- Bounds that hold `x` but not `x + 1` end at `x + 1`. -/
theorem hi_eq_succ (h : b.contains x) (h' : ¬ b.contains (x + 1)) : b.hi = some (x + 1) := by
  obtain ⟨lo, hi⟩ := b
  cases lo <;> cases hi <;> simp_all [contains] <;> omega

theorem le_of_contains (h : b.contains x) {a : Int} (ha : b.lo = some a) : a ≤ x := by
  obtain ⟨lo, hi⟩ := b
  simp only at ha
  subst ha
  cases hi <;> simp_all [contains]

theorem lt_of_contains (h : b.contains x) {c : Int} (hc : b.hi = some c) : x < c := by
  obtain ⟨lo, hi⟩ := b
  simp only at hc
  subst hc
  cases lo <;> simp_all [contains]

end Bounds

/-- What a wall time is on the UTC line, by its earliest possibility. -/
theorem Resolution.earliest_bind? {α β : Type} {r : Resolution α} {f : α → Option β} {b : β}
    (h : (r.bind? f).earliest = some b) : ∃ a, r.earliest = some a ∧ f a = some b := by
  cases r with
  | none => cases h
  | single a =>
    refine ⟨a, rfl, ?_⟩
    simp only [Resolution.bind?] at h
    split at h
    · rename_i hb
      rw [hb]
      exact h
    · cases h
  | ambiguous a a' =>
    refine ⟨a, rfl, ?_⟩
    simp only [Resolution.bind?] at h
    split at h
    · rename_i hb _
      rw [hb]
      exact h
    · cases h

/-! ## Spans in order -/

namespace SpanSet

variable {s : SpanSet}

/-- The spans begin in order on the UTC line. -/
def Ordered (s : SpanSet) : Prop := (s.rest.toList.map Prod.fst).IsChain (· ≤ ·)

instance (s : SpanSet) : Decidable s.Ordered :=
  inferInstanceAs (Decidable ((s.rest.toList.map Prod.fst).IsChain (· ≤ ·)))

theorem Ordered.le (hs : s.Ordered) {i j : Nat} (hij : i ≤ j) (hj : j < s.rest.size) :
    s.rest[i].1 ≤ s.rest[j].1 := by
  rcases Nat.lt_or_eq_of_le hij with hlt | rfl
  · have h := List.pairwise_iff_getElem.1 (List.isChain_iff_pairwise.1 hs) i j
      (by simp; omega) (by simp; omega) hlt
    simpa using h
  · exact Int.le_refl _

/-- Every span of the zone, the first and those of the later changes. -/
def all (s : SpanSet) : List Span := s.first :: s.rest.toList.map Prod.snd

theorem get_mem_all (i : Nat) : s.get i ∈ s.all := by
  unfold get all
  split
  · exact List.mem_cons_self
  · cases h : s.rest[i - 1]? with
    | none => exact List.mem_cons_self
    | some p =>
      refine List.mem_cons_of_mem _ (List.mem_map.2 ⟨p, ?_, rfl⟩)
      exact Array.mem_toList_iff.2 (Array.mem_of_getElem? h)

theorem spanAt_mem_all (y : Int) : s.spanAt y ∈ s.all := by
  unfold spanAt
  split
  · exact get_mem_all _
  · exact List.mem_cons_self

theorem utcBounds_lo {i : Nat} (h₀ : 0 < i) (hi : i ≤ s.rest.size) :
    (s.utcBounds i).lo = some s.rest[i - 1].1 := by
  simp [utcBounds, Nat.pos_iff_ne_zero.1 h₀, show i - 1 < s.rest.size by omega]

theorem utcBounds_hi {i : Nat} (hi : i < s.rest.size) : (s.utcBounds i).hi = some s.rest[i].1 := by
  simp [utcBounds, hi]

/-- A span before the one holding `y` ends at or before `y`. -/
theorem compareTo_before (hs : s.Ordered) {j : Nat} (hj : j < s.size) {y : Int}
    (hy : (s.utcBounds j).contains y) {i : Nat} (hij : i < j) :
    (s.utcBounds i).compareTo y = .lt := by
  have hjr : j ≤ s.rest.size := by unfold size at hj; omega
  have hstart : s.rest[j - 1].1 ≤ y := Bounds.le_of_contains hy (utcBounds_lo (by omega) hjr)
  refine Bounds.compareTo_eq_lt (fun a ha => ?_) (utcBounds_hi (by omega))
    (Int.le_trans (hs.le (by omega) (by omega)) hstart)
  rcases Nat.eq_zero_or_pos i with rfl | hi
  · simp [utcBounds] at ha
  · rw [utcBounds_lo hi (by omega), Option.mem_def, Option.some.injEq] at ha
    rw [← ha]
    exact Int.le_trans (hs.le (by omega) (by omega)) hstart

/-- A span after the one holding `y` starts after `y`. -/
theorem compareTo_after (hs : s.Ordered) {j : Nat} {y : Int} (hy : (s.utcBounds j).contains y)
    {i : Nat} (hji : j < i) (hi : i < s.size) : (s.utcBounds i).compareTo y = .gt := by
  have hir : i ≤ s.rest.size := by unfold size at hi; omega
  have hend : y < s.rest[j].1 := Bounds.lt_of_contains hy (utcBounds_hi (by omega))
  exact Bounds.compareTo_eq_gt (utcBounds_lo (by omega) hir)
    (Int.lt_of_lt_of_le hend (hs.le (by omega) (by omega)))

/-- Where the spans begin in order, the span in force at `y` is the one whose bounds hold it. -/
theorem spanAt_of_contains (hs : s.Ordered) {j : Nat} (hj : j < s.size) {y : Int}
    (hy : (s.utcBounds j).contains y) : s.spanAt y = s.get j := by
  unfold spanAt
  rw [bisect_eq_of_split (Nat.zero_le j) hj (fun i hij => compareTo_before hs hj hy hij)
    (fun i hji hi => compareTo_after hs hy hji hi) (Bounds.compareTo_eq_eq_iff.2 hy)]

theorem wallBounds_contains_iff {j : Nat} {x : Int} :
    (s.wallBounds j).contains x ↔ (s.utcBounds j).contains (x - (s.get j).total) := by
  simp only [wallBounds]
  rcases s.utcBounds j with ⟨_ | a, _ | c⟩ <;> simp [Bounds.contains] <;> omega

/-- The earliest span that shows a wall-clock second holds it within its wall-clock bounds. -/
theorem earliest_spansAtWall {x : Int} {a : Span} (h : (s.spansAtWall x).earliest = some a) :
    ∃ j, j < s.size ∧ (s.wallBounds j).contains x ∧ a = s.get j := by
  unfold spansAtWall at h
  split at h
  · cases h
  · rename_i hb
    obtain ⟨heq, -, hlt⟩ := bisect_eq_some hb
    refine ⟨0, hlt, Bounds.compareTo_eq_eq_iff.1 heq, ?_⟩
    split at h
    · exact (Option.some.inj h).symm
    · split at h <;> exact (Option.some.inj h).symm
  · rename_i i hb
    obtain ⟨heq, -, hlt⟩ := bisect_eq_some hb
    split at h
    · exact ⟨i, by omega, ‹_›, (Option.some.inj h).symm⟩
    · refine ⟨i + 1, hlt, Bounds.compareTo_eq_eq_iff.1 heq, ?_⟩
      split at h
      · exact (Option.some.inj h).symm
      · split at h <;> exact (Option.some.inj h).symm

/-! ## Days on the wall clock -/

/-- The spans begin strictly in order on the UTC line: none of them is empty. -/
def StrictlyOrdered (s : SpanSet) : Prop := (s.rest.toList.map Prod.fst).IsChain (· < ·)

instance (s : SpanSet) : Decidable s.StrictlyOrdered :=
  inferInstanceAs (Decidable ((s.rest.toList.map Prod.fst).IsChain (· < ·)))

theorem StrictlyOrdered.ordered (hs : s.StrictlyOrdered) : s.Ordered :=
  List.IsChain.imp (fun _ _ h => Int.le_of_lt h) hs

theorem StrictlyOrdered.lt (hs : s.StrictlyOrdered) {i j : Nat} (hij : i < j) (hj : j < s.rest.size) :
    s.rest[i].1 < s.rest[j].1 := by
  have h := List.pairwise_iff_getElem.1 (List.isChain_iff_pairwise.1 hs) i j
    (by simp; omega) (by simp; omega) hij
  simpa using h

theorem utcBounds_hi_size : (s.utcBounds s.rest.size).hi = none := by
  simp [utcBounds]

theorem get_succ {k : Nat} (hk : k < s.rest.size) : s.get (k + 1) = s.rest[k].2 := by
  simp [get, hk]

theorem getElem_all {k : Nat} (hk : k < s.all.length) : s.all[k] = s.get k := by
  cases k with
  | zero => rfl
  | succ k =>
    have hk' : k < s.rest.size := by simp [all] at hk; omega
    simp [all, get, hk']

/-- The index of the span that holds `y`: the first whose next change comes after `y`. -/
def indexAt (s : SpanSet) (y : Int) : Nat := s.rest.toList.findIdx fun p => decide (y < p.1)

theorem indexAt_le (y : Int) : s.indexAt y ≤ s.rest.size := by
  unfold indexAt
  simpa using @List.findIdx_le_length _ (fun p : Int × Span => decide (y < p.1)) s.rest.toList

theorem contains_indexAt (y : Int) : (s.utcBounds (s.indexAt y)).contains y := by
  have hle := indexAt_le (s := s) y
  apply Bounds.contains_of
  · intro a ha
    rcases Nat.eq_zero_or_pos (s.indexAt y) with h | hpos
    · rw [h] at ha
      cases ha
    · rw [utcBounds_lo hpos hle] at ha
      obtain rfl := Option.some.inj ha
      -- the change before the span found does not come after `y`
      have h := @List.not_of_lt_findIdx _ (fun p : Int × Span => decide (y < p.1)) s.rest.toList
        (s.indexAt y - 1) (by unfold indexAt at hpos ⊢; omega)
      simp only [Array.getElem_toList, decide_eq_false_iff_not, Int.not_lt] at h
      exact h
  · intro c hc
    have hlt : s.indexAt y < s.rest.size := by
      by_contra hge
      rw [show s.indexAt y = s.rest.size by omega, utcBounds_hi_size] at hc
      cases hc
    rw [utcBounds_hi hlt] at hc
    obtain rfl := Option.some.inj hc
    have h := @List.findIdx_getElem _ (fun p : Int × Span => decide (y < p.1)) s.rest.toList
      (by unfold indexAt at hlt; simpa using hlt)
    simp only [Array.getElem_toList, decide_eq_true_eq] at h
    exact h

/-- Every change of offset moves the wall clock to a day no earlier than that of the last second
before it. -/
def ChangesForward (s : SpanSet) : Prop :=
  ∀ c ∈ s.all.zip s.rest.toList,
    (c.2.1 - 1 + c.1.total) / secondsPerDay ≤ (c.2.1 + c.2.2.total) / secondsPerDay

instance (s : SpanSet) : Decidable s.ChangesForward :=
  inferInstanceAs (Decidable (∀ c ∈ s.all.zip s.rest.toList,
    (c.2.1 - 1 + c.1.total) / secondsPerDay ≤ (c.2.1 + c.2.2.total) / secondsPerDay))

theorem ChangesForward.at (hc : s.ChangesForward) {k : Nat} (hk : k < s.rest.size) :
    (s.rest[k].1 - 1 + (s.get k).total) / secondsPerDay ≤
      (s.rest[k].1 + s.rest[k].2.total) / secondsPerDay := by
  have hlen : k < (s.all.zip s.rest.toList).length := by simp [all]; omega
  have h := hc _ (List.getElem_mem hlen)
  rw [List.getElem_zip, getElem_all (by simp [all]; omega)] at h
  simpa using h

/-- The day on the wall clock at a UTC second. -/
def dayOfSecond (s : SpanSet) (x : Int) : Int := (x + (s.spanAt x).total) / secondsPerDay

/-- One second later the wall clock is on the same day or a later one. -/
theorem dayOfSecond_succ (hs : s.StrictlyOrdered) (hc : s.ChangesForward) (x : Int) :
    s.dayOfSecond x ≤ s.dayOfSecond (x + 1) := by
  have ho := hs.ordered
  have hx := contains_indexAt (s := s) x
  have hle := indexAt_le (s := s) x
  generalize s.indexAt x = j at hx hle
  unfold dayOfSecond
  rw [spanAt_of_contains ho (by unfold size; omega) hx]
  by_cases hx1 : (s.utcBounds j).contains (x + 1)
  · rw [spanAt_of_contains ho (by unfold size; omega) hx1]
    exact Int.ediv_le_ediv (by decide) (by omega)
  · -- `x + 1` is not in the span of `x`, so the next span starts there
    have hhi := Bounds.hi_eq_succ hx hx1
    have hjr : j < s.rest.size := by
      by_contra hge
      rw [show j = s.rest.size by omega, utcBounds_hi_size] at hhi
      cases hhi
    have hstart : s.rest[j].1 = x + 1 := Option.some.inj ((utcBounds_hi hjr).symm.trans hhi)
    have hnext : (s.utcBounds (j + 1)).contains (x + 1) := by
      apply Bounds.contains_of
      · intro a ha
        rw [utcBounds_lo (by omega) (by omega)] at ha
        obtain rfl := Option.some.inj ha
        simp [hstart]
      · intro c hc
        by_cases hj1 : j + 1 < s.rest.size
        · rw [utcBounds_hi hj1] at hc
          obtain rfl := Option.some.inj hc
          exact hstart ▸ hs.lt (Nat.lt_succ_self j) hj1
        · rw [show j + 1 = s.rest.size by omega, utcBounds_hi_size] at hc
          cases hc
    rw [spanAt_of_contains ho (by unfold size; omega) hnext, get_succ hjr]
    have h := hc.at hjr
    rw [hstart] at h
    simpa using h

end SpanSet

end Zone

theorem WallTime.seconds_toInstant (w : WallTime) (offset : Int) :
    (w.toInstant offset).seconds = w.seconds - offset := by
  simp only [Instant.seconds, WallTime.toInstant, WallTime.seconds, nanosPerSecond]
  omega

/-! ## Regular zones -/

namespace TimeZone

variable {z : TimeZone}

/-- In a zone whose spans begin in order, the instant found for a wall time carries the offset
of the span it was read with. -/
theorem shows_of_earliest (hs : z.spans.Ordered) {w : WallTime} {t : ZonedTime}
    (h : (z.ofWall w).earliest = some t) : z.Shows t := by
  obtain ⟨a, ha, hf⟩ := Zone.Resolution.earliest_bind? h
  obtain ⟨j, hj, hc, rfl⟩ := Zone.SpanSet.earliest_spansAtWall ha
  dsimp only at hf
  split at hf
  · cases hf
    show _ = (z.spans.spanAt _).total
    rw [WallTime.seconds_toInstant,
      Zone.SpanSet.spanAt_of_contains hs hj (Zone.SpanSet.wallBounds_contains_iff.1 hc)]
  · cases hf

/-- A zone whose spans begin in order, with offsets less than a day that lie within a day of
one another, is regular. -/
theorem regular_of_ordered (hs : z.spans.Ordered)
    (hlt : ∀ a ∈ z.spans.all, a.total < secondsPerDay)
    (hgt : ∀ a ∈ z.spans.all, -secondsPerDay < a.total)
    (hfall : ∀ a ∈ z.spans.all, ∀ b ∈ z.spans.all, a.total ≤ b.total + secondsPerDay) :
    z.Regular := by
  refine ⟨fun h => ?_, fun t => hlt _ (Zone.SpanSet.spanAt_mem_all _),
    fun t => hgt _ (Zone.SpanSet.spanAt_mem_all _),
    fun t u _ _ => hfall _ (Zone.SpanSet.spanAt_mem_all _) _ (Zone.SpanSet.spanAt_mem_all _)⟩
  obtain ⟨w', hw'⟩ := earliest_of_resolve h
  exact shows_of_earliest hs hw'

theorem dayAt_eq (z : TimeZone) (t : Instant) : z.dayAt t = z.spans.dayOfSecond t.seconds := by
  unfold dayAt offsetAt Zone.SpanSet.dayOfSecond
  generalize (z.spans.spanAt t.seconds).total = o
  simp only [Instant.toWall, Instant.seconds, nanosPerDay, secondsPerDay, nanosPerSecond]
  omega

/-- A zone whose spans begin strictly in order, and whose every change of offset moves the wall
clock to a day no earlier than the second before it, never goes back a day. -/
theorem daysForward_of_ordered (hs : z.spans.StrictlyOrdered) (hc : z.spans.ChangesForward) :
    z.DaysForward := by
  intro t u htu
  rw [dayAt_eq, dayAt_eq]
  have hsec : t.seconds ≤ u.seconds := Int.ediv_le_ediv (by decide) htu
  exact monotone_int_of_le_succ (Zone.SpanSet.dayOfSecond_succ hs hc) hsec

theorem regular_of_fixed (hfix : z.spans.rest = #[]) (hlt : z.spans.first.total < secondsPerDay)
    (hgt : -secondsPerDay < z.spans.first.total) : z.Regular := by
  -- one span: it begins in order, and its offset is all the zone has
  have hall : z.spans.all = [z.spans.first] := by simp [Zone.SpanSet.all, hfix]
  refine regular_of_ordered (by simp [Zone.SpanSet.Ordered, hfix]) ?_ ?_ ?_ <;>
    simp only [hall, List.mem_singleton]
  · rintro a rfl
    exact hlt
  · rintro a rfl
    exact hgt
  · rintro a rfl b rfl
    simp only [secondsPerDay]
    omega

/-- New York as the 2024a data gives it: local mean time until 1883, then Eastern time with its
daylight saving, war and peace time, through 2099. -/
def newYork : TimeZone :=
  let est : Zone.Span := ⟨-18000, 0, "EST"⟩
  let edt : Zone.Span := ⟨-18000, 3600, "EDT"⟩
  let ewt : Zone.Span := ⟨-18000, 3600, "EWT"⟩
  let ept : Zone.Span := ⟨-18000, 3600, "EPT"⟩
  ⟨"America/New_York", ⟨⟨-17762, 0, "LMT"⟩, #[
    (-2717633038, est), (-1633280400, edt), (-1615140000, est), (-1601830800, edt), (-1583690400, est),
    (-1570381200, edt), (-1551636000, est), (-1536512400, edt), (-1523210400, est), (-1504458000, edt),
    (-1491760800, est), (-1473008400, edt), (-1459706400, est), (-1441558800, edt), (-1428256800, est),
    (-1410109200, edt), (-1396807200, est), (-1378659600, edt), (-1365357600, est), (-1347210000, edt),
    (-1333908000, est), (-1315155600, edt), (-1301853600, est), (-1283706000, edt), (-1270404000, est),
    (-1252256400, edt), (-1238954400, est), (-1220806800, edt), (-1207504800, est), (-1189357200, edt),
    (-1176055200, est), (-1157302800, edt), (-1144605600, est), (-1125853200, edt), (-1112551200, est),
    (-1094403600, edt), (-1081101600, est), (-1062954000, edt), (-1049652000, est), (-1031504400, edt),
    (-1018202400, est), (-1000054800, edt), (-986752800, est), (-968000400, edt), (-955303200, est),
    (-936550800, edt), (-923248800, est), (-905101200, edt), (-891799200, est), (-880218000, ewt),
    (-769395600, ept), (-765396000, est), (-747248400, edt), (-733946400, est), (-715798800, edt),
    (-702496800, est), (-684349200, edt), (-671047200, est), (-652899600, edt), (-639597600, est),
    (-620845200, edt), (-608148000, est), (-589395600, edt), (-576093600, est), (-557946000, edt),
    (-544644000, est), (-526496400, edt), (-513194400, est), (-495046800, edt), (-481744800, est),
    (-463597200, edt), (-447271200, est), (-431542800, edt), (-415821600, est), (-400093200, edt),
    (-384372000, est), (-368643600, edt), (-352922400, est), (-337194000, edt), (-321472800, est),
    (-305744400, edt), (-289418400, est), (-273690000, edt), (-257968800, est), (-242240400, edt),
    (-226519200, est), (-210790800, edt), (-195069600, est), (-179341200, edt), (-163620000, est),
    (-147891600, edt), (-131565600, est), (-116442000, edt), (-100116000, est), (-84387600, edt),
    (-68666400, est), (-52938000, edt), (-37216800, est), (-21488400, edt), (-5767200, est),
    (9961200, edt), (25682400, est), (41410800, edt), (57736800, est), (73465200, edt),
    (89186400, est), (104914800, edt), (120636000, est), (126687600, edt), (152085600, est),
    (162370800, edt), (183535200, est), (199263600, edt), (215589600, est), (230713200, edt),
    (247039200, est), (262767600, edt), (278488800, est), (294217200, edt), (309938400, est),
    (325666800, edt), (341388000, est), (357116400, edt), (372837600, est), (388566000, edt),
    (404892000, est), (420015600, edt), (436341600, est), (452070000, edt), (467791200, est),
    (483519600, edt), (499240800, est), (514969200, edt), (530690400, est), (544604400, edt),
    (562140000, est), (576054000, edt), (594194400, est), (607503600, edt), (625644000, est),
    (638953200, edt), (657093600, est), (671007600, edt), (688543200, est), (702457200, edt),
    (719992800, est), (733906800, edt), (752047200, est), (765356400, edt), (783496800, est),
    (796806000, edt), (814946400, est), (828860400, edt), (846396000, est), (860310000, edt),
    (877845600, est), (891759600, edt), (909295200, est), (923209200, edt), (941349600, est),
    (954658800, edt), (972799200, est), (986108400, edt), (1004248800, est), (1018162800, edt),
    (1035698400, est), (1049612400, edt), (1067148000, est), (1081062000, edt), (1099202400, est),
    (1112511600, edt), (1130652000, est), (1143961200, edt), (1162101600, est), (1173596400, edt),
    (1194156000, est), (1205046000, edt), (1225605600, est), (1236495600, edt), (1257055200, est),
    (1268550000, edt), (1289109600, est), (1299999600, edt), (1320559200, est), (1331449200, edt),
    (1352008800, est), (1362898800, edt), (1383458400, est), (1394348400, edt), (1414908000, est),
    (1425798000, edt), (1446357600, est), (1457852400, edt), (1478412000, est), (1489302000, edt),
    (1509861600, est), (1520751600, edt), (1541311200, est), (1552201200, edt), (1572760800, est),
    (1583650800, edt), (1604210400, est), (1615705200, edt), (1636264800, est), (1647154800, edt),
    (1667714400, est), (1678604400, edt), (1699164000, est), (1710054000, edt), (1730613600, est),
    (1741503600, edt), (1762063200, est), (1772953200, edt), (1793512800, est), (1805007600, edt),
    (1825567200, est), (1836457200, edt), (1857016800, est), (1867906800, edt), (1888466400, est),
    (1899356400, edt), (1919916000, est), (1930806000, edt), (1951365600, est), (1962860400, edt),
    (1983420000, est), (1994310000, edt), (2014869600, est), (2025759600, edt), (2046319200, est),
    (2057209200, edt), (2077768800, est), (2088658800, edt), (2109218400, est), (2120108400, edt),
    (2140668000, est), (2152162800, edt), (2172722400, est), (2183612400, edt), (2204172000, est),
    (2215062000, edt), (2235621600, est), (2246511600, edt), (2267071200, est), (2277961200, edt),
    (2298520800, est), (2309410800, edt), (2329970400, est), (2341465200, edt), (2362024800, est),
    (2372914800, edt), (2393474400, est), (2404364400, edt), (2424924000, est), (2435814000, edt),
    (2456373600, est), (2467263600, edt), (2487823200, est), (2499318000, edt), (2519877600, est),
    (2530767600, edt), (2551327200, est), (2562217200, edt), (2582776800, est), (2593666800, edt),
    (2614226400, est), (2625116400, edt), (2645676000, est), (2656566000, edt), (2677125600, est),
    (2688620400, edt), (2709180000, est), (2720070000, edt), (2740629600, est), (2751519600, edt),
    (2772079200, est), (2782969200, edt), (2803528800, est), (2814418800, edt), (2834978400, est),
    (2846473200, edt), (2867032800, est), (2877922800, edt), (2898482400, est), (2909372400, edt),
    (2929932000, est), (2940822000, edt), (2961381600, est), (2972271600, edt), (2992831200, est),
    (3003721200, edt), (3024280800, est), (3035775600, edt), (3056335200, est), (3067225200, edt),
    (3087784800, est), (3098674800, edt), (3119234400, est), (3130124400, edt), (3150684000, est),
    (3161574000, edt), (3182133600, est), (3193023600, edt), (3213583200, est), (3225078000, edt),
    (3245637600, est), (3256527600, edt), (3277087200, est), (3287977200, edt), (3308536800, est),
    (3319426800, edt), (3339986400, est), (3350876400, edt), (3371436000, est), (3382930800, edt),
    (3403490400, est), (3414380400, edt), (3434940000, est), (3445830000, edt), (3466389600, est),
    (3477279600, edt), (3497839200, est), (3508729200, edt), (3529288800, est), (3540178800, edt),
    (3560738400, est), (3572233200, edt), (3592792800, est), (3603682800, edt), (3624242400, est),
    (3635132400, edt), (3655692000, est), (3666582000, edt), (3687141600, est), (3698031600, edt),
    (3718591200, est), (3730086000, edt), (3750645600, est), (3761535600, edt), (3782095200, est),
    (3792985200, edt), (3813544800, est), (3824434800, edt), (3844994400, est), (3855884400, edt),
    (3876444000, est), (3887334000, edt), (3907893600, est), (3919388400, edt), (3939948000, est),
    (3950838000, edt), (3971397600, est), (3982287600, edt), (4002847200, est), (4013737200, edt),
    (4034296800, est), (4045186800, edt), (4065746400, est), (4076636400, edt), (4097196000, est)]⟩⟩

/-- Every offset of New York lies between Eastern standard and daylight time. -/
theorem newYork_offsets : ∀ a ∈ newYork.spans.all, -18000 ≤ a.total ∧ a.total ≤ -14400 := by
  decide +kernel

theorem newYork_regular : newYork.Regular := by
  refine regular_of_ordered (by decide +kernel) (fun a ha => ?_) (fun a ha => ?_)
    (fun a ha b hb => ?_)
  · have := newYork_offsets a ha
    simp only [secondsPerDay]
    omega
  · have := newYork_offsets a ha
    simp only [secondsPerDay]
    omega
  · have := newYork_offsets a ha
    have := newYork_offsets b hb
    simp only [secondsPerDay]
    omega

theorem newYork_daysForward : newYork.DaysForward :=
  daysForward_of_ordered (by decide +kernel) (by decide +kernel)

end TimeZone

end Cadence
