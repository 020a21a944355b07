import Cadence.Proofs.Rule.StampText

/-!
# Values of rule parts read back

The value of each part of a rule is written by the canonical text and read back by one of the
value readers of the parser: a positive number for `INTERVAL` and `COUNT`, a set of numbers for
the numeric `BY` parts, a set of month days, a list of weekdays, and the codes of frequencies
and weekdays. For each reader this module proves two facts: the text of a value in the
reader's range reads back as that value, and every value the reader returns is in its range.
The ranges are `InRange`, `IsMonthDay` and `WeekdayNum.Allowed`, and the sets are kept
ascending without repeats (`SortedIn`), as the parser's insertion keeps them.
-/

namespace Cadence

open Cadence.Text

/-! ## Folds in `Except` -/

@[simp] theorem Except.ok_bind {ε α β : Type} (a : α) (f : α → Except ε β) :
    (Except.ok a >>= f) = f a := rfl

@[simp] theorem Except.error_bind {ε α β : Type} (e : ε) (f : α → Except ε β) :
    (Except.error e >>= f) = Except.error e := rfl

@[simp] theorem Except.pure_eq {ε α : Type} (a : α) : (pure a : Except ε α) = .ok a := rfl

theorem Except.bind_eq_ok {ε α β : Type} {x : Except ε α} {f : α → Except ε β} {b : β} :
    x >>= f = .ok b ↔ ∃ a, x = .ok a ∧ f a = .ok b := by
  cases x <;> simp

section Fold

variable {ε α β : Type} {f : β → α → Except ε β}

theorem foldlM_eq_ok (g : β → α → β) {l : List α} (h : ∀ b, ∀ a ∈ l, f b a = .ok (g b a))
    (b : β) : l.foldlM f b = .ok (l.foldl g b) := by
  induction l generalizing b with
  | nil => rfl
  | cons a l ih =>
    rw [List.foldlM_cons, h b a List.mem_cons_self, Except.ok_bind, List.foldl_cons]
    exact ih (fun b' a' ha' => h b' a' (List.mem_cons_of_mem _ ha')) _

theorem foldlM_invariant (P : β → Prop) :
    ∀ {l : List α}, (∀ b, ∀ a ∈ l, ∀ b', P b → f b a = .ok b' → P b') →
      ∀ {b b' : β}, P b → l.foldlM f b = .ok b' → P b'
  | [], _, b, b', hb, h => by
    cases h
    exact hb
  | a :: l, hstep, b, b', hb, h => by
    rw [List.foldlM_cons, Except.bind_eq_ok] at h
    obtain ⟨c, hc, hrest⟩ := h
    exact foldlM_invariant P (fun b' a' ha' => hstep b' a' (List.mem_cons_of_mem _ ha'))
      (hstep b a List.mem_cons_self c hb hc) hrest

end Fold

/-! ## Sets kept as ascending lists -/

section Sorted

variable {α : Type} [LinearOrder α]

theorem insertSorted_of_lt {x : α} : ∀ {acc : List α}, (∀ y ∈ acc, y < x) →
    insertSorted x acc = acc ++ [x]
  | [], _ => rfl
  | y :: ys, h => by
    have hyx : y < x := h y List.mem_cons_self
    have hrest := insertSorted_of_lt fun z hz => h z (List.mem_cons_of_mem _ hz)
    simp [insertSorted, not_lt.2 hyx.le, hyx, hrest]

theorem mem_insertSorted {x z : α} : ∀ {acc : List α}, z ∈ insertSorted x acc ↔ z = x ∨ z ∈ acc
  | [] => by simp [insertSorted]
  | y :: ys => by
    unfold insertSorted
    split_ifs with hxy hyx
    · simp
    · simp only [List.mem_cons, mem_insertSorted]
      tauto
    · -- neither is below the other, so `x` is already there
      have hxy' : x = y := le_antisymm (not_lt.1 hyx) (not_lt.1 hxy)
      subst hxy'
      simp

theorem pairwise_insertSorted {x : α} : ∀ {acc : List α}, acc.Pairwise (· < ·) →
    (insertSorted x acc).Pairwise (· < ·)
  | [], _ => by simp [insertSorted]
  | y :: ys, h => by
    obtain ⟨hy, hys⟩ := List.pairwise_cons.1 h
    unfold insertSorted
    split_ifs with hxy hyx
    · refine List.pairwise_cons.2 ⟨fun z hz => ?_, h⟩
      rcases List.mem_cons.1 hz with rfl | hz
      · exact hxy
      · exact hxy.trans (hy z hz)
    · refine List.pairwise_cons.2 ⟨fun z hz => ?_, pairwise_insertSorted hys⟩
      rcases mem_insertSorted.1 hz with rfl | hz
      · exact hyx
      · exact hy z hz
    · exact h

/-- An ascending list without repeats whose elements all satisfy `P`: how the parser keeps a
numeric `BY` part. -/
def SortedIn (P : α → Prop) (xs : List α) : Prop :=
  xs.Pairwise (· < ·) ∧ ∀ x ∈ xs, P x

theorem SortedIn.nil (P : α → Prop) : SortedIn P [] := ⟨List.Pairwise.nil, by simp⟩

theorem SortedIn.insertSorted {P : α → Prop} {xs : List α} {x : α} (hs : SortedIn P xs)
    (hx : P x) : SortedIn P (insertSorted x xs) := by
  refine ⟨pairwise_insertSorted hs.1, fun z hz => ?_⟩
  rcases mem_insertSorted.1 hz with rfl | hz
  · exact hx
  · exact hs.2 z hz

theorem foldl_insertSorted {acc xs : List α} (hs : (acc ++ xs).Pairwise (· < ·)) :
    xs.foldl (fun acc x => insertSorted x acc) acc = acc ++ xs := by
  induction xs generalizing acc with
  | nil => simp
  | cons x xs ih =>
    have hx : ∀ y ∈ acc, y < x := fun y hy =>
      (List.pairwise_append.1 hs).2.2 y hy x List.mem_cons_self
    rw [List.foldl_cons, insertSorted_of_lt hx, ih (by simpa using hs)]
    simp

theorem mem_foldl_insertSorted {z : α} : ∀ {vals acc : List α},
    z ∈ vals.foldl (fun acc x => insertSorted x acc) acc ↔ z ∈ vals ∨ z ∈ acc
  | [], _ => by simp
  | x :: vals, acc => by
    rw [List.foldl_cons, mem_foldl_insertSorted, mem_insertSorted, List.mem_cons]
    tauto

theorem pairwise_foldl_insertSorted : ∀ {vals acc : List α}, acc.Pairwise (· < ·) →
    (vals.foldl (fun acc x => insertSorted x acc) acc).Pairwise (· < ·)
  | [], _, h => h
  | _ :: _, _, h => by
    rw [List.foldl_cons]
    exact pairwise_foldl_insertSorted (pairwise_insertSorted h)

theorem foldl_insertSorted_eq_iff {vals xs : List α} :
    vals.foldl (fun acc x => insertSorted x acc) [] = xs ↔
      xs.Pairwise (· < ·) ∧ ∀ x, x ∈ xs ↔ x ∈ vals := by
  constructor
  · rintro rfl
    exact ⟨pairwise_foldl_insertSorted List.Pairwise.nil,
      fun x => by simp [mem_foldl_insertSorted]⟩
  · rintro ⟨hsorted, hmem⟩
    refine List.Pairwise.eq_of_mem_iff (pairwise_foldl_insertSorted List.Pairwise.nil) hsorted
      fun x => ?_
    rw [mem_foldl_insertSorted, hmem]
    simp

end Sorted

/-! ## Lists without repeats -/

theorem foldl_appendNew {α : Type} [DecidableEq α] {acc xs : List α} (h : (acc ++ xs).Nodup) :
    xs.foldl (fun acc x => if x ∈ acc then acc else acc ++ [x]) acc = acc ++ xs := by
  induction xs generalizing acc with
  | nil => simp
  | cons x xs ih =>
    have hx : x ∉ acc := fun hx => (List.nodup_append.1 h).2.2 x hx x List.mem_cons_self rfl
    rw [List.foldl_cons, if_neg hx, ih (by simpa using h)]
    simp

theorem nodup_appendNew {α : Type} [DecidableEq α] {acc : List α} (h : acc.Nodup) (x : α) :
    (if x ∈ acc then acc else acc ++ [x]).Nodup := by
  split_ifs with hx
  · exact h
  · exact List.nodup_append.2 ⟨h, by simp, fun a ha b hb => by
      rw [List.mem_singleton.1 hb]; rintro rfl; exact hx ha⟩


theorem mem_appendNew {α : Type} [DecidableEq α] {acc : List α} {x y : α}
    (h : y ∈ (if x ∈ acc then acc else acc ++ [x])) : y = x ∨ y ∈ acc := by
  split_ifs at h
  · exact Or.inr h
  · rcases List.mem_append.1 h with h | h
    · exact Or.inr h
    · exact Or.inl (List.mem_singleton.1 h)

/-! ## Values of parts -/

/-- The text of a part's value: words joined by commas. -/
def IsValue (s : String) : Prop := ∀ c ∈ s.toList, IsWordChar c ∨ c = ','

theorem IsWord.isValue {s : String} (h : IsWord s) : IsValue s := fun c hc => Or.inl (h c hc)

theorem IsValue.not_blank {v : String} (h : IsValue v) : ∀ c ∈ v.toList, isBlank c = false := by
  intro c hc
  rcases h c hc with hc | rfl
  · exact hc.not_blank
  · decide

theorem isValue_comma {parts : List String} (hw : ∀ p ∈ parts, IsWord p) :
    IsValue (",".intercalate parts) :=
  forall_mem_intercalate (fun c hc => by simp at hc; exact Or.inr hc)
    fun p hp c hc => Or.inl (hw p hp c hc)

theorem splitAll_comma {parts : List String} (hne : parts ≠ []) (hw : ∀ p ∈ parts, IsWord p) :
    splitAll ',' (",".intercalate parts) = parts :=
  splitAll_intercalate hne fun p hp => (hw p hp).not_mem (by unfold IsWordChar; decide)

theorem splitAll_joinNumbers {α : Type} [ToString α] {xs : List α} (hne : xs ≠ [])
    (hw : ∀ x : α, IsWord (toString x)) : splitAll ',' (joinNumbers xs) = xs.map toString :=
  splitAll_comma (by simpa using hne) (List.forall_mem_map.2 fun x _ => hw x)

/-- Numbers from `lo` to `hi`: the values of a numeric `BY` part. -/
def InRange (lo hi : Nat) (n : Nat) : Prop := lo ≤ n ∧ n ≤ hi

instance (lo hi n : Nat) : Decidable (InRange lo hi n) :=
  inferInstanceAs (Decidable (lo ≤ n ∧ n ≤ hi))

/-- A month day: from -31 to 31, but not 0. -/
def IsMonthDay (d : Int) : Prop := d ≠ 0 ∧ -31 ≤ d ∧ d ≤ 31

theorem readPositive_natString {key : String} {n : Nat} (h : InRange 1 (2 ^ 32 - 1) n) :
    readPositive key (toString n) = .ok n := by
  have ⟨h1, h2⟩ := h
  rw [readPositive, unsignedOfText?_natString (by omega : n < 2 ^ 32)]
  simp [h1]

theorem InRange.of_readPositive {key value : String} {n : Nat}
    (h : readPositive key value = .ok n) : InRange 1 (2 ^ 32 - 1) n := by
  unfold readPositive at h
  split at h
  · rename_i m hm
    split at h
    · cases h
      have hlt := unsignedOfText?_lt hm
      exact ⟨by assumption, by omega⟩
    · cases h
  · cases h

theorem readNumberSet_joinNumbers {key : String} {lo hi : Nat} {xs : List Nat}
    (hs : SortedIn (InRange lo hi) xs) (hhi : hi < 2 ^ 32) (hne : xs ≠ []) :
    readNumberSet key (joinNumbers xs) lo hi = .ok xs := by
  rw [readNumberSet, splitAll_joinNumbers hne isWord_natString, List.foldlM_map,
    foldlM_eq_ok (fun acc n => insertSorted n acc), foldl_insertSorted (by simpa using hs.1)]
  · rfl
  · intro acc n hn
    have ⟨hlo, hle⟩ := hs.2 n hn
    simp only [(isWord_natString n).trim_eq, unsignedOfText?_natString (by omega : n < 2 ^ 32)]
    simp [hlo, hle]

theorem SortedIn.of_readNumberSet {key value : String} {lo hi : Nat} {xs : List Nat}
    (h : readNumberSet key value lo hi = .ok xs) : SortedIn (InRange lo hi) xs := by
  refine foldlM_invariant _ ?_ (SortedIn.nil _) h
  intro acc raw _ acc' hacc hstep
  split at hstep
  · split at hstep
    · cases hstep
      exact hacc.insertSorted (by assumption)
    · cases hstep
  · cases hstep

theorem readMonthDays_joinNumbers {xs : List Int} (hs : SortedIn IsMonthDay xs) (hne : xs ≠ []) :
    readMonthDays (joinNumbers xs) = .ok xs := by
  rw [readMonthDays, splitAll_joinNumbers hne isWord_intString, List.foldlM_map,
    foldlM_eq_ok (fun acc d => insertSorted d acc), foldl_insertSorted (by simpa using hs.1)]
  · rfl
  · intro acc d hd
    have ⟨h0, hlo, hhi⟩ := hs.2 d hd
    simp only [(isWord_intString d).trim_eq, signedOfText?_intString
      (show -(2 ^ (32 - 1) : Int) ≤ d by omega) (show d < 2 ^ (32 - 1) by omega)]
    simp [h0, hlo, hhi]

theorem SortedIn.of_readMonthDays {value : String} {xs : List Int}
    (h : readMonthDays value = .ok xs) : SortedIn IsMonthDay xs := by
  refine foldlM_invariant _ ?_ (SortedIn.nil _) h
  intro acc raw _ acc' hacc hstep
  split at hstep
  · split at hstep
    · cases hstep
      exact hacc.insertSorted (by assumption)
    · cases hstep
  · cases hstep


/-! ## Weekdays and frequencies -/

theorem Weekday.isWord_code (w : Weekday) : IsWord w.code := by
  cases w <;> (unfold IsWord IsWordChar; simp [Weekday.code])

theorem Frequency.isWord_code (f : Frequency) : IsWord f.code := by
  cases f <;> (unfold IsWord IsWordChar; simp [Frequency.code])

theorem Frequency.ofCode?_code (f : Frequency) : Frequency.ofCode? f.code = some f := by
  rw [Frequency.ofCode?, f.isWord_code.asciiUpper_eq]
  cases f <;> decide

theorem Weekday.ofCode?_code (w : Weekday) : Weekday.ofCode? (asciiUpper w.code) = some w := by
  rw [w.isWord_code.asciiUpper_eq]
  cases w <;> decide

/-- A weekday of a `BYDAY` part whose position, where one is written, is an allowed one. -/
def WeekdayNum.Allowed (d : WeekdayNum) : Prop :=
  ∀ p, d.position = some p → p ∈ allowedPositions

theorem WeekdayNum.isWord_render (d : WeekdayNum) : IsWord d.render := by
  unfold WeekdayNum.render
  split
  · exact (isWord_renderSigned _).append d.weekday.isWord_code
  · exact d.weekday.isWord_code

theorem WeekdayNum.ofToken?_render {d : WeekdayNum} (hd : d.Allowed) :
    WeekdayNum.ofToken? d.render = some d := by
  obtain ⟨w, pos⟩ := d
  cases pos with
  | none => cases w <;> decide
  | some p =>
    have hp : p ∈ allowedPositions := hd p rfl
    simp only [allowedPositions, List.mem_cons, List.not_mem_nil, or_false] at hp
    rcases hp with rfl | rfl | rfl | rfl | rfl | rfl <;> cases w <;> decide

theorem WeekdayNum.allowed_of_ofToken? {s : String} {d : WeekdayNum}
    (h : WeekdayNum.ofToken? s = some d) : d.Allowed := by
  intro p hp
  simp only [WeekdayNum.ofToken?, Option.bind_eq_bind] at h
  split_ifs at h <;> simp [Option.bind_eq_some_iff] at h
  · -- no position is written
    obtain ⟨w, -, rfl⟩ := h
    cases hp
  · obtain ⟨w, -, q, -, hq, rfl⟩ := h
    cases hp
    exact hq


theorem readByDay_render {ds : List WeekdayNum} (hnd : ds.Nodup) (hall : ∀ d ∈ ds, d.Allowed)
    (hne : ds ≠ []) : readByDay (",".intercalate (ds.map WeekdayNum.render)) = .ok ds := by
  rw [readByDay, splitAll_comma (by simpa using hne)
      (List.forall_mem_map.2 fun d _ => d.isWord_render), List.foldlM_map,
    foldlM_eq_ok (fun days d => if d ∈ days then days else days ++ [d]),
    foldl_appendNew (by simpa using hnd)]
  · rfl
  · intro days d hd
    simp only [d.isWord_render.trim_eq, d.isWord_render.asciiUpper_eq,
      WeekdayNum.ofToken?_render (hall d hd)]
    rfl

theorem allowed_of_readByDay {value : String} {ds : List WeekdayNum}
    (h : readByDay value = .ok ds) : ds.Nodup ∧ ∀ d ∈ ds, d.Allowed := by
  refine foldlM_invariant (fun ds => ds.Nodup ∧ ∀ d ∈ ds, d.Allowed) ?_ ⟨List.nodup_nil, by simp⟩ h
  intro days raw _ days' ⟨hnd, hall⟩ hstep
  split at hstep
  · rename_i d hd
    cases hstep
    refine ⟨nodup_appendNew hnd d, fun e he => ?_⟩
    rcases mem_appendNew he with rfl | he
    · exact WeekdayNum.allowed_of_ofToken? hd
    · exact hall e he
  · cases hstep

end Cadence
