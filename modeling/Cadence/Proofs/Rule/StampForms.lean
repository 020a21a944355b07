import Cadence.Proofs.Rule.StampText
/-!
# The texts a compact timestamp is read from

Once blanks are trimmed, the reader of compact timestamps takes exactly three forms of text:
`YYYYMMDD`; `YYYYMMDD`, a `T` and `HHMMSS`; and that with a final `Z`. The letters may be in
either case, every other character is a decimal digit, the digits name a day of the calendar,
and the time of day is before 24:00:00 (`Stamp.ofText?_isSome_iff`). Together with the read-back
laws of compact stamps, a stamp read is written as the trimmed text with its letters upper-cased,
and every stamp that its compact text shows exactly is read back from it
(`Stamp.ofText?_compact_forms`).
-/
namespace Cadence

open Cadence.Text

/-! ## The forms -/

/-- `YYYYMMDD`: four, two and two decimal digits that name a day of the calendar. -/
def DateText (cs : List Char) : Prop :=
  ∃ Y M D y m d, cs = Y ++ M ++ D ∧ Y.length = 4 ∧ M.length = 2 ∧ D.length = 2 ∧
    DigitRun Y y ∧ DigitRun M m ∧ DigitRun D d ∧ (⟨y, m, d⟩ : Date).Valid

/-- `HHMMSS`: two decimal digits each for an hour up to 23 and a minute and a second up to
59. -/
def ClockText (cs : List Char) : Prop :=
  ∃ H M S h m s, cs = H ++ M ++ S ∧ H.length = 2 ∧ M.length = 2 ∧ S.length = 2 ∧
    DigitRun H h ∧ DigitRun M m ∧ DigitRun S s ∧ h ≤ 23 ∧ m ≤ 59 ∧ s ≤ 59

/-- The three compact forms of a timestamp. -/
inductive StampText : List Char → Prop
  /-- `YYYYMMDD`. -/
  | date {D : List Char} : DateText D → StampText D
  /-- `YYYYMMDDTHHMMSS`, the `T` in either case. -/
  | wall {D C : List Char} {x : Char} : DateText D → (x = 'T' ∨ x = 't') → ClockText C →
      StampText (D ++ x :: C)
  /-- `YYYYMMDDTHHMMSSZ`, each letter in either case. -/
  | utc {D C : List Char} {x z : Char} : DateText D → (x = 'T' ∨ x = 't') → ClockText C →
      (z = 'Z' ∨ z = 'z') → StampText (D ++ x :: C ++ [z])

theorem DigitRun.isDigit {ds : List Char} {n : Nat} (h : DigitRun ds n) :
    ∀ c ∈ ds, isDigit c = true :=
  fun c hc => by rw [isDigit_eq]; exact h.2.1 c hc

theorem isDigit_of_runs {A B C : List Char} {a b c : Nat} (hA : DigitRun A a) (hB : DigitRun B b)
    (hC : DigitRun C c) : ∀ x ∈ A ++ B ++ C, isDigit x = true := by
  intro x hx
  simp only [List.mem_append] at hx
  rcases hx with (hx | hx) | hx
  · exact hA.isDigit x hx
  · exact hB.isDigit x hx
  · exact hC.isDigit x hx

namespace DateText

variable {cs : List Char}

theorem length (h : DateText cs) : cs.length = 8 := by
  obtain ⟨Y, M, D, -, -, -, rfl, hY, hM, hD, -⟩ := h
  simp [hY, hM, hD]

theorem digits (h : DateText cs) : ∀ c ∈ cs, isDigit c = true := by
  obtain ⟨Y, M, D, y, m, d, rfl, -, -, -, hy, hm, hd, -⟩ := h
  exact isDigit_of_runs hy hm hd

end DateText

namespace ClockText

variable {cs : List Char}

theorem length (h : ClockText cs) : cs.length = 6 := by
  obtain ⟨H, M, S, -, -, -, rfl, hH, hM, hS, -⟩ := h
  simp [hH, hM, hS]

theorem digits (h : ClockText cs) : ∀ c ∈ cs, isDigit c = true := by
  obtain ⟨H, M, S, h, m, s, rfl, -, -, -, hh, hm, hs, -⟩ := h
  exact isDigit_of_runs hh hm hs

end ClockText

theorem StampText.ascii {cs : List Char} (h : StampText cs) : ∀ c ∈ cs, c.toNat < 128 := by
  have hdigit : ∀ c, isDigit c = true → c.toNat < 128 := fun c hc => by
    have := (isDigit_iff c).1 hc
    omega
  have hletter : ∀ c : Char, c = 'T' ∨ c = 't' ∨ c = 'Z' ∨ c = 'z' → c.toNat < 128 := by
    rintro c (rfl | rfl | rfl | rfl) <;> decide
  cases h with
  | date hD => exact fun c hc => hdigit c (hD.digits c hc)
  | wall hD hx hC =>
    intro c hc
    simp only [List.mem_append, List.mem_cons] at hc
    rcases hc with hc | rfl | hc
    · exact hdigit c (hD.digits c hc)
    · rcases hx with hx | hx <;> exact hletter _ (by simp [hx])
    · exact hdigit c (hC.digits c hc)
  | utc hD hx hC hz =>
    intro c hc
    simp only [List.mem_append, List.mem_cons, List.not_mem_nil, or_false] at hc
    rcases hc with (hc | rfl | hc) | rfl
    · exact hdigit c (hD.digits c hc)
    · rcases hx with hx | hx <;> exact hletter _ (by simp [hx])
    · exact hdigit c (hC.digits c hc)
    · rcases hz with hz | hz <;> exact hletter _ (by simp [hz])

/-! ## What each reader takes -/

theorem exists_eq_some_of_or {o : Option Char} {a b : Char} (h : o = some a ∨ o = some b) :
    ∃ x, o = some x ∧ (x = a ∨ x = b) := by
  rcases h with h | h
  · exact ⟨a, h, .inl rfl⟩
  · exact ⟨b, h, .inr rfl⟩

theorem readDate?_isSome_iff (cs : List Char) : (Stamp.readDate? cs).isSome ↔ DateText cs := by
  constructor
  · intro h
    obtain ⟨d, hd⟩ := Option.isSome_iff_exists.1 h
    simp only [Stamp.readDate?, Option.bind_eq_bind] at hd
    split_ifs at hd with hcs
    simp only [Option.bind_eq_some_iff] at hd
    obtain ⟨y, hy, m, hm, day, hday, hymd⟩ := hd
    obtain ⟨hv, rfl⟩ := Date.valid_of_ofYmd? hymd
    -- the four fields the reader cuts out are the runs of the form
    refine ⟨cs.take 4, (cs.drop 4).take 2, cs.drop 6, y, m, day, ?_, by simp [hcs.1],
      by simp [hcs.1], by simp [hcs.1], digitsValue?_eq_some.1 hy, digitsValue?_eq_some.1 hm,
      digitsValue?_eq_some.1 hday, hv⟩
    rw [show cs.drop 6 = (cs.drop 4).drop 2 by rw [List.drop_drop], List.append_assoc,
      List.take_append_drop, List.take_append_drop]
  · rintro ⟨Y, M, D, y, m, d, rfl, hY, hM, hD, hy, hm, hd, hv⟩
    -- four digits leave the year within the calendar
    have hy4 : y < 10000 := by
      have := digitsValue?_lt (digitsValue?_eq_some.2 hy)
      rwa [hY] at this
    have hymd : Date.ofYmd? (y : Int) m d = some ⟨y, m, d⟩ :=
      Date.ofYmd?_of_valid hv (by dsimp only; unfold minYear; omega)
        (by dsimp only; unfold maxYear; omega)
    rw [readDate?_digits hY hM hD (isDigit_of_runs hy hm hd)]
    simp [digitsValue?_eq_some.2 hy, digitsValue?_eq_some.2 hm, digitsValue?_eq_some.2 hd, hymd]

theorem readDateTime?_isSome_iff (cs : List Char) :
    (Stamp.readDateTime? cs).isSome ↔
      ∃ D x C, cs = D ++ x :: C ∧ DateText D ∧ (x = 'T' ∨ x = 't') ∧ ClockText C := by
  constructor
  · intro h
    obtain ⟨t, ht⟩ := Option.isSome_iff_exists.1 h
    simp only [Stamp.readDateTime?, Option.bind_eq_bind] at ht
    split_ifs at ht with hcs hdig
    · simp only [Option.bind_eq_some_iff] at ht
      obtain ⟨d, hd, hh, hH, m, hM, s, hS, ht⟩ := ht
      split_ifs at ht with hbounds
      obtain ⟨x, hx8, hx⟩ := exists_eq_some_of_or hcs.2
      have hdrop : cs.drop 8 = x :: cs.drop 9 := by
        obtain ⟨h8, hx8⟩ := List.getElem?_eq_some_iff.1 hx8
        rw [List.drop_eq_getElem_cons h8, hx8]
      have hsplit : cs = cs.take 8 ++ x :: cs.drop 9 := by
        rw [← hdrop, List.take_append_drop]
      -- the date before the letter and the three clock fields after it
      refine ⟨cs.take 8, x, cs.drop 9, hsplit, (readDate?_isSome_iff _).1 (by simp [hd]), hx,
        (cs.drop 9).take 2, ((cs.drop 9).drop 2).take 2, (cs.drop 9).drop 4, hh, m, s, ?_,
        by simp [hcs.1], by simp [hcs.1], by simp [hcs.1], digitsValue?_eq_some.1 hH,
        digitsValue?_eq_some.1 hM, digitsValue?_eq_some.1 hS, by omega, by omega, by omega⟩
      rw [show (cs.drop 9).drop 4 = ((cs.drop 9).drop 2).drop 2 by simp [List.drop_drop],
        List.append_assoc, List.take_append_drop, List.take_append_drop]
    · simp at ht
  · rintro ⟨D, x, C, rfl, hD, hx, H, M, S, h, m, s, rfl, hH, hM, hS, hh, hm, hs, h23, m59, s59⟩
    obtain ⟨d, hd⟩ := Option.isSome_iff_exists.1 ((readDate?_isSome_iff D).2 hD)
    rw [readDateTime?_letter hD.length hx, readDateTime?_digits hD.length hH hM hS
      (isDigit_of_runs hh hm hs)]
    simp [hd, digitsValue?_eq_some.2 hh, digitsValue?_eq_some.2 hm, digitsValue?_eq_some.2 hs,
      (by omega : h < 24), (by omega : m < 60), (by omega : s < 60)]

namespace Stamp

/-- The reader of compact timestamps takes exactly the texts whose trimmed form is one of the
three compact forms. -/
theorem ofText?_isSome_iff (v : String) : (ofText? v).isSome ↔ StampText (trim v).toList := by
  constructor
  · intro h
    simp only [ofText?] at h
    split at h
    · simp at h
    · split at h
      · exact .date ((readDate?_isSome_iff _).1 (by simpa using h))
      · obtain ⟨D, x, C, hcs, hD, hx, hC⟩ := (readDateTime?_isSome_iff _).1 (by simpa using h)
        rw [hcs]
        exact .wall hD hx hC
      · split at h
        · rename_i hZ
          -- the last character is the `Z`, in either case, and the rest is a wall time
          obtain ⟨z, hz, hzZ⟩ := exists_eq_some_of_or hZ
          obtain ⟨D, x, C, hcs, hD, hx, hC⟩ := (readDateTime?_isSome_iff _).1 (by simpa using h)
          rw [(List.dropLast_append_getLast? z hz).symm, hcs]
          exact .utc hD hx hC hzZ
        · simp at h
      · simp at h
  · intro h
    have hascii : isAscii (trim v) = true := by
      unfold isAscii
      rw [List.all_eq_true]
      exact fun c hc => decide_eq_true (h.ascii c hc)
    generalize hcs : (trim v).toList = cs at h
    cases h with
    | date hD =>
      simp [ofText?, hascii, hcs, hD.length, (readDate?_isSome_iff _).2 hD]
    | @wall D C x hD hx hC =>
      have hlen : (D ++ x :: C).length = 15 := by simp [hD.length, hC.length]
      simp [ofText?, hascii, hcs, hlen, (readDateTime?_isSome_iff _).2 ⟨D, x, C, rfl, hD, hx, hC⟩]
    | @utc D C x z hD hx hC hz =>
      have hlen : (D ++ x :: C ++ [z]).length = 16 := by simp [hD.length, hC.length]
      have hlast : (D ++ x :: C ++ [z]).getLast? = some z := List.getLast?_concat
      have hdrop : (D ++ x :: C ++ [z]).dropLast = D ++ x :: C := List.dropLast_concat
      have hwall := (readDateTime?_isSome_iff (D ++ x :: C)).2 ⟨D, x, C, rfl, hD, hx, hC⟩
      simp only [ofText?, hascii, Bool.not_true, Bool.false_eq_true, if_false, hcs, hlen, hlast,
        hdrop]
      rcases hz with rfl | rfl <;> simp [hwall]

/-- Compact timestamps read exactly the trimmed texts `YYYYMMDD`, `YYYYMMDDTHHMMSS` and
`YYYYMMDDTHHMMSSZ` naming a day and time of the calendar, and four-digit stamps read back. -/
theorem ofText?_compact_forms :
    (∀ v : String, (ofText? v).isSome ↔ StampText (trim v).toList) ∧
      (∀ (v : String) (s : Stamp), ofText? v = some s → s.render = asciiUpper (trim v)) ∧
      ∀ s : Stamp, s.Compact → ofText? s.render = some s :=
  ⟨ofText?_isSome_iff, fun _ _ h => (ofText?_eq_some.1 h).2.symm, fun _ hs => ofText?_render hs⟩

end Stamp

end Cadence
