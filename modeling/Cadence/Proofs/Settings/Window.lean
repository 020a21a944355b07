import Cadence.Proofs.Text.ReadBack
import Cadence.Settings.Precreate

/-!
# The arithmetic of the precreate window

A duration is read into its parts, each an unsigned 32-bit number (`Duration.read_fits`). The
window counts a year as twelve months and puts weeks, days and the time of day into one fixed
length in milliseconds. Nothing overflows: twelve times the years plus the months is checked
against the 32-bit bound, and the fixed length of parts that fit stays below the longest
duration a signed 64-bit count of milliseconds holds (`DurationParts.millis_le`). So the window
of every duration read is exact, and it is refused exactly when its months pass the bound or when
every part is zero (`Window.ofText_exact`).
-/
namespace Cadence

namespace DurationParts

/-- The calendar months of the parts, a year counting twelve. -/
def months : DurationParts → Nat
  | .weeks _ => 0
  | .parts y mo _ _ _ _ _ => 12 * y + mo

/-- The fixed length of the parts, in milliseconds. -/
def millis : DurationParts → Nat
  | .weeks n => n * 7 * 86400000
  | .parts _ _ d h mi s ms => d * 86400000 + h * 3600000 + mi * 60000 + s * 1000 + ms

/-- Every part is zero. -/
def isZero : DurationParts → Bool
  | .weeks n => n == 0
  | .parts y mo d h mi s ms =>
    y == 0 && mo == 0 && d == 0 && h == 0 && mi == 0 && s == 0 && ms == 0

/-- Every part fits an unsigned 32-bit number. -/
def Fits : DurationParts → Prop
  | .weeks n => n ≤ wordMax
  | .parts y mo d h mi s ms =>
    y ≤ wordMax ∧ mo ≤ wordMax ∧ d ≤ wordMax ∧ h ≤ wordMax ∧ mi ≤ wordMax ∧ s ≤ wordMax ∧
      ms ≤ wordMax

/-- The longest duration, in milliseconds: a signed 64-bit count. -/
def longestMillis : Nat := 9223372036854775807

/-- Parts that fit 32 bits make a fixed length that fits 64: however large each part, the sum of
weeks, or of days, hours, minutes, seconds and milliseconds, never overflows. -/
theorem millis_le {p : DurationParts} (hp : p.Fits) : p.millis ≤ longestMillis := by
  cases p with
  | weeks n =>
    simp only [Fits, wordMax] at hp
    simp only [millis, longestMillis]
    omega
  | parts y mo d h mi s ms =>
    obtain ⟨-, -, hd, hh, hmi, hs, hms⟩ := hp
    simp only [wordMax] at hd hh hmi hs hms
    simp only [millis, longestMillis]
    omega

theorem isZero_iff (p : DurationParts) : p.isZero = true ↔ p.months = 0 ∧ p.millis = 0 := by
  cases p with
  | weeks n => simp [isZero, months, millis]
  | parts y mo d h mi s ms =>
    simp only [isZero, months, millis, Bool.and_eq_true, beq_iff_eq]
    omega

end DurationParts

namespace Duration

/-! ## The reader's numbers -/

theorem digitsValue_lt {cs : List Char} (h : ∀ c ∈ cs, Text.isDigit c = true) :
    digitsValue cs < 10 ^ cs.length := by
  -- the same fold as the rule reader's, with the factors of each step swapped
  have hfold : digitsValue cs = cs.foldl (fun n c => 10 * n + (c.toNat - '0'.toNat)) 0 := by
    unfold digitsValue
    congr 1
    funext acc c
    rw [Nat.mul_comm]
  rw [hfold]
  simpa using Text.foldl_digits_lt cs 0 h

theorem number_le {cs rest : List Char} {n : Nat} (h : number cs = some (n, rest)) :
    n ≤ wordMax := by
  simp only [number] at h
  split at h
  · cases h
  · rename_i hn
    cases h
    simp only [Bool.or_eq_true, not_or, decide_eq_true_eq] at hn
    omega

theorem part_le {c : Char} {cs rest : List Char} {n : Nat} (h : part c cs = some (n, rest)) :
    n ≤ wordMax := by
  simp only [part] at h
  split at h
  · rename_i m d more hm
    split at h
    · cases h
      exact number_le hm
    · cases h
  · cases h

theorem fraction_lt (cs : List Char) : (fraction cs).1 < 1000 := by
  have hds : ∀ c ∈ cs.takeWhile Text.isDigit, Text.isDigit c = true :=
    fun c hc => List.mem_takeWhile_imp hc
  have hdigits : ∀ c ∈ (cs.takeWhile Text.isDigit).take 3 ++
      List.replicate (3 - (cs.takeWhile Text.isDigit).length) '0', Text.isDigit c = true := by
    intro c hc
    rcases List.mem_append.1 hc with hc | hc
    · exact hds c (List.mem_of_mem_take hc)
    · rw [List.eq_of_mem_replicate hc]
      rfl
  have hlen : ((cs.takeWhile Text.isDigit).take 3 ++
      List.replicate (3 - (cs.takeWhile Text.isDigit).length) '0').length = 3 := by
    simp only [List.length_append, List.length_take, List.length_replicate]
    omega
  have := digitsValue_lt hdigits
  rw [hlen] at this
  exact this

theorem decimal_lt {cs : List Char} {ms : Nat} (h : (decimal cs).1 = some ms) : ms < 1000 := by
  unfold decimal at h
  split at h
  · split at h
    · cases h
      exact fraction_lt _
    · cases h
  · cases h

theorem decimal_getD_lt (cs : List Char) : ((decimal cs).1).getD 0 < 1000 := by
  cases hdec : (decimal cs).1 with
  | none => simp
  | some ms => simpa using decimal_lt hdec

theorem secondsPart_le {cs rest : List Char} {s ms : Nat}
    (h : secondsPart cs = some ((s, ms), rest)) : s ≤ wordMax ∧ ms < 1000 := by
  unfold secondsPart at h
  cases hn : number cs with
  | none => simp [hn] at h
  | some p =>
    obtain ⟨n, more⟩ := p
    rcases hd : decimal more with ⟨ms', rest'⟩
    simp only [hn, hd] at h
    split at h
    · cases h
      refine ⟨number_le hn, ?_⟩
      simpa [hd] using decimal_getD_lt more
    · cases h

theorem optional_eq_some {α : Type} {r : Reader α} {cs rest : List Char} {a : α}
    (h : optional r cs = (some a, rest)) : r cs = some (a, rest) := by
  unfold optional at h
  split at h
  · rename_i a' rest' hr
    cases h
    exact hr
  · cases h

theorem fixedDigits_le {n lo hi v : Nat} {cs rest : List Char}
    (h : fixedDigits n lo hi cs = some (v, rest)) : v ≤ hi := by
  dsimp only [fixedDigits] at h
  split at h
  · split at h
    · rename_i hv
      cases h
      simp only [Bool.and_eq_true, decide_eq_true_eq] at hv
      exact hv.2
    · cases h
  · cases h

/-! ## The three forms -/

theorem optional_part_le (c : Char) (cs : List Char) :
    ((optional (part c) cs).1).getD 0 ≤ wordMax := by
  rcases ho : optional (part c) cs with ⟨_ | n, rest⟩
  · simp [wordMax]
  · exact part_le (optional_eq_some ho)

theorem optional_secondsPart_le (cs : List Char) :
    ((optional secondsPart cs).1.getD (0, 0)).1 ≤ wordMax ∧
      ((optional secondsPart cs).1.getD (0, 0)).2 < 1000 := by
  rcases ho : optional secondsPart cs with ⟨_ | ⟨s, ms⟩, rest⟩
  · simp [wordMax]
  · exact secondsPart_le (optional_eq_some ho)

theorem designated_fits {cs rest : List Char} {p : DurationParts}
    (h : designated cs = some (p, rest)) : p.Fits := by
  unfold designated at h
  split at h
  · rename_i cs
    have hy := optional_part_le 'Y' cs
    rcases hY : optional (part 'Y') cs with ⟨y, cs₁⟩
    have hmo := optional_part_le 'M' cs₁
    rcases hM : optional (part 'M') cs₁ with ⟨mo, cs₂⟩
    have hd := optional_part_le 'D' cs₂
    rcases hD : optional (part 'D') cs₂ with ⟨d, cs₃⟩
    simp only [hY, hM, hD] at h hy hmo hd
    split at h
    · -- a time part: hours, minutes and seconds follow `T`
      rename_i cs₄
      have hh := optional_part_le 'H' cs₄
      have hmi := optional_part_le 'M' (optional (part 'H') cs₄).2
      have hs := optional_secondsPart_le (optional (part 'M') (optional (part 'H') cs₄).2).2
      split at h
      · cases h
      · cases h
        simp only [Option.getD_some]
        exact ⟨hy, hmo, hd, hh, hmi, hs.1, by simp only [wordMax]; omega⟩
    · split at h
      · cases h
      · cases h
        simp only [Option.getD_none]
        exact ⟨hy, hmo, hd, by simp [wordMax], by simp [wordMax], by simp [wordMax],
          by simp [wordMax]⟩
  · cases h

theorem weeks_fits {cs rest : List Char} {p : DurationParts} (h : weeks cs = some (p, rest)) :
    p.Fits := by
  unfold weeks at h
  split at h
  · obtain ⟨⟨n, rest'⟩, hn, h⟩ := Option.map_eq_some_iff.1 h
    cases h
    exact part_le hn
  · cases h

theorem clockSeconds_le (cs : List Char) : (clockSeconds cs).1.getD 0 ≤ 60 := by
  unfold clockSeconds
  split
  · rename_i s rest hs
    exact fixedDigits_le hs
  · simp

theorem calendarForm_fits {cs : List Char} {p : DurationParts} (h : calendarForm cs = some p) :
    p.Fits := by
  simp only [calendarForm, Option.bind_eq_bind, Option.bind_eq_some_iff] at h
  obtain ⟨cs₁, -, ⟨y, cs₂⟩, hy, ⟨mo, cs₃⟩, hmo, ⟨d, cs₄⟩, hd, cs₅, -, ⟨hh, cs₆⟩, hh, ⟨mi, cs₇⟩,
    hmi, h⟩ := h
  cases h
  have hs := clockSeconds_le cs₇
  have hms := decimal_getD_lt (clockSeconds cs₇).2
  have := fixedDigits_le hy
  have := fixedDigits_le hmo
  have := fixedDigits_le hd
  have := fixedDigits_le hh
  have := fixedDigits_le hmi
  simp only [DurationParts.Fits, wordMax]
  omega

/-- Every part of a duration read is an unsigned 32-bit number. -/
theorem read_fits {s : String} {p : DurationParts} (h : read s = some p) : p.Fits := by
  dsimp only [read] at h
  split at h
  · rename_i q rest hq
    cases h
    exact designated_fits hq
  · split at h
    · rename_i q rest hq
      cases h
      exact weeks_fits hq
    · exact calendarForm_fits h

end Duration

namespace Window

theorem ofText_of_read {value : String} {p : DurationParts}
    (h : Duration.read (Text.trim value) = some p) :
    Window.ofText value =
      if wordMax < p.months then
        .error (.invalid ("Precreate duration '" ++ value ++ "' is too large"))
      else if p.isZero then .error (.invalid "Precreate duration must be longer than zero")
      else .ok ⟨p.months, p.millis⟩ := by
  simp only [Window.ofText, h]
  cases p with
  | weeks n =>
    -- weeks make no months; the window is refused only for zero weeks
    dsimp only
    rw [pure_bind, if_neg (show ¬ wordMax < (DurationParts.weeks n).months from Nat.not_lt_zero _)]
    by_cases hn : n = 0
    · subst hn
      rw [if_pos (show (DurationParts.weeks 0).isZero = true from rfl), if_pos (by decide)]
      rfl
    · rw [if_neg (by simp; omega), if_neg (by simp [DurationParts.isZero]; omega)]
      simp only [pure, Except.pure, DurationParts.months, DurationParts.millis]
      rw [show ((n * 7 * 86400000 : Nat) : Int) = (n : Int) * 604800000 by push_cast; ring]
  | parts y mo d hh mi sec ms =>
    dsimp only
    -- checking twelve times the years, and that plus the months, is checking the months
    have hcheck : (decide (y * 12 > wordMax) || decide (y * 12 + mo > wordMax)) = true ↔
        wordMax < (DurationParts.parts y mo d hh mi sec ms).months := by
      simp only [DurationParts.months, Bool.or_eq_true, decide_eq_true_eq]
      omega
    by_cases hbig : wordMax < (DurationParts.parts y mo d hh mi sec ms).months
    · rw [if_pos hbig, if_pos (hcheck.2 hbig)]
      rfl
    · rw [if_neg hbig, if_neg (mt hcheck.1 hbig), pure_bind]
      have hzero := DurationParts.isZero_iff (.parts y mo d hh mi sec ms)
      simp only [DurationParts.months, DurationParts.millis] at hzero
      by_cases hz : (DurationParts.parts y mo d hh mi sec ms).isZero = true
      · have hz' := hzero.1 hz
        rw [if_pos hz, if_pos (by simp; omega)]
        rfl
      · have hz' := mt hzero.2 hz
        rw [if_neg hz, if_neg (by simp; omega)]
        simp only [pure, Except.pure, DurationParts.months, DurationParts.millis, Nat.mul_comm y 12]

/-- Every window read is exact: no sum overflows, it is too large exactly when twelve times the
years plus the months passes `2 ^ 32 - 1`, and empty exactly when every part is zero. -/
theorem ofText_exact {value : String} {p : DurationParts}
    (h : Duration.read (Text.trim value) = some p) :
    p.Fits ∧ p.millis ≤ DurationParts.longestMillis ∧
      Window.ofText value =
        if wordMax < p.months then
          .error (.invalid ("Precreate duration '" ++ value ++ "' is too large"))
        else if p.isZero then .error (.invalid "Precreate duration must be longer than zero")
        else .ok ⟨p.months, p.millis⟩ :=
  ⟨Duration.read_fits h, DurationParts.millis_le (Duration.read_fits h), ofText_of_read h⟩

/-- The most years and months a window holds: `357913941` years and three months make
`2 ^ 32 - 1` months. -/
theorem ofText_exact_most_months :
    Duration.read (Text.trim "P357913941Y3M") = some (.parts 357913941 3 0 0 0 0 0) ∧
      (DurationParts.parts 357913941 3 0 0 0 0 0).Fits ∧
      (DurationParts.parts 357913941 3 0 0 0 0 0).millis ≤ DurationParts.longestMillis ∧
      Window.ofText "P357913941Y3M" =
        if wordMax < (DurationParts.parts 357913941 3 0 0 0 0 0).months then
          .error (.invalid ("Precreate duration '" ++ "P357913941Y3M" ++ "' is too large"))
        else if (DurationParts.parts 357913941 3 0 0 0 0 0).isZero then
          .error (.invalid "Precreate duration must be longer than zero")
        else .ok ⟨(DurationParts.parts 357913941 3 0 0 0 0 0).months,
          (DurationParts.parts 357913941 3 0 0 0 0 0).millis⟩ :=
  have h : Duration.read (Text.trim "P357913941Y3M") = some (.parts 357913941 3 0 0 0 0 0) := by
    decide
  ⟨h, ofText_exact h⟩

/-- One month more passes the bound. -/
example : Window.ofText "P357913941Y4M" =
    .error (.invalid "Precreate duration 'P357913941Y4M' is too large") := by decide

end Window

end Cadence
