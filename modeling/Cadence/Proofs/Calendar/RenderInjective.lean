import Cadence.Proofs.Rule.StampText
/-!
# Dates and seconds are written one way each

A date is written `YYYY-MM-DD`: its year in four digits, or with a sign in front when it has
more or is negative, then two digits each for the month and the day. Read back from the right,
the digits give the date again, so two dates that exist and are written alike are the same date
(`Date.render_inj`), and two day counts are written alike exactly when they are equal
(`Date.render_ofDays_eq_iff`). A time written to the second is its date, a `T` and its clock;
two wall times are written alike exactly when they fall in the same second
(`WallTime.renderSeconds_eq_iff`).
-/
namespace Cadence

open Cadence.Text

/-! ## Numbers written with leading zeros -/

theorem padNat_toList_inj {w a b : Nat} (h : (padNat w a).toList = (padNat w b).toList) :
    a = b := by
  have ha := digitsValue?_padNat w a
  rw [h, digitsValue?_padNat] at ha
  exact (Option.some.inj ha).symm

theorem twoDigits_inj {a b a' b' : Nat} {c : Char} (ha : a < 100) (ha' : a' < 100)
    (h : (padNat 2 a).toList ++ c :: (padNat 2 b).toList =
      (padNat 2 a').toList ++ c :: (padNat 2 b').toList) :
    a = a' ∧ b = b' := by
  have hlen : (padNat 2 a).toList.length = (padNat 2 a').toList.length := by
    rw [length_padNat 2 a (by decide) (by omega), length_padNat 2 a' (by decide) (by omega)]
  obtain ⟨h₁, h₂⟩ := List.append_inj h hlen
  exact ⟨padNat_toList_inj h₁, padNat_toList_inj (List.cons.inj h₂).2⟩

theorem length_twoDigits {a b : Nat} {c : Char} (ha : a < 100) (hb : b < 100) :
    ((padNat 2 a).toList ++ c :: (padNat 2 b).toList).length = 5 := by
  rw [List.length_append, List.length_cons, length_padNat 2 a (by decide) (by omega),
    length_padNat 2 b (by decide) (by omega)]

/-! ## Years and dates -/

theorem renderYear_toList (y : Int) :
    (renderYear y).toList = if 0 ≤ y ∧ y ≤ 9999 then (padNat 4 y.toNat).toList
      else (if y < 0 then '-' else '+') :: (padNat 4 y.natAbs).toList := by
  unfold renderYear
  split_ifs <;> simp

theorem padNat_toList_ne_signed (y : Int) (n m : Nat) :
    (padNat 4 n).toList ≠ (if y < 0 then '-' else '+') :: (padNat 4 m).toList := by
  intro h
  have hd := isDigit_of_mem_padNat (h ▸ List.mem_cons_self)
  split_ifs at hd <;> exact absurd hd (by decide)

theorem renderYear_inj {y z : Int} (h : renderYear y = renderYear z) : y = z := by
  have ht := congrArg String.toList h
  rw [renderYear_toList, renderYear_toList] at ht
  by_cases hy : 0 ≤ y ∧ y ≤ 9999 <;> by_cases hz : 0 ≤ z ∧ z ≤ 9999
  · rw [if_pos hy, if_pos hz] at ht
    have := padNat_toList_inj ht
    omega
  · rw [if_pos hy, if_neg hz] at ht
    exact absurd ht (padNat_toList_ne_signed _ _ _)
  · rw [if_neg hy, if_pos hz] at ht
    exact absurd ht.symm (padNat_toList_ne_signed _ _ _)
  · -- two signed years: the same sign in front of the same digits
    rw [if_neg hy, if_neg hz] at ht
    obtain ⟨hs, hd⟩ := List.cons.inj ht
    have habs := padNat_toList_inj hd
    by_cases hy0 : y < 0 <;> by_cases hz0 : z < 0
    · omega
    · rw [if_pos hy0, if_neg hz0] at hs
      exact absurd hs (by decide)
    · rw [if_neg hy0, if_pos hz0] at hs
      exact absurd hs (by decide)
    · omega

theorem Date.render_toList (d : Date) :
    d.render.toList = (renderYear d.year).toList ++
      '-' :: ((padNat 2 d.month).toList ++ '-' :: (padNat 2 d.day).toList) := by
  simp [Date.render]

/-- Dates that exist are written one way each. -/
theorem Date.render_inj {d e : Date} (hd : d.Valid) (he : e.Valid) (h : d.render = e.render) :
    d = e := by
  obtain ⟨-, hm, -, hday⟩ := hd
  obtain ⟨-, hm', -, hday'⟩ := he
  have hml := monthLength_le d.year d.month
  have hml' := monthLength_le e.year e.month
  have ht := congrArg String.toList h
  rw [Date.render_toList, Date.render_toList] at ht
  -- the month and the day take the last six characters of both texts
  have hlen : ('-' :: ((padNat 2 d.month).toList ++ '-' :: (padNat 2 d.day).toList)).length =
      ('-' :: ((padNat 2 e.month).toList ++ '-' :: (padNat 2 e.day).toList)).length := by
    rw [List.length_cons, List.length_cons, length_twoDigits (by omega) (by omega),
      length_twoDigits (by omega) (by omega)]
  obtain ⟨hy, hmd⟩ := List.append_inj' ht hlen
  obtain ⟨hmonth, hdday⟩ := twoDigits_inj (by omega) (by omega) (List.cons.inj hmd).2
  have hyear := renderYear_inj (String.toList_inj.1 hy)
  cases d
  cases e
  simp only at hyear hmonth hdday
  rw [hyear, hmonth, hdday]

/-- Two day counts are written alike exactly when they are the same day. -/
theorem Date.render_ofDays_eq_iff {a b : Int} :
    (Date.ofDays a).render = (Date.ofDays b).render ↔ a = b := by
  constructor
  · intro h
    have hd := Date.render_inj (ofDays_valid a) (ofDays_valid b) h
    rw [← toDays_ofDays a, ← toDays_ofDays b, hd]
  · rintro rfl
    rfl

/-! ## Times to the second -/

theorem WallTime.renderSeconds_toList (t : WallTime) :
    t.renderSeconds.toList = t.date.render.toList ++
      'T' :: ((padNat 2 t.hour).toList ++ ':' :: ((padNat 2 t.minute).toList ++ ':' ::
        (padNat 2 t.second).toList)) := by
  simp [WallTime.renderSeconds, WallTime.renderClock]

theorem WallTime.seconds_eq (t : WallTime) :
    t.seconds = t.nanos / nanosPerDay * secondsPerDay + t.secondOfDay := by
  simp only [seconds, secondOfDay, nanosPerDay, secondsPerDay, nanosPerSecond]
  omega

/-- Two wall times are written alike to the second exactly when they fall in the same second. -/
theorem WallTime.renderSeconds_eq_iff {t u : WallTime} :
    t.renderSeconds = u.renderSeconds ↔ t.seconds = u.seconds := by
  rw [t.seconds_eq, u.seconds_eq]
  have ht := t.secondOfDay_lt
  have hu := u.secondOfDay_lt
  constructor
  · intro h
    have hs := congrArg String.toList h
    rw [WallTime.renderSeconds_toList, WallTime.renderSeconds_toList] at hs
    -- the clock takes the last nine characters of both texts
    have hlen : ∀ v : WallTime, ('T' :: ((padNat 2 v.hour).toList ++ ':' ::
        ((padNat 2 v.minute).toList ++ ':' :: (padNat 2 v.second).toList))).length = 9 := by
      intro v
      rw [List.length_cons, List.length_append, List.length_cons,
        length_twoDigits (by have := v.minute_lt; omega) (by have := v.second_lt; omega),
        length_padNat 2 _ (by decide) (by have := v.hour_lt; omega)]
    obtain ⟨hdate, hclock⟩ := List.append_inj' hs ((hlen t).trans (hlen u).symm)
    have hday := Date.render_ofDays_eq_iff.1 (String.toList_inj.1 hdate)
    have hhour : (padNat 2 t.hour).toList.length = (padNat 2 u.hour).toList.length := by
      rw [length_padNat 2 _ (by decide) (by have := t.hour_lt; omega),
        length_padNat 2 _ (by decide) (by have := u.hour_lt; omega)]
    obtain ⟨hh, hms⟩ := List.append_inj (List.cons.inj hclock).2 hhour
    obtain ⟨hm, hsec⟩ := twoDigits_inj (by have := t.minute_lt; omega)
      (by have := u.minute_lt; omega) (List.cons.inj hms).2
    have hh := padNat_toList_inj hh
    simp only [hour, minute, second] at hh hm hsec
    rw [hday]
    omega
  · intro h
    -- the same second is on the same day, at the same second of it
    have hday : t.nanos / nanosPerDay = u.nanos / nanosPerDay := by
      simp only [secondOfDay, nanosPerDay, secondsPerDay, nanosPerSecond] at h ht hu ⊢
      omega
    have hsod : t.secondOfDay = u.secondOfDay := by
      rw [hday] at h
      omega
    simp only [renderSeconds, renderClock, date, hour, minute, second, hday, hsod]

end Cadence
