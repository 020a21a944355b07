import Cadence.Proofs.Calendar.DayCount
import Cadence.Proofs.Text.Lexemes

/-!
# Compact timestamps read back

A stamp is written as `YYYYMMDD`, `YYYYMMDDTHHMMSS` or `YYYYMMDDTHHMMSSZ`. Reading that
text gives the stamp back exactly when the stamp is `Compact`: its date exists, its year
has four digits and its time is a whole second. Every stamp read from text is compact,
so the condition is also the image of the reader. Conversely the reader takes exactly the
compact texts, with `T` and `Z` in either case (`Stamp.ofText?_eq_some`).
-/

namespace Cadence

open Cadence.Text

theorem renderYear_of_le {y : Int} (h0 : 0 ≤ y) (h1 : y ≤ 9999) :
    renderYear y = padNat 4 y.toNat := by
  simp [renderYear, h0, h1]

/-! ## Dates -/

/-- A date whose compact text is exact: it exists, in a year of four digits. -/
def Date.Compact (d : Date) : Prop := d.Valid ∧ 0 ≤ d.year ∧ d.year ≤ 9999

theorem Date.Compact.renderCompact_toList {d : Date} (hd : d.Compact) :
    d.renderCompact.toList =
      (padNat 4 d.year.toNat).toList ++ (padNat 2 d.month).toList ++ (padNat 2 d.day).toList := by
  simp [Date.renderCompact, renderYear_of_le hd.2.1 hd.2.2]

theorem Date.Compact.length_renderCompact {d : Date} (hd : d.Compact) :
    d.renderCompact.toList.length = 8 := by
  have ⟨⟨_, _, _, _⟩, _, _⟩ := hd
  have hml := monthLength_le d.year d.month
  rw [hd.renderCompact_toList]
  simp only [List.length_append]
  rw [length_padNat 4 _ (by decide) (by omega), length_padNat 2 _ (by decide) (by omega),
    length_padNat 2 _ (by decide) (by omega)]

theorem readDate?_digits {A B C : List Char} (hA : A.length = 4) (hB : B.length = 2)
    (hC : C.length = 2) (hdig : ∀ c ∈ A ++ B ++ C, isDigit c = true) :
    Stamp.readDate? (A ++ B ++ C) = (do
      let y ← digitsValue? A
      let m ← digitsValue? B
      let d ← digitsValue? C
      Date.ofYmd? y m d) := by
  have hlen : (A ++ B ++ C).length = 8 := by simp [hA, hB, hC]
  have h4 : (A ++ B ++ C).take 4 = A := by
    rw [List.append_assoc]; exact List.take_left' hA
  have h42 : ((A ++ B ++ C).drop 4).take 2 = B := by
    rw [List.append_assoc, List.drop_left' hA]; exact List.take_left' hB
  have h6 : (A ++ B ++ C).drop 6 = C := List.drop_left' (by simp [hA, hB])
  simp only [Stamp.readDate?, hlen, List.all_eq_true.2 hdig, h4, h42, h6]
  simp

theorem Date.Compact.readDate? {d : Date} (hd : d.Compact) :
    Stamp.readDate? d.renderCompact.toList = some d := by
  obtain ⟨hv, hy0, hy1⟩ := hd
  have ⟨_, _, _, _⟩ := hv
  have hml := monthLength_le d.year d.month
  have hdig : ∀ c ∈ d.renderCompact.toList, isDigit c = true := by
    intro c hc
    rw [Date.Compact.renderCompact_toList ⟨hv, hy0, hy1⟩] at hc
    simp only [List.mem_append] at hc
    rcases hc with (hc | hc) | hc <;> exact isDigit_of_mem_padNat hc
  rw [Date.Compact.renderCompact_toList ⟨hv, hy0, hy1⟩] at hdig ⊢
  have hy : ((d.year.toNat : Nat) : Int) = d.year := by omega
  rw [readDate?_digits (length_padNat 4 _ (by decide) (by omega))
    (length_padNat 2 _ (by decide) (by omega)) (length_padNat 2 _ (by decide) (by omega)) hdig]
  simp [digitsValue?_padNat, hy,
    Date.ofYmd?_of_valid hv (by unfold minYear; omega) (by unfold maxYear; omega)]

theorem Date.compact_of_readDate? {cs : List Char} {d : Date} (h : Stamp.readDate? cs = some d) :
    d.Compact := by
  simp only [Stamp.readDate?, Option.bind_eq_bind] at h
  split_ifs at h with hcs
  simp only [Option.bind_eq_some_iff] at h
  obtain ⟨y, hy, m, -, day, -, hd⟩ := h
  have hy4 := digitsValue?_lt hy
  rw [List.length_take, hcs.1] at hy4
  obtain ⟨hv, rfl⟩ := Date.valid_of_ofYmd? hd
  exact ⟨hv, by simp, by simp at hy4 ⊢; omega⟩

/-! ## Wall times -/

/-- A wall time whose compact text is exact: a whole second, in a year of four digits. -/
def WallTime.Compact (t : WallTime) : Prop :=
  t.nanos % nanosPerSecond = 0 ∧ 0 ≤ t.date.year ∧ t.date.year ≤ 9999

theorem WallTime.Compact.date {t : WallTime} (ht : t.Compact) : t.date.Compact :=
  ⟨Date.ofDays_valid _, ht.2.1, ht.2.2⟩

theorem WallTime.renderCompact_toList (t : WallTime) :
    t.renderCompact.toList = t.date.renderCompact.toList ++
      'T' :: ((padNat 2 t.hour).toList ++ (padNat 2 t.minute).toList ++
        (padNat 2 t.second).toList) := by
  simp [WallTime.renderCompact]

theorem WallTime.secondOfDay_lt (t : WallTime) : t.secondOfDay < 86400 := by
  simp only [secondOfDay, nanosPerDay, secondsPerDay, nanosPerSecond]
  omega

theorem WallTime.hour_lt (t : WallTime) : t.hour < 24 := by
  have := t.secondOfDay_lt; unfold WallTime.hour; omega

theorem WallTime.minute_lt (t : WallTime) : t.minute < 60 := by
  unfold WallTime.minute; omega

theorem WallTime.second_lt (t : WallTime) : t.second < 60 := by
  unfold WallTime.second; omega

theorem WallTime.Compact.length_renderCompact {t : WallTime} (ht : t.Compact) :
    t.renderCompact.toList.length = 15 := by
  rw [WallTime.renderCompact_toList]
  simp only [List.length_append, List.length_cons]
  rw [ht.date.length_renderCompact, length_padNat 2 _ (by decide) (by have := t.hour_lt; omega),
    length_padNat 2 _ (by decide) (by have := t.minute_lt; omega),
    length_padNat 2 _ (by decide) (by have := t.second_lt; omega)]

theorem readDateTime?_digits {D H M S : List Char} (hD : D.length = 8) (hH : H.length = 2)
    (hM : M.length = 2) (hS : S.length = 2) (hdig : ∀ c ∈ H ++ M ++ S, isDigit c = true) :
    Stamp.readDateTime? (D ++ 'T' :: (H ++ M ++ S)) = (do
      let d ← Stamp.readDate? D
      let h ← digitsValue? H
      let m ← digitsValue? M
      let s ← digitsValue? S
      if h < 24 ∧ m < 60 ∧ s < 60 then some (WallTime.ofDate d h m s) else none) := by
  have hlen : (D ++ 'T' :: (H ++ M ++ S)).length = 15 := by simp [hD, hH, hM, hS]
  have h8 : (D ++ 'T' :: (H ++ M ++ S))[8]? = some 'T' := by
    rw [List.getElem?_append_right (by omega)]; simp [hD]
  have htake : (D ++ 'T' :: (H ++ M ++ S)).take 8 = D := List.take_left' hD
  have hdrop : (D ++ 'T' :: (H ++ M ++ S)).drop 9 = H ++ M ++ S := by
    rw [show 9 = D.length + 1 by omega, ← List.drop_drop, List.drop_left]; rfl
  have h2 : (H ++ M ++ S).take 2 = H := by rw [List.append_assoc]; exact List.take_left' hH
  have h22 : ((H ++ M ++ S).drop 2).take 2 = M := by
    rw [List.append_assoc, List.drop_left' hH]; exact List.take_left' hM
  have h4 : (H ++ M ++ S).drop 4 = S := List.drop_left' (by simp [hH, hM])
  simp only [Stamp.readDateTime?, hlen, h8, htake, hdrop, List.all_eq_true.2 hdig, h2, h22, h4]
  simp

theorem WallTime.Compact.readDateTime? {t : WallTime} (ht : t.Compact) :
    Stamp.readDateTime? t.renderCompact.toList = some t := by
  have hh := t.hour_lt
  have hm := t.minute_lt
  have hs := t.second_lt
  rw [WallTime.renderCompact_toList, readDateTime?_digits ht.date.length_renderCompact
    (length_padNat 2 _ (by decide) (by omega)) (length_padNat 2 _ (by decide) (by omega))
    (length_padNat 2 _ (by decide) (by omega))
    (fun c hc => by
      simp only [List.mem_append] at hc
      rcases hc with (hc | hc) | hc <;> exact isDigit_of_mem_padNat hc)]
  simp [ht.date.readDate?, digitsValue?_padNat, hh, hm, hs, WallTime.ofDate_clock ht.1]

theorem WallTime.compact_of_readDateTime? {cs : List Char} {t : WallTime}
    (h : Stamp.readDateTime? cs = some t) : t.Compact := by
  simp only [Stamp.readDateTime?, Option.bind_eq_bind] at h
  split_ifs at h with hcs hdig
  · simp only [Option.bind_eq_some_iff] at h
    obtain ⟨d, hd, hh, -, m, -, s, -, h⟩ := h
    split_ifs at h with hbounds
    cases h
    obtain ⟨hv, hy0, hy1⟩ := Date.compact_of_readDate? hd
    -- the clock fields are in range, so the date part of the time is `d` itself
    have hdate : (WallTime.ofDate d hh m s).date = d := WallTime.date_ofDate hv (by omega)
    exact ⟨by simp [WallTime.ofDate], by rw [hdate]; exact hy0, by rw [hdate]; exact hy1⟩
  · simp at h

/-! ## Stamps -/

theorem isWord_renderYear (y : Int) : IsWord (renderYear y) := by
  unfold renderYear
  split
  · exact isWord_padNat _ _
  · refine IsWord.append ?_ (isWord_padNat _ _)
    split <;> (intro c hc; simp at hc; subst hc; simp [IsWordChar])

theorem Stamp.isWord_render (s : Stamp) : IsWord s.render := by
  have hT : IsWord "T" := by unfold IsWord IsWordChar; simp
  have hZ : IsWord "Z" := by unfold IsWord IsWordChar; simp
  have hdate (d : Date) : IsWord d.renderCompact :=
    ((isWord_renderYear _).append (isWord_padNat _ _)).append (isWord_padNat _ _)
  have htime (t : WallTime) : IsWord t.renderCompact :=
    ((((hdate _).append hT).append (isWord_padNat _ _)).append (isWord_padNat _ _)).append
      (isWord_padNat _ _)
  cases s with
  | utc t => exact (htime t).append hZ
  | wall t => exact htime t
  | date d => exact hdate d

namespace Stamp

/-- A stamp that its compact text shows exactly: a date that exists in a year of four digits,
and for a time, a whole second. -/
def Compact : Stamp → Prop
  | .utc t => t.Compact
  | .wall t => t.Compact
  | .date d => d.Compact

theorem ofText?_render {s : Stamp} (hs : s.Compact) : ofText? s.render = some s := by
  have htrim := s.isWord_render.trim_eq
  have hasc := s.isWord_render.ascii
  cases s with
  | utc t =>
    have hlen := WallTime.Compact.length_renderCompact hs
    simp only [render] at htrim hasc
    simp [ofText?, render, htrim, hasc, String.toList_append, hlen, hs.readDateTime?]
  | wall t =>
    have hlen := WallTime.Compact.length_renderCompact hs
    simp only [render] at htrim hasc
    simp [ofText?, render, htrim, hasc, hlen, hs.readDateTime?]
  | date d =>
    have hlen := Date.Compact.length_renderCompact hs
    simp only [render] at htrim hasc
    simp [ofText?, render, htrim, hasc, hlen, hs.readDate?]

theorem compact_of_ofText? {v : String} {s : Stamp} (h : ofText? v = some s) : s.Compact := by
  simp only [ofText?] at h
  split at h
  · cases h
  · split at h
    · obtain ⟨d, hd, rfl⟩ := Option.map_eq_some_iff.1 h
      exact Date.compact_of_readDate? hd
    · obtain ⟨t, ht, rfl⟩ := Option.map_eq_some_iff.1 h
      exact WallTime.compact_of_readDateTime? ht
    · split at h
      · obtain ⟨t, ht, rfl⟩ := Option.map_eq_some_iff.1 h
        exact WallTime.compact_of_readDateTime? ht
      · cases h
    · cases h

end Stamp

/-! ## Text read as a stamp -/

theorem map_upperChar_of_digits {cs : List Char} (h : ∀ c ∈ cs, isDigit c = true) :
    cs.map upperChar = cs := by
  conv_rhs => rw [← List.map_id cs]
  exact List.map_congr_left fun c hc => upperChar_of_isDigit (h c hc)

theorem WallTime.secondOfDay_ofDate (d : Date) {h m s : Nat}
    (hsod : h * 3600 + m * 60 + s < 86400) :
    (WallTime.ofDate d h m s).secondOfDay = h * 3600 + m * 60 + s := by
  simp only [WallTime.secondOfDay, WallTime.ofDate, nanosPerDay, secondsPerDay, nanosPerSecond]
  omega

theorem Date.eq_of_readDate? {cs : List Char} {d : Date} (h : Stamp.readDate? cs = some d) :
    cs = d.renderCompact.toList := by
  simp only [Stamp.readDate?, Option.bind_eq_bind] at h
  split_ifs at h with hcs
  simp only [Option.bind_eq_some_iff] at h
  obtain ⟨y, hy, m, hm, day, hday, hd⟩ := h
  obtain ⟨-, rfl⟩ := Date.valid_of_ofYmd? hd
  -- each field is its value padded to its width
  have hA := (digitsValue?_eq_some.1 hy).padNat_eq
  have hB := (digitsValue?_eq_some.1 hm).padNat_eq
  have hC := (digitsValue?_eq_some.1 hday).padNat_eq
  have hy4 : y < 10000 := by
    have := digitsValue?_lt hy
    rwa [List.length_take, hcs.1] at this
  simp only [List.length_take, List.length_drop, hcs.1] at hA hB hC
  change (padNat 4 y).toList = cs.take 4 at hA
  change (padNat 2 m).toList = (cs.drop 4).take 2 at hB
  change (padNat 2 day).toList = cs.drop 6 at hC
  have hsplit : cs = cs.take 4 ++ ((cs.drop 4).take 2 ++ cs.drop 6) := by
    rw [show cs.drop 6 = (cs.drop 4).drop 2 by rw [List.drop_drop], List.take_append_drop,
      List.take_append_drop]
  rw [Date.renderCompact, renderYear_of_le (by omega : (0 : Int) ≤ y) (by omega)]
  simp only [String.toList_append, Int.toNat_natCast, hA, hB, hC, List.append_assoc]
  exact hsplit

theorem Date.Compact.digits {d : Date} (hd : d.Compact) :
    ∀ c ∈ d.renderCompact.toList, isDigit c = true := by
  intro c hc
  rw [hd.renderCompact_toList] at hc
  simp only [List.mem_append] at hc
  rcases hc with (hc | hc) | hc <;> exact isDigit_of_mem_padNat hc

theorem WallTime.clock_digits (t : WallTime) :
    ∀ c ∈ (padNat 2 t.hour).toList ++ (padNat 2 t.minute).toList ++ (padNat 2 t.second).toList,
      isDigit c = true := by
  intro c hc
  simp only [List.mem_append] at hc
  rcases hc with (hc | hc) | hc <;> exact isDigit_of_mem_padNat hc

theorem WallTime.eq_of_readDateTime? {cs : List Char} {t : WallTime}
    (h : Stamp.readDateTime? cs = some t) : cs.map upperChar = t.renderCompact.toList := by
  simp only [Stamp.readDateTime?, Option.bind_eq_bind] at h
  split_ifs at h with hcs hdig
  · simp only [Option.bind_eq_some_iff] at h
    obtain ⟨d, hd, hh, hH, m, hM, s, hS, h⟩ := h
    split_ifs at h with hbounds
    cases h
    have hv := (Date.compact_of_readDate? hd).1
    have hsod := WallTime.secondOfDay_ofDate d (by omega : hh * 3600 + m * 60 + s < 86400)
    have hdate : (WallTime.ofDate d hh m s).date = d := WallTime.date_ofDate hv (by omega)
    have hclock : (WallTime.ofDate d hh m s).hour = hh ∧ (WallTime.ofDate d hh m s).minute = m ∧
        (WallTime.ofDate d hh m s).second = s := by
      simp only [WallTime.hour, WallTime.minute, WallTime.second, hsod]
      omega
    -- the text is the date, a `T` in either case, and six digits of time
    obtain ⟨x, hx8, hx⟩ : ∃ x, cs[8]? = some x ∧ (x = 'T' ∨ x = 't') := by
      rcases hcs.2 with h8 | h8
      · exact ⟨_, h8, Or.inl rfl⟩
      · exact ⟨_, h8, Or.inr rfl⟩
    have hdrop : cs.drop 8 = x :: cs.drop 9 := by
      obtain ⟨h8, hx8⟩ := List.getElem?_eq_some_iff.1 hx8
      rw [List.drop_eq_getElem_cons h8, hx8]
    have hsplit : cs = cs.take 8 ++ x :: cs.drop 9 := by
      rw [← hdrop, List.take_append_drop]
    have hH' := (digitsValue?_eq_some.1 hH).padNat_eq
    have hM' := (digitsValue?_eq_some.1 hM).padNat_eq
    have hS' := (digitsValue?_eq_some.1 hS).padNat_eq
    simp only [List.length_take, List.length_drop, hcs.1] at hH' hM' hS'
    change (padNat 2 hh).toList = (cs.drop 9).take 2 at hH'
    change (padNat 2 m).toList = ((cs.drop 9).drop 2).take 2 at hM'
    change (padNat 2 s).toList = (cs.drop 9).drop 4 at hS'
    have htime : cs.drop 9 = (cs.drop 9).take 2 ++ (((cs.drop 9).drop 2).take 2 ++ (cs.drop 9).drop 4) := by
      rw [show (cs.drop 9).drop 4 = ((cs.drop 9).drop 2).drop 2 by simp [List.drop_drop],
        List.take_append_drop, List.take_append_drop]
    have hup : upperChar x = 'T' := by rcases hx with rfl | rfl <;> decide
    have hdigs : ∀ c ∈ cs.drop 9, isDigit c = true := List.all_eq_true.1 hdig
    have hD := Date.eq_of_readDate? hd
    have hDdigs : ∀ c ∈ cs.take 8, isDigit c = true :=
      hD ▸ (Date.compact_of_readDate? hd).digits
    rw [WallTime.renderCompact_toList, hdate, hclock.1, hclock.2.1, hclock.2.2, ← hD, hH', hM',
      hS', List.append_assoc, ← htime]
    conv_lhs => rw [hsplit]
    rw [List.map_append, List.map_cons, hup, map_upperChar_of_digits hdigs,
      map_upperChar_of_digits hDdigs]
  · simp at h

theorem readDateTime?_letter {D R : List Char} (hD : D.length = 8) {x : Char}
    (hx : x = 'T' ∨ x = 't') :
    Stamp.readDateTime? (D ++ x :: R) = Stamp.readDateTime? (D ++ 'T' :: R) := by
  have hget (y : Char) : (D ++ y :: R)[8]? = some y := by
    rw [List.getElem?_append_right (by omega)]; simp [hD]
  have htake (y : Char) : (D ++ y :: R).take 8 = D := List.take_left' hD
  have hdrop (y : Char) : (D ++ y :: R).drop 9 = R := by
    rw [show 9 = D.length + 1 by omega, ← List.drop_drop, List.drop_left]; rfl
  simp only [Stamp.readDateTime?, List.length_append, List.length_cons, hget, htake, hdrop]
  rcases hx with rfl | rfl <;> simp

theorem upperChar_eq_T {x : Char} (h : upperChar x = 'T') : x = 'T' ∨ x = 't' := by
  rcases upperChar_eq_letter h (by decide) with h | h
  · exact Or.inl h
  · exact Or.inr (Char.toNat_inj.1 (by rw [h]; rfl))

theorem upperChar_eq_Z {x : Char} (h : upperChar x = 'Z') : x = 'Z' ∨ x = 'z' := by
  rcases upperChar_eq_letter h (by decide) with h | h
  · exact Or.inl h
  · exact Or.inr (Char.toNat_inj.1 (by rw [h]; rfl))

theorem WallTime.Compact.readDateTime?_of_upper {cs : List Char} {t : WallTime} (ht : t.Compact)
    (h : cs.map upperChar = t.renderCompact.toList) : Stamp.readDateTime? cs = some t := by
  rw [WallTime.renderCompact_toList] at h
  obtain ⟨D, xR, rfl, hD, hxR⟩ := List.map_eq_append_iff.1 h
  obtain ⟨x, R, rfl, hx, hR⟩ := List.map_eq_cons_iff.1 hxR
  have hD' := map_upperChar_eq_digits hD ht.date.digits
  have hR' := map_upperChar_eq_digits hR t.clock_digits
  rw [hD', hR', readDateTime?_letter ht.date.length_renderCompact (upperChar_eq_T hx),
    ← WallTime.renderCompact_toList]
  exact ht.readDateTime?

namespace Stamp

/-- The reader takes exactly the compact texts, read around blanks and with `T` and `Z` in
either case. -/
theorem ofText?_eq_some {v : String} {s : Stamp} :
    ofText? v = some s ↔ s.Compact ∧ asciiUpper (trim v) = s.render := by
  rw [← String.toList_inj, toList_asciiUpper]
  constructor
  · intro h
    refine ⟨compact_of_ofText? h, ?_⟩
    simp only [ofText?] at h
    split at h
    · cases h
    · split at h
      · obtain ⟨d, hd, rfl⟩ := Option.map_eq_some_iff.1 h
        rw [render, Date.eq_of_readDate? hd]
        exact map_upperChar_of_digits (Date.compact_of_readDate? hd).digits
      · obtain ⟨t, ht, rfl⟩ := Option.map_eq_some_iff.1 h
        exact WallTime.eq_of_readDateTime? ht
      · split at h
        · rename_i hlen hZ
          obtain ⟨t, ht, rfl⟩ := Option.map_eq_some_iff.1 h
          -- the last character is the `Z`, in either case
          obtain ⟨z, hz, hzZ⟩ : ∃ z, (trim v).toList.getLast? = some z ∧ upperChar z = 'Z' := by
            rcases hZ with hZ | hZ
            · exact ⟨_, hZ, by decide⟩
            · exact ⟨_, hZ, by decide⟩
          have hsplit : (trim v).toList = (trim v).toList.dropLast ++ [z] :=
            (List.dropLast_append_getLast? z hz).symm
          rw [hsplit, List.map_append, WallTime.eq_of_readDateTime? ht, render,
            String.toList_append]
          simp [hzZ]
        · cases h
      · cases h
  · rintro ⟨hs, h⟩
    have hword := s.isWord_render
    have hascii : isAscii (trim v) = true := by
      unfold isAscii
      rw [List.all_eq_true]
      intro c hc
      have := List.all_eq_true.1 hword.ascii (upperChar c) (h ▸ List.mem_map_of_mem hc)
      exact decide_eq_true (toNat_lt_of_upperChar (of_decide_eq_true this))
    have hlen : (trim v).toList.length = s.render.toList.length := by rw [← h, List.length_map]
    cases s with
    | date d =>
      have hL := map_upperChar_eq_digits h hs.digits
      simp only [render] at hlen hL
      rw [hs.length_renderCompact] at hlen
      simp [ofText?, hascii, hL, hs.length_renderCompact, hs.readDate?]
    | wall t =>
      simp only [render] at hlen h
      rw [hs.length_renderCompact] at hlen
      simp [ofText?, hascii, hlen, hs.readDateTime?_of_upper h]
    | utc t =>
      simp only [render, String.toList_append] at hlen h
      obtain ⟨L, zs, hL, hLt, hzs⟩ := List.map_eq_append_iff.1 h
      obtain ⟨z, rest, rfl, hz, hrest⟩ := List.map_eq_cons_iff.1 hzs
      obtain rfl : rest = [] := List.map_eq_nil_iff.1 hrest
      have hlast : (trim v).toList.getLast? = some z := by rw [hL]; simp
      have hdrop : (trim v).toList.dropLast = L := by rw [hL]; simp
      rw [List.length_append, hs.length_renderCompact] at hlen
      simp [ofText?, hascii, hlen, hlast, hdrop, upperChar_eq_Z hz,
        hs.readDateTime?_of_upper hLt]

end Stamp

end Cadence
