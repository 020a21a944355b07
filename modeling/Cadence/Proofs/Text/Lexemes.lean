import Cadence.Proofs.Text.ReadBack

/-!
# Lexical shapes of rule text

The grammar of rule text is built from three lexical notions, each stated here on its own
and matched with the function of the library that reads it:

* the pieces of a text between the occurrences of a separator (`Pieces`), which are exactly
  what `splitAll` returns (`pieces_iff`);
* a run of decimal digits and its value (`DigitRun`), read as `digitsValue?` reads it;
* the decimal numerals of the integer readers (`UnsignedText`, `SignedText`): an optional
  sign, then a run of digits whose value lies in the range of the width. A plus sign is
  taken by both readers, a minus sign only by the signed one (`unsignedOfText?_eq_some`,
  `signedOfText?_eq_some`).
-/

namespace Cadence

open Cadence.Text

/-! ## Pieces between separators -/

/-- `items` are the pieces of `s` between the occurrences of `c`: none of them holds `c`, and
joined at `c` they give `s` back. -/
def Pieces (c : Char) (s : String) (items : List String) : Prop :=
  items ≠ [] ∧ (∀ it ∈ items, c ∉ it.toList) ∧ s = (String.singleton c).intercalate items

theorem not_mem_of_mem_splitOn {c : Char} :
    ∀ {cs l : List Char}, l ∈ cs.splitOn c → c ∉ l
  | [], l, hl => by simp_all
  | x :: xs, l, hl => by
    rw [List.splitOn_eq_splitOnP, List.splitOnP_cons_eq_if_modifyHead,
      ← List.splitOn_eq_splitOnP] at hl
    split_ifs at hl with hx
    · rcases List.mem_cons.1 hl with rfl | hl
      · simp
      · exact not_mem_of_mem_splitOn hl
    · -- the first piece gains `x`, which is not the separator
      have hxc : x ≠ c := by simpa using hx
      cases hrest : xs.splitOn c with
      | nil => exact absurd hrest (List.splitOn_ne_nil c xs)
      | cons p ps =>
        rw [hrest, List.modifyHead_cons] at hl
        rcases List.mem_cons.1 hl with rfl | hl
        · intro hmem
          rcases List.mem_cons.1 hmem with h | h
          · exact hxc h.symm
          · exact not_mem_of_mem_splitOn (by rw [hrest]; exact List.mem_cons_self) h
        · exact not_mem_of_mem_splitOn (by rw [hrest]; exact List.mem_cons_of_mem _ hl)

theorem pieces_splitAll (c : Char) (s : String) : Pieces c s (splitAll c s) := by
  refine ⟨by simp [splitAll, List.splitOn_ne_nil], fun it hit => ?_, ?_⟩
  · obtain ⟨l, hl, rfl⟩ := List.mem_map.1 hit
    simpa using not_mem_of_mem_splitOn hl
  · rw [← String.toList_inj, splitAll, String.toList_intercalate, String.toList_singleton,
      List.map_map]
    simp [List.intercalate_splitOn]

/-- The pieces of a text at a separator are the ones `splitAll` finds. -/
theorem pieces_iff {c : Char} {s : String} {items : List String} :
    Pieces c s items ↔ items = splitAll c s := by
  constructor
  · rintro ⟨hne, hc, rfl⟩
    exact (splitAll_intercalate hne hc).symm
  · rintro rfl
    exact pieces_splitAll c s

/-! ## Runs of digits -/

/-- A nonempty run of decimal digits whose value is `n`. -/
def DigitRun (ds : List Char) (n : Nat) : Prop :=
  ds ≠ [] ∧ (∀ c ∈ ds, c.isDigit = true) ∧ Nat.ofDigitChars 10 ds 0 = n

theorem digitsValue?_eq_some {ds : List Char} {n : Nat} : digitsValue? ds = some n ↔ DigitRun ds n := by
  unfold digitsValue? DigitRun
  by_cases hne : ds = []
  · simp [hne]
  · by_cases hdig : ds.all isDigit = true
    · have hdig' : ∀ c ∈ ds, c.isDigit = true := fun c hc => by
        rw [← isDigit_eq]; exact List.all_eq_true.1 hdig c hc
      simp only [List.isEmpty_eq_false_iff.2 hne, hdig, Bool.not_true, Bool.or_false,
        Bool.false_eq_true, if_false, Option.some.injEq]
      exact ⟨fun h => ⟨hne, hdig', h⟩, fun h => h.2.2⟩
    · have hnot : ¬ ∀ c ∈ ds, c.isDigit = true := fun h =>
        hdig (List.all_eq_true.2 fun c hc => by rw [isDigit_eq]; exact h c hc)
      simp only [Bool.not_eq_true] at hdig
      simp [hdig, hnot]

theorem DigitRun.not_sign {ds : List Char} {n : Nat} (h : DigitRun ds n) (cs : List Char) :
    ds ≠ '+' :: cs ∧ ds ≠ '-' :: cs := by
  constructor <;> rintro rfl <;> simpa using h.2.1 _ List.mem_cons_self

theorem eq_of_ofDigitChars_eq {xs ys : List Char} (hlen : xs.length = ys.length)
    (hx : ∀ c ∈ xs, c.isDigit = true) (hy : ∀ c ∈ ys, c.isDigit = true)
    (h : Nat.ofDigitChars 10 xs 0 = Nat.ofDigitChars 10 ys 0) : xs = ys := by
  induction xs using List.reverseRecOn generalizing ys with
  | nil => exact (List.length_eq_zero_iff.1 (by simpa using hlen.symm)).symm
  | append_singleton xs x ih =>
    obtain ⟨ys, y, rfl⟩ : ∃ ys' y, ys = ys' ++ [y] := by
      rcases List.eq_nil_or_concat ys with rfl | ⟨ys', y, rfl⟩
      · simp at hlen
      · exact ⟨ys', y, List.concat_eq_append⟩
    have hxd := (isDigit_iff x).1 (by rw [isDigit_eq]; exact hx x (by simp))
    have hyd := (isDigit_iff y).1 (by rw [isDigit_eq]; exact hy y (by simp))
    rw [Nat.ofDigitChars_append, Nat.ofDigitChars_append] at h
    simp only [Nat.ofDigitChars_cons, Nat.ofDigitChars_nil] at h
    have hzero : '0'.toNat = 48 := rfl
    have hxy : x.toNat = y.toNat ∧ Nat.ofDigitChars 10 xs 0 = Nat.ofDigitChars 10 ys 0 := by
      omega
    rw [ih (by simpa using hlen) (fun c hc => hx c (by simp [hc]))
      (fun c hc => hy c (by simp [hc])) hxy.2, Char.ext (UInt32.toNat_inj.1 hxy.1)]

theorem DigitRun.padNat_eq {ds : List Char} {n : Nat} (h : DigitRun ds n) :
    (padNat ds.length n).toList = ds := by
  have hlt := digitsValue?_lt (digitsValue?_eq_some.2 h)
  have hpad := digitsValue?_eq_some.1 (digitsValue?_padNat ds.length n)
  have hpos : 0 < ds.length := List.length_pos_iff.2 h.1
  refine eq_of_ofDigitChars_eq (length_padNat _ _ hpos hlt) (fun c hc => ?_) h.2.1 ?_
  · rw [← isDigit_eq]; exact isDigit_of_mem_padNat hc
  · rw [hpad.2.2, h.2.2]

/-! ## Letters read in either case -/

/-- The case map of `asciiUpper`, one character at a time. -/
def upperChar (c : Char) : Char := if 'a' ≤ c ∧ c ≤ 'z' then Char.ofNat (c.toNat - 32) else c

theorem toList_asciiUpper (s : String) : (asciiUpper s).toList = s.toList.map upperChar := by
  simp [asciiUpper, upperChar, String.toList_map]

theorem upperChar_eq {c d : Char} (h : upperChar c = d) :
    c = d ∨ (97 ≤ c.toNat ∧ c.toNat ≤ 122 ∧ d.toNat = c.toNat - 32) := by
  unfold upperChar at h
  split_ifs at h with hc
  · right
    have hlo : 97 ≤ c.toNat := hc.1
    have hhi : c.toNat ≤ 122 := hc.2
    subst h
    refine ⟨hlo, hhi, ?_⟩
    rw [Char.toNat_ofNat, if_pos (by unfold Nat.isValidChar; omega)]
  · exact Or.inl h

theorem upperChar_of_isDigit {c : Char} (h : isDigit c = true) : upperChar c = c := by
  have := (isDigit_iff c).1 h
  unfold upperChar
  rw [if_neg fun hc => by have : 97 ≤ c.toNat := hc.1; omega]

theorem eq_of_upperChar_eq_digit {c d : Char} (h : upperChar c = d) (hd : isDigit d = true) :
    c = d := by
  have := (isDigit_iff d).1 hd
  rcases upperChar_eq h with h | ⟨hlo, -, hdc⟩
  · exact h
  · omega

theorem map_upperChar_eq_digits {cs ds : List Char} (h : cs.map upperChar = ds)
    (hd : ∀ d ∈ ds, isDigit d = true) : cs = ds := by
  subst h
  conv_lhs => rw [← List.map_id cs]
  exact List.map_congr_left fun c hc =>
    eq_of_upperChar_eq_digit rfl (hd _ (List.mem_map_of_mem (f := upperChar) hc))

theorem upperChar_eq_letter {c d : Char} (h : upperChar c = d) (hd : 65 ≤ d.toNat ∧ d.toNat ≤ 90) :
    c = d ∨ c.toNat = d.toNat + 32 := by
  rcases upperChar_eq h with h | ⟨-, -, hdc⟩
  · exact Or.inl h
  · right; omega

theorem toNat_lt_of_upperChar {c : Char} (h : (upperChar c).toNat < 128) : c.toNat < 128 := by
  rcases upperChar_eq (rfl : upperChar c = upperChar c) with h' | ⟨-, hhi, -⟩
  · rw [← h'] at h; exact h
  · omega

/-! ## Numerals of the integer readers -/

/-- A numeral as the unsigned reader of `bits` bits takes it: an optional plus sign and a run
of digits, of value below `2 ^ bits`. -/
def UnsignedText (bits : Nat) (s : String) (n : Nat) : Prop :=
  n < 2 ^ bits ∧ ∃ ds, (s.toList = ds ∨ s.toList = '+' :: ds) ∧ DigitRun ds n

/-- A numeral as the signed reader of `bits` bits takes it: an optional plus or minus sign
and a run of digits, of value from `-2 ^ (bits - 1)` to `2 ^ (bits - 1) - 1`. -/
def SignedText (bits : Nat) (s : String) (i : Int) : Prop :=
  -2 ^ (bits - 1) ≤ i ∧ i < 2 ^ (bits - 1) ∧ ∃ ds n, DigitRun ds n ∧
    ((s.toList = ds ∨ s.toList = '+' :: ds) ∧ i = n ∨ s.toList = '-' :: ds ∧ i = -n)

theorem signedValue?_eq_some {s : String} {i : Int} :
    signedValue? s = some i ↔ ∃ ds n, DigitRun ds n ∧
      ((s.toList = ds ∨ s.toList = '+' :: ds) ∧ i = n ∨ s.toList = '-' :: ds ∧ i = -n) := by
  unfold signedValue?
  split
  · rename_i ds hs
    simp only [Option.map_eq_some_iff, digitsValue?_eq_some, hs, List.cons.injEq, true_and]
    constructor
    · rintro ⟨n, hn, rfl⟩
      exact ⟨ds, n, hn, Or.inl ⟨Or.inr rfl, rfl⟩⟩
    · rintro ⟨es, n, hn, ⟨h | rfl, rfl⟩ | ⟨h, -⟩⟩
      · exact absurd h.symm (hn.not_sign ds).1
      · exact ⟨n, hn, rfl⟩
      · simp at h
  · rename_i ds hs
    simp only [Option.map_eq_some_iff, Option.bind_eq_bind, Option.bind_eq_some_iff,
      Option.pure_def, Option.some.injEq, digitsValue?_eq_some, hs, List.cons.injEq, true_and]
    constructor
    · rintro ⟨_, ⟨n, hn, rfl⟩, rfl⟩
      exact ⟨ds, n, hn, Or.inr ⟨rfl, rfl⟩⟩
    · rintro ⟨es, n, hn, ⟨h | h, -⟩ | ⟨rfl, rfl⟩⟩
      · exact absurd h.symm (hn.not_sign ds).2
      · simp at h
      · exact ⟨n, ⟨n, hn, rfl⟩, rfl⟩
  · rename_i cs hplus hminus
    simp only [Option.map_eq_some_iff, digitsValue?_eq_some]
    constructor
    · rintro ⟨n, hn, rfl⟩
      exact ⟨s.toList, n, hn, Or.inl ⟨Or.inl rfl, rfl⟩⟩
    · rintro ⟨ds, n, hn, ⟨rfl | h, rfl⟩ | ⟨h, -⟩⟩
      · exact ⟨n, hn, rfl⟩
      · exact absurd h (hplus ds)
      · exact absurd h (hminus ds)

theorem unsignedOfText?_eq_some {bits : Nat} {s : String} {n : Nat} :
    unsignedOfText? bits s = some n ↔ UnsignedText bits s n := by
  unfold unsignedOfText? UnsignedText
  split
  · rename_i cs hs
    simp only [reduceCtorEq, false_iff, not_and, not_exists]
    rintro - ds (h | h) hds
    · exact (hds.not_sign cs).2 (h ▸ hs)
    · simp [hs] at h
  · rename_i hminus
    simp only [Option.bind_eq_some_iff, signedValue?_eq_some]
    constructor
    · rintro ⟨v, ⟨ds, m, hm, ⟨hs, rfl⟩ | ⟨hs, -⟩⟩, hv⟩
      · split at hv
        · rename_i hlt
          cases hv
          refine ⟨by rw [intPow_eq] at hlt; exact_mod_cast hlt, ds, hs, ?_⟩
          simpa using hm
        · cases hv
      · exact absurd hs (hminus ds)
    · rintro ⟨hlt, ds, hs, hds⟩
      refine ⟨n, ⟨ds, n, hds, Or.inl ⟨hs, rfl⟩⟩, ?_⟩
      have : (n : Int) < 2 ^ bits := by exact_mod_cast hlt
      simp [this]

theorem signedOfText?_eq_some {bits : Nat} {s : String} {i : Int} :
    signedOfText? bits s = some i ↔ SignedText bits s i := by
  unfold signedOfText? SignedText
  simp only [Option.bind_eq_some_iff, signedValue?_eq_some, intPow_eq]
  constructor
  · rintro ⟨v, hv, hrange⟩
    split at hrange
    · rename_i hin
      cases hrange
      exact ⟨hin.1, hin.2, hv⟩
    · cases hrange
  · rintro ⟨h0, h1, hv⟩
    exact ⟨i, hv, by simp [h0, h1]⟩

end Cadence
