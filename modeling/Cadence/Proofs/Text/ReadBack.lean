import Mathlib
import Cadence.Rule.Parse

/-!
# Reading back printed text

The readers of rule text trim blanks, fold ASCII case, split at separators and read decimal
numbers. Each of these steps gives back what a printer wrote, provided the printed words are
made of digits, upper-case letters and signs only: such a word has no blank to trim, no
lower-case letter to fold and no separator to split at. This module states those facts once,
for any word of that alphabet, and for the decimal forms of numbers.
-/
namespace Cadence.Text

/-- The characters of the words rule text is made of: decimal digits, upper-case ASCII letters
and the two signs. -/
def IsWordChar (c : Char) : Prop :=
  (48 ≤ c.toNat ∧ c.toNat ≤ 57) ∨ (65 ≤ c.toNat ∧ c.toNat ≤ 90) ∨ c.toNat = 43 ∨ c.toNat = 45

/-- A text made of word characters only. -/
def IsWord (s : String) : Prop := ∀ c ∈ s.toList, IsWordChar c

theorem isDigit_eq (c : Char) : isDigit c = c.isDigit := rfl

theorem isDigit_iff (c : Char) : isDigit c = true ↔ 48 ≤ c.toNat ∧ c.toNat ≤ 57 := by
  rw [isDigit_eq, Char.isDigit_iff_toNat]
  rfl

theorem IsWordChar.not_blank {c : Char} (h : IsWordChar c) : isBlank c = false := by
  unfold IsWordChar at h
  simp only [isBlank, Bool.or_eq_false_iff, Bool.and_eq_false_iff, decide_eq_false_iff_not,
    beq_eq_false_iff_ne, ne_eq]
  omega

theorem IsWordChar.not_lower {c : Char} (h : IsWordChar c) : ¬('a' ≤ c ∧ c ≤ 'z') := by
  unfold IsWordChar at h
  simp only [Char.le_def, UInt32.le_iff_toNat_le, Char.toNat_val]
  have ha : 'a'.toNat = 97 := rfl
  have hz : 'z'.toNat = 122 := rfl
  omega

theorem IsWord.not_mem {s : String} (h : IsWord s) {d : Char} (hd : ¬ IsWordChar d) :
    d ∉ s.toList :=
  fun hm => hd (h d hm)

theorem IsWord.append {s t : String} (hs : IsWord s) (ht : IsWord t) : IsWord (s ++ t) := by
  intro c hc
  rw [String.toList_append, List.mem_append] at hc
  exact hc.elim (hs c) (ht c)

theorem isWord_of_digits {s : String} (h : ∀ c ∈ s.toList, isDigit c = true) : IsWord s :=
  fun c hc => .inl ((isDigit_iff c).1 (h c hc))

theorem IsWord.ascii {s : String} (h : IsWord s) : isAscii s = true := by
  unfold isAscii
  rw [List.all_eq_true]
  intro c hc
  have := h c hc
  unfold IsWordChar at this
  simp only [decide_eq_true_eq]
  omega

/-! ## Trimming and case -/

theorem dropBlanks_of_forall {cs : List Char} (h : ∀ c ∈ cs, isBlank c = false) :
    dropBlanks cs = cs := by
  cases cs with
  | nil => rfl
  | cons c cs => simp [dropBlanks, h c List.mem_cons_self]

theorem trim_of_forall {s : String} (h : ∀ c ∈ s.toList, isBlank c = false) : trim s = s := by
  have hrev : ∀ c ∈ s.toList.reverse, isBlank c = false := fun c hc => h c (List.mem_reverse.1 hc)
  simp [trim, dropBlanks_of_forall h, dropBlanks_of_forall hrev]

theorem IsWord.trim_eq {s : String} (h : IsWord s) : trim s = s :=
  trim_of_forall fun c hc => (h c hc).not_blank

theorem IsWord.asciiUpper_eq {s : String} (h : IsWord s) : asciiUpper s = s := by
  rw [← String.toList_inj, asciiUpper, String.toList_map]
  conv => rhs; rw [← List.map_id s.toList]
  refine List.map_congr_left fun c hc => ?_
  simp [(h c hc).not_lower]

/-! ## Decimal numbers -/

theorem digitsValue?_toDigits (n : Nat) : digitsValue? (Nat.toDigits 10 n) = some n := by
  have hdig : (Nat.toDigits 10 n).all isDigit = true := by
    rw [List.all_eq_true]
    intro c hc
    rw [isDigit_eq]
    exact Nat.isDigit_of_mem_toDigits (by decide) (by decide) hc
  simp only [digitsValue?, List.isEmpty_eq_false_iff.2 Nat.toDigits_ne_nil, hdig]
  exact congrArg some Nat.ofDigitChars_ten_toDigits

theorem isDigit_of_mem_natString {n : Nat} {c : Char} (hc : c ∈ (toString n).toList) :
    isDigit c = true := by
  rw [Nat.toString_eq_repr, Nat.toList_repr] at hc
  rw [isDigit_eq]
  exact Nat.isDigit_of_mem_toDigits (by decide) (by decide) hc

theorem isWord_natString (n : Nat) : IsWord (toString n) :=
  isWord_of_digits fun _ => isDigit_of_mem_natString

theorem natString_ne_sign (n : Nat) (cs : List Char) :
    (toString n).toList ≠ '+' :: cs ∧ (toString n).toList ≠ '-' :: cs := by
  constructor <;> intro hcs
  · have := (isDigit_iff '+').1 (isDigit_of_mem_natString (by rw [hcs]; simp))
    simp at this
  · have := (isDigit_iff '-').1 (isDigit_of_mem_natString (by rw [hcs]; simp))
    simp at this

theorem signedValue?_natString (n : Nat) : signedValue? (toString n) = some (n : Int) := by
  have hval := digitsValue?_toDigits n
  unfold signedValue?
  split
  · rename_i ds hds; exact absurd hds (natString_ne_sign n ds).1
  · rename_i ds hds; exact absurd hds (natString_ne_sign n ds).2
  · simp [Nat.toList_repr, hval]

@[simp] theorem intPow_eq (a : Int) (n : Nat) : Int.pow a n = a ^ n := rfl

theorem unsignedOfText?_natString {bits n : Nat} (h : n < 2 ^ bits) :
    unsignedOfText? bits (toString n) = some n := by
  have hsign := signedValue?_natString n
  unfold unsignedOfText?
  split
  · rename_i cs hcs; exact absurd hcs (natString_ne_sign n cs).2
  · have hcast : (n : Int) < 2 ^ bits := by exact_mod_cast h
    rw [hsign]
    simp [hcast]

theorem unsignedOfText?_lt {bits n : Nat} {s : String} (h : unsignedOfText? bits s = some n) :
    n < 2 ^ bits := by
  unfold unsignedOfText? at h
  split at h
  · cases h
  · obtain ⟨v, -, hv⟩ := Option.bind_eq_some_iff.1 h
    split at hv
    · rename_i hlt
      cases hv
      rw [intPow_eq] at hlt
      have hpow : ((2 ^ bits : Nat) : Int) = 2 ^ bits := Int.natCast_pow 2 bits
      have hpos : 0 < 2 ^ bits := Nat.two_pow_pos bits
      omega
    · cases hv

theorem signedValue?_intString (i : Int) : signedValue? (toString i) = some i := by
  cases i with
  | ofNat n => exact signedValue?_natString n
  | negSucc n =>
    have hval := digitsValue?_toDigits (n + 1)
    show signedValue? ("-" ++ Nat.repr (n + 1)) = _
    simp [signedValue?, Nat.toList_repr, hval, Int.negSucc_eq]

theorem signedOfText?_intString {bits : Nat} {i : Int} (h0 : -(2 ^ (bits - 1) : Int) ≤ i)
    (h1 : i < 2 ^ (bits - 1)) : signedOfText? bits (toString i) = some i := by
  rw [signedOfText?, signedValue?_intString]
  simp [h0, h1]

theorem signedValue?_renderSigned (p : Int) : signedValue? (renderSigned p) = some p := by
  have hval := digitsValue?_toDigits p.natAbs
  unfold renderSigned
  -- The value is read back as the magnitude with its sign; name it so before reading.
  split
  · have hp : p = -((p.natAbs : Nat) : Int) := by omega
    conv => rhs; rw [hp]
    simp [signedValue?, Nat.toList_repr, hval]
  · have hp : p = ((p.natAbs : Nat) : Int) := by omega
    conv => rhs; rw [hp]
    simp [signedValue?, Nat.toList_repr, hval]

theorem isWord_intString (i : Int) : IsWord (toString i) := by
  cases i with
  | ofNat n => exact isWord_natString n
  | negSucc n =>
    show IsWord ("-" ++ toString (n + 1))
    exact IsWord.append (fun c hc => by simp at hc; subst hc; simp [IsWordChar])
      (isWord_natString _)

theorem isWord_renderSigned (p : Int) : IsWord (renderSigned p) := by
  unfold renderSigned
  split
  · exact IsWord.append (fun c hc => by simp at hc; subst hc; simp [IsWordChar])
      (isWord_natString _)
  · exact IsWord.append (fun c hc => by simp at hc; subst hc; simp [IsWordChar])
      (isWord_natString _)

/-! ## Padded numbers -/

theorem padNat_toList (w n : Nat) :
    (padNat w n).toList = List.replicate (w - (Nat.toDigits 10 n).length) '0' ++ Nat.toDigits 10 n := by
  simp [padNat, ← String.length_toList]

theorem length_padNat (w n : Nat) (hw : 0 < w) (h : n < 10 ^ w) : (padNat w n).toList.length = w := by
  have hlen := (Nat.length_toDigits_le_iff (by decide) hw).2 h
  simp only [padNat_toList, List.length_append, List.length_replicate]
  omega

theorem isDigit_of_mem_padNat {w n : Nat} {c : Char} (hc : c ∈ (padNat w n).toList) :
    isDigit c = true := by
  rw [padNat_toList, List.mem_append] at hc
  rcases hc with hc | hc
  · rw [(List.mem_replicate.1 hc).2]; rfl
  · rw [isDigit_eq]; exact Nat.isDigit_of_mem_toDigits (by decide) (by decide) hc

theorem isWord_padNat (w n : Nat) : IsWord (padNat w n) :=
  isWord_of_digits fun _ => isDigit_of_mem_padNat

theorem digitsValue?_padNat (w n : Nat) : digitsValue? (padNat w n).toList = some n := by
  have hdig : (padNat w n).toList.all isDigit = true :=
    List.all_eq_true.2 fun _ hc => isDigit_of_mem_padNat hc
  have hne : (padNat w n).toList ≠ [] := by
    rw [padNat_toList]; simp [Nat.toDigits_ne_nil]
  simp only [digitsValue?, List.isEmpty_eq_false_iff.2 hne, hdig]
  rw [padNat_toList]
  show some (Nat.ofDigitChars 10 _ 0) = some n
  rw [Nat.ofDigitChars_append, Nat.ofDigitChars_replicate_zero, Nat.mul_zero,
    Nat.ofDigitChars_ten_toDigits]

theorem foldl_digits_lt (cs : List Char) (init : Nat) (h : ∀ c ∈ cs, isDigit c = true) :
    cs.foldl (fun n c => 10 * n + (c.toNat - '0'.toNat)) init < (init + 1) * 10 ^ cs.length := by
  induction cs generalizing init with
  | nil => simp
  | cons c cs ih =>
    have hc := (isDigit_iff c).1 (h c List.mem_cons_self)
    have hrest := ih (10 * init + (c.toNat - '0'.toNat)) fun d hd => h d (List.mem_cons_of_mem _ hd)
    have hd : c.toNat - '0'.toNat < 10 := by
      have : '0'.toNat = 48 := rfl
      omega
    calc List.foldl (fun n c => 10 * n + (c.toNat - '0'.toNat)) init (c :: cs)
        < (10 * init + (c.toNat - '0'.toNat) + 1) * 10 ^ cs.length := hrest
      _ ≤ (10 * init + 10) * 10 ^ cs.length := Nat.mul_le_mul_right _ (by omega)
      _ = (init + 1) * 10 ^ (c :: cs).length := by
        rw [List.length_cons, Nat.pow_succ, show 10 * init + 10 = (init + 1) * 10 by omega,
          Nat.mul_assoc, Nat.mul_comm 10]

theorem digitsValue?_lt {cs : List Char} {v : Nat} (h : digitsValue? cs = some v) :
    v < 10 ^ cs.length := by
  unfold digitsValue? at h
  split at h
  · cases h
  · rename_i hcs
    simp only [Bool.or_eq_true, Bool.not_eq_true', not_or, Bool.not_eq_false] at hcs
    cases h
    simpa using foldl_digits_lt cs 0 (List.all_eq_true.1 hcs.2)

end Cadence.Text

namespace Cadence

open Cadence.Text

/-! ## Separators -/

theorem forall_mem_intercalate {P : Char → Prop} {sep : String} (hsep : ∀ c ∈ sep.toList, P c) :
    ∀ {parts : List String}, (∀ p ∈ parts, ∀ c ∈ p.toList, P c) →
      ∀ c ∈ (sep.intercalate parts).toList, P c
  | [], _ => by simp
  | [p], h => by simpa using h p (by simp)
  | p :: q :: ps, h => by
    intro c hc
    rw [String.intercalate_cons_cons] at hc
    simp only [String.toList_append, List.mem_append] at hc
    rcases hc with (hc | hc) | hc
    · exact h p (by simp) c hc
    · exact hsep c hc
    · exact forall_mem_intercalate hsep (fun r hr => h r (List.mem_cons_of_mem _ hr)) c hc

theorem splitAll_intercalate {c : Char} {parts : List String} (hne : parts ≠ [])
    (h : ∀ p ∈ parts, c ∉ p.toList) :
    splitAll c (String.intercalate (String.singleton c) parts) = parts := by
  have hlists : ∀ l ∈ parts.map String.toList, c ∉ l := by
    intro l hl
    obtain ⟨p, hp, rfl⟩ := List.mem_map.1 hl
    exact h p hp
  simp only [splitAll, String.toList_intercalate, String.toList_singleton]
  rw [List.splitOn_intercalate c hlists (by simpa using hne)]
  simp

theorem splitOnce_append {c : Char} {k v : String} (hk : c ∉ k.toList) :
    splitOnce c (k ++ String.singleton c ++ v) = some (k, v) := by
  have hidx : (k.toList ++ c :: v.toList).findIdx? (· = c) = some k.toList.length := by
    rw [List.findIdx?_append]
    have hnone : k.toList.findIdx? (· = c) = none := by
      rw [List.findIdx?_eq_none_iff]
      intro x hx
      simp only [decide_eq_false_iff_not]
      rintro rfl
      exact hk hx
    simp [hnone, List.findIdx?_cons]
  simp [splitOnce, String.toList_append, hidx]

theorem splitOnce_of_not_mem {c : Char} {s : String} (h : c ∉ s.toList) : splitOnce c s = none := by
  have hnone : s.toList.findIdx? (· = c) = none := by
    rw [List.findIdx?_eq_none_iff]
    intro x hx
    simp only [decide_eq_false_iff_not]
    rintro rfl
    exact h hx
  simp [splitOnce, hnone]

end Cadence
