import Cadence.Proofs.Rule.RuleText
/-!
# The grammar of rule text

`Rule.ofText` accepts exactly the texts that `RuleText` describes, and reads each as the rule
that its parts denote (`Rule.ofText_eq_ok_iff`). The description is declarative: it says which
texts are rules and what they mean, not in which order the reader checks them.

A text, read around blanks, is a rule body, or a body after the name `RRULE` or `EXRULE` in
any case and a colon. A body is divided by `;` into parts; blank parts are skipped and the
others are `KEY=VALUE`, with blanks around key and value and the key in any case (`PartText`).
Each part sets one field of the rule (`RulePart`), its value spelled as that field requires
(`RulePart.Spelled`). The keys differ from one another, `FREQ` is among them, and `COUNT` and
`UNTIL` are not both; the rule denoted, the daily rule with each part's field set, has
positioned weekdays only when monthly or yearly, and no month days when weekly.
-/
namespace Cadence

open Cadence.Text

/-! ## Folds that read item by item -/

section Fold

variable {ε α β γ : Type} {f : β → α → Except ε β} {R : α → γ → Prop} {g : β → γ → β}

theorem foldlM_eq_ok_iff (hf : ∀ b a b', f b a = .ok b' ↔ ∃ c, R a c ∧ b' = g b c) :
    ∀ {l : List α} {b b' : β},
      l.foldlM f b = .ok b' ↔ ∃ cs, List.Forall₂ R l cs ∧ b' = cs.foldl g b
  | [], b, b' => by
    simp only [List.foldlM_nil, Except.pure_eq, Except.ok.injEq, List.forall₂_nil_left_iff,
      exists_eq_left, List.foldl_nil]
    exact eq_comm
  | a :: l, b, b' => by
    rw [List.foldlM_cons, Except.bind_eq_ok]
    constructor
    · rintro ⟨b₁, h₁, hrest⟩
      obtain ⟨c, hc, rfl⟩ := (hf b a b₁).1 h₁
      obtain ⟨cs, hcs, rfl⟩ := (foldlM_eq_ok_iff hf).1 hrest
      exact ⟨c :: cs, List.Forall₂.cons hc hcs, rfl⟩
    · rintro ⟨_ | ⟨c, cs⟩, hall, rfl⟩
      · cases hall
      · obtain ⟨hc, hcs⟩ := List.forall₂_cons.1 hall
        exact ⟨g b c, (hf b a _).2 ⟨c, hc, rfl⟩, (foldlM_eq_ok_iff hf).2 ⟨cs, hcs, rfl⟩⟩

end Fold

/-! ## Lists without repeats -/

theorem foldl_appendNew_nil {α : Type} [DecidableEq α] (xs : List α) :
    xs.foldl (fun acc x => if x ∈ acc then acc else acc ++ [x]) [] = xs.eraseDups := by
  induction xs using List.reverseRecOn with
  | nil => rfl
  | append_singleton xs x ih =>
    rw [List.foldl_append, ih, List.foldl_cons, List.foldl_nil, List.eraseDups_append]
    by_cases hx : x ∈ xs
    · simp [hx, List.mem_eraseDups, List.removeAll]
    · simp [hx, List.mem_eraseDups, List.removeAll, List.eraseDups_cons]

/-! ## Codes read in either case -/

theorem Frequency.ofCode?_eq_some {v : String} {f : Frequency} :
    Frequency.ofCode? v = some f ↔ asciiUpper v = f.code := by
  unfold Frequency.ofCode?
  constructor
  · intro h
    have hc := List.find?_some h
    rw [beq_iff_eq] at hc
    exact hc.symm
  · intro h
    rw [h]
    cases f <;> decide

theorem Weekday.ofCode?_eq_some {v : String} {w : Weekday} :
    Weekday.ofCode? v = some w ↔ v = w.code := by
  unfold Weekday.ofCode?
  constructor
  · intro h
    have hc := List.find?_some h
    rw [beq_iff_eq] at hc
    exact hc.symm
  · rintro rfl
    cases w <;> decide

/-! ## Weekdays of `BYDAY` -/

/-- A position as written before a weekday code: an allowed position in digits, after a minus
sign when it counts from the end and after an optional plus sign otherwise. -/
def PositionText (pos : String) (p : Int) : Prop :=
  p ∈ allowedPositions ∧ (pos = toString p ∨ 0 < p ∧ pos = "+" ++ toString p)

/-- A weekday of `BYDAY` as written, in capitals: its code, after its position if it has one. -/
def WeekdayNum.Spelled (token : String) (d : WeekdayNum) : Prop :=
  match d.position with
  | none => token = d.weekday.code
  | some p => ∃ pos, PositionText pos p ∧ token = pos ++ d.weekday.code

theorem DigitRun.dropWhile_sign {ds : List Char} {n : Nat} (h : DigitRun ds n) :
    ds.dropWhile (fun c => decide (c = '+' ∨ c = '-')) = ds := by
  obtain ⟨c, cs, rfl⟩ := List.exists_cons_of_ne_nil h.1
  have hc := h.2.1 c List.mem_cons_self
  rw [List.dropWhile_cons_of_neg]
  rintro hs
  simp only [decide_eq_true_eq] at hs
  rcases hs with rfl | rfl <;> simp at hc

theorem DigitRun.toString_eq {ds : List Char} {n : Nat} (h : DigitRun ds n)
    (hlen : ds.length = 1) : (toString n).toList = ds := by
  have hpad := h.padNat_eq
  have hpos : 1 ≤ (Nat.toDigits 10 n).length := List.length_pos_iff.2 Nat.toDigits_ne_nil
  rw [hlen, padNat_toList, Nat.sub_eq_zero_of_le hpos] at hpad
  simpa using hpad

theorem positionText_of_signed {position : List Char} {p : Int}
    (hs : signedOfText? 8 (String.ofList position) = some p)
    (hd : (position.dropWhile fun c => decide (c = '+' ∨ c = '-')).length = 1)
    (hp : p ∈ allowedPositions) : PositionText (String.ofList position) p := by
  refine ⟨hp, ?_⟩
  obtain ⟨-, -, ds, n, hn, hcase⟩ := signedOfText?_eq_some.1 hs
  rw [String.toList_ofList] at hcase
  have hp' : p = 1 ∨ p = 2 ∨ p = 3 ∨ p = 4 ∨ p = 5 ∨ p = -1 := by
    simpa [allowedPositions] using hp
  -- after its sign the position is one digit, which spells its value
  have hlen : ds.length = 1 := by
    rcases hcase with ⟨rfl | rfl, -⟩ | ⟨rfl, -⟩
    · rwa [hn.dropWhile_sign] at hd
    all_goals rwa [List.dropWhile_cons_of_pos (by decide), hn.dropWhile_sign] at hd
  have hds := hn.toString_eq hlen
  rcases hcase with ⟨rfl | rfl, rfl⟩ | ⟨rfl, rfl⟩
  · left
    rw [← hds, String.ofList_toList]
    rfl
  · right
    refine ⟨by omega, ?_⟩
    rw [← hds, String.ofList_cons, String.ofList_toList]
    rfl
  · left
    obtain rfl : n = 1 := by omega
    rw [← hds]
    decide

theorem WeekdayNum.ofToken?_eq_some {t : String} {d : WeekdayNum} :
    WeekdayNum.ofToken? t = some d ↔ WeekdayNum.Spelled t d := by
  constructor
  · intro h
    unfold WeekdayNum.ofToken? at h
    dsimp only at h
    split at h
    · cases h
    simp only [Option.bind_eq_bind, Option.bind_eq_some_iff] at h
    obtain ⟨w, hw, h⟩ := h
    -- the token is its position followed by its last two letters, the weekday's code
    have hsplit : t = String.ofList (t.toList.take (t.toList.length - 2)) ++ w.code := by
      rw [← Weekday.ofCode?_eq_some.1 hw, ← String.ofList_append, List.take_append_drop,
        String.ofList_toList]
    split at h
    · rename_i hpos
      cases h
      simpa [WeekdayNum.Spelled, List.isEmpty_iff.1 hpos] using hsplit
    · split at h
      · cases h
      rename_i hpos hdig
      obtain ⟨p, hp, h⟩ := Option.bind_eq_some_iff.1 h
      split at h
      · rename_i hallowed
        cases h
        refine ⟨_, positionText_of_signed hp ?_ hallowed, hsplit⟩
        simp only [not_or, not_lt, ne_eq, not_not] at hdig
        exact hdig.1
      · cases h
  · intro h
    obtain ⟨w, _ | p⟩ := d
    · -- no position: the token is the code itself
      simp only [WeekdayNum.Spelled] at h
      subst h
      cases w <;> decide
    · obtain ⟨pos, ⟨hp, hpos⟩, rfl⟩ := h
      simp only [allowedPositions, List.mem_cons, List.mem_nil_iff, or_false] at hp
      rcases hp with rfl | rfl | rfl | rfl | rfl | rfl <;>
        rcases hpos with rfl | ⟨hlt, rfl⟩ <;> (try omega) <;> cases w <;> decide

/-! ## Values of the parts -/

/-- A comma list whose pieces, read around blanks, are read as `vals`. -/
def CommaText {γ : Type} (reads : String → γ → Prop) (v : String) (vals : List γ) : Prop :=
  ∃ toks, Pieces ',' v toks ∧ List.Forall₂ (fun tok x => reads (trim tok) x) toks vals

/-- A comma list read as a set: the ascending list of the values of its pieces. -/
def SetText {α : Type} [LT α] (reads : String → α → Prop) (v : String) (xs : List α) : Prop :=
  ∃ vals, CommaText reads v vals ∧ xs.Pairwise (· < ·) ∧ ∀ x, x ∈ xs ↔ x ∈ vals

@[simp] theorem Except.throw_ne_ok {ε α : Type} (e : ε) (a : α) :
    (throw e : Except ε α) ≠ .ok a := by
  intro h
  cases h

@[simp] theorem Except.throw_bind {ε α β : Type} (e : ε) (f : α → Except ε β) :
    ((throw e : Except ε α) >>= f) = throw e := rfl

theorem foldlM_comma_eq_ok_iff {ε β γ : Type} {f : β → String → Except ε β}
    (reads : String → γ → Prop) (g : β → γ → β)
    (hf : ∀ b raw b', f b raw = .ok b' ↔ ∃ c, reads (trim raw) c ∧ b' = g b c)
    {v : String} {b b' : β} :
    (splitAll ',' v).foldlM f b = .ok b' ↔
      ∃ vals, CommaText reads v vals ∧ b' = vals.foldl g b := by
  rw [foldlM_eq_ok_iff hf]
  constructor
  · rintro ⟨vals, hall, rfl⟩
    exact ⟨vals, ⟨_, pieces_splitAll ',' v, hall⟩, rfl⟩
  · rintro ⟨vals, ⟨toks, htoks, hall⟩, rfl⟩
    rw [pieces_iff.1 htoks] at hall
    exact ⟨vals, hall, rfl⟩

theorem readByDay_eq_ok {v : String} {ds : List WeekdayNum} :
    readByDay v = .ok ds ↔
      ∃ es, CommaText (fun t e => WeekdayNum.Spelled (asciiUpper t) e) v es ∧
        ds = es.eraseDups := by
  unfold readByDay
  rw [foldlM_comma_eq_ok_iff (fun t e => WeekdayNum.Spelled (asciiUpper t) e)
    (fun days e => if e ∈ days then days else days ++ [e])]
  · simp only [foldl_appendNew_nil]
  · intro days raw days'
    simp only [← WeekdayNum.ofToken?_eq_some]
    rcases WeekdayNum.ofToken? (asciiUpper (trim raw)) with _ | d
    · simp
    · simp [eq_comm]

theorem readNumberSet_eq_ok {key v : String} {lo hi : Nat} {xs : List Nat} :
    readNumberSet key v lo hi = .ok xs ↔
      SetText (fun t n => InRange lo hi n ∧ UnsignedText 32 t n) v xs := by
  unfold readNumberSet
  rw [foldlM_comma_eq_ok_iff (fun t n => InRange lo hi n ∧ UnsignedText 32 t n)
    (fun acc n => insertSorted n acc)]
  · exact exists_congr fun vals =>
      and_congr_right fun _ => eq_comm.trans foldl_insertSorted_eq_iff
  · intro acc raw acc'
    simp only [← unsignedOfText?_eq_some]
    rcases unsignedOfText? 32 (trim raw) with _ | n
    · simp
    · by_cases hn : lo ≤ n ∧ n ≤ hi
      · simp [hn, InRange, eq_comm]
      · simp [hn, InRange]

theorem readMonthDays_eq_ok {v : String} {xs : List Int} :
    readMonthDays v = .ok xs ↔ SetText (fun t d => IsMonthDay d ∧ SignedText 32 t d) v xs := by
  unfold readMonthDays
  rw [foldlM_comma_eq_ok_iff (fun t d => IsMonthDay d ∧ SignedText 32 t d)
    (fun acc d => insertSorted d acc)]
  · exact exists_congr fun vals =>
      and_congr_right fun _ => eq_comm.trans foldl_insertSorted_eq_iff
  · intro acc raw acc'
    simp only [← signedOfText?_eq_some]
    rcases signedOfText? 32 (trim raw) with _ | d
    · simp
    · by_cases hd : d ≠ 0 ∧ -31 ≤ d ∧ d ≤ 31
      · simp [hd, IsMonthDay, eq_comm]
      · simp [hd, IsMonthDay]

theorem readPositive_eq_ok {key v : String} {n : Nat} :
    readPositive key v = .ok n ↔ 1 ≤ n ∧ UnsignedText 32 v n := by
  unfold readPositive
  rw [← unsignedOfText?_eq_some]
  rcases unsignedOfText? 32 v with _ | m
  · simp
  · by_cases hm : m ≥ 1
    · simp only [hm, if_true, Except.pure_eq, Except.ok.injEq, Option.some.injEq]
      constructor
      · rintro rfl
        exact ⟨hm, rfl⟩
      · rintro ⟨-, rfl⟩
        rfl
    · simp only [hm, if_false, Option.some.injEq, Except.throw_ne_ok, false_iff, not_and]
      rintro h1 rfl
      exact hm h1

/-! ## Parts of a rule body -/

/-- What one part of a rule body sets. -/
inductive RulePart where
  | freq (f : Frequency)
  | interval (n : Nat)
  | count (n : Nat)
  | upTo (s : Stamp)
  | byDay (ds : List WeekdayNum)
  | byMonth (ns : List Nat)
  | byMonthDay (ds : List Int)
  | byHour (ns : List Nat)
  | byMinute (ns : List Nat)
  | bySecond (ns : List Nat)
  | weekStart (w : Weekday)

namespace RulePart

/-- The key of the part, in capitals. -/
def key : RulePart → String
  | freq _ => "FREQ"
  | interval _ => "INTERVAL"
  | count _ => "COUNT"
  | upTo _ => "UNTIL"
  | byDay _ => "BYDAY"
  | byMonth _ => "BYMONTH"
  | byMonthDay _ => "BYMONTHDAY"
  | byHour _ => "BYHOUR"
  | byMinute _ => "BYMINUTE"
  | bySecond _ => "BYSECOND"
  | weekStart _ => "WKST"

/-- The value of the part as written, blanks around it removed: codes in any case, numbers in
the range of their field, weekdays with their positions, a compact stamp. -/
def Spelled : RulePart → String → Prop
  | freq f, v => asciiUpper v = f.code
  | interval n, v => 1 ≤ n ∧ UnsignedText 32 v n
  | count n, v => 1 ≤ n ∧ UnsignedText 32 v n
  | upTo s, v => s.Compact ∧ asciiUpper (trim v) = s.render
  | byDay ds, v =>
    ∃ es, CommaText (fun t e => WeekdayNum.Spelled (asciiUpper t) e) v es ∧ ds = es.eraseDups
  | byMonth ns, v => SetText (fun t n => InRange 1 12 n ∧ UnsignedText 32 t n) v ns
  | byMonthDay ds, v => SetText (fun t d => IsMonthDay d ∧ SignedText 32 t d) v ds
  | byHour ns, v => SetText (fun t n => InRange 0 23 n ∧ UnsignedText 32 t n) v ns
  | byMinute ns, v => SetText (fun t n => InRange 0 59 n ∧ UnsignedText 32 t n) v ns
  | bySecond ns, v => SetText (fun t n => InRange 0 59 n ∧ UnsignedText 32 t n) v ns
  | weekStart w, v => asciiUpper v = w.code

/-- Sets the part's field of a rule. -/
def apply : RulePart → Rule → Rule
  | freq f, r => { r with frequency := f }
  | interval n, r => { r with interval := n }
  | count n, r => { r with bound := .count n }
  | upTo s, r => { r with bound := .upTo s }
  | byDay ds, r => { r with byDay := ds }
  | byMonth ns, r => { r with byMonth := ns }
  | byMonthDay ds, r => { r with byMonthDay := ds }
  | byHour ns, r => { r with byHour := ns }
  | byMinute ns, r => { r with byMinute := ns }
  | bySecond ns, r => { r with bySecond := ns }
  | weekStart w, r => { r with weekStart := w }

end RulePart

/-- The draft after reading a part: the frequency, the count and the end are kept aside, every
other part sets its field of the draft's rule. -/
def RuleDraft.record (d : RuleDraft) : RulePart → RuleDraft
  | .freq f => { d with frequency := some f }
  | .count n => { d with count := some n }
  | .upTo s => { d with upTo := some s }
  | p => { d with rule := p.apply d.rule }

theorem RuleDraft.setPart_eq_ok {d d' : RuleDraft} {key value : String} :
    d.setPart key value = .ok d' ↔
      ∃ p : RulePart, p.key = key ∧ p.Spelled value ∧ d' = d.record p := by
  constructor
  · intro h
    unfold RuleDraft.setPart at h
    dsimp only at h
    split at h
    · -- FREQ
      split at h
      · rename_i f hf
        cases h
        exact ⟨.freq f, rfl, Frequency.ofCode?_eq_some.1 hf, rfl⟩
      · cases h
    · -- INTERVAL
      obtain ⟨n, hn, h⟩ := Except.bind_eq_ok.1 h
      cases h
      exact ⟨.interval n, rfl, readPositive_eq_ok.1 hn, rfl⟩
    · -- COUNT
      obtain ⟨n, hn, h⟩ := Except.bind_eq_ok.1 h
      cases h
      exact ⟨.count n, rfl, readPositive_eq_ok.1 hn, rfl⟩
    · -- UNTIL
      split at h
      · rename_i s hs
        cases h
        exact ⟨.upTo s, rfl, Stamp.ofText?_eq_some.1 hs, rfl⟩
      · cases h
    · -- BYDAY
      obtain ⟨ds, hds, h⟩ := Except.bind_eq_ok.1 h
      cases h
      exact ⟨.byDay ds, rfl, readByDay_eq_ok.1 hds, rfl⟩
    · -- BYMONTH
      obtain ⟨ns, hns, h⟩ := Except.bind_eq_ok.1 h
      cases h
      exact ⟨.byMonth ns, rfl, readNumberSet_eq_ok.1 hns, rfl⟩
    · -- BYMONTHDAY
      obtain ⟨ds, hds, h⟩ := Except.bind_eq_ok.1 h
      cases h
      exact ⟨.byMonthDay ds, rfl, readMonthDays_eq_ok.1 hds, rfl⟩
    · -- BYHOUR
      obtain ⟨ns, hns, h⟩ := Except.bind_eq_ok.1 h
      cases h
      exact ⟨.byHour ns, rfl, readNumberSet_eq_ok.1 hns, rfl⟩
    · -- BYMINUTE
      obtain ⟨ns, hns, h⟩ := Except.bind_eq_ok.1 h
      cases h
      exact ⟨.byMinute ns, rfl, readNumberSet_eq_ok.1 hns, rfl⟩
    · -- BYSECOND
      obtain ⟨ns, hns, h⟩ := Except.bind_eq_ok.1 h
      cases h
      exact ⟨.bySecond ns, rfl, readNumberSet_eq_ok.1 hns, rfl⟩
    · -- WKST
      split at h
      · rename_i w hw
        cases h
        exact ⟨.weekStart w, rfl, Weekday.ofCode?_eq_some.1 hw, rfl⟩
      · cases h
    · -- an unknown key
      cases h
  · rintro ⟨p, rfl, hp, rfl⟩
    cases p with
    | freq f => simp [RuleDraft.setPart, RulePart.key, Frequency.ofCode?_eq_some.2 hp,
        RuleDraft.record]
    | interval n => simp [RuleDraft.setPart, RulePart.key, readPositive_eq_ok.2 hp,
        RuleDraft.record, RulePart.apply]
    | count n => simp [RuleDraft.setPart, RulePart.key, readPositive_eq_ok.2 hp,
        RuleDraft.record]
    | upTo s => simp [RuleDraft.setPart, RulePart.key, Stamp.ofText?_eq_some.2 hp,
        RuleDraft.record]
    | byDay ds => simp [RuleDraft.setPart, RulePart.key, readByDay_eq_ok.2 hp,
        RuleDraft.record, RulePart.apply]
    | byMonth ns => simp [RuleDraft.setPart, RulePart.key, readNumberSet_eq_ok.2 hp,
        RuleDraft.record, RulePart.apply]
    | byMonthDay ds => simp [RuleDraft.setPart, RulePart.key, readMonthDays_eq_ok.2 hp,
        RuleDraft.record, RulePart.apply]
    | byHour ns => simp [RuleDraft.setPart, RulePart.key, readNumberSet_eq_ok.2 hp,
        RuleDraft.record, RulePart.apply]
    | byMinute ns => simp [RuleDraft.setPart, RulePart.key, readNumberSet_eq_ok.2 hp,
        RuleDraft.record, RulePart.apply]
    | bySecond ns => simp [RuleDraft.setPart, RulePart.key, readNumberSet_eq_ok.2 hp,
        RuleDraft.record, RulePart.apply]
    | weekStart w => simp [RuleDraft.setPart, RulePart.key, Weekday.ofCode?_eq_some.2 hp,
        RuleDraft.record, RulePart.apply]

/-! ## Characters kept by trimming and case -/

theorem mem_dropBlanks {c : Char} (hc : isBlank c = false) :
    ∀ {cs : List Char}, c ∈ cs → c ∈ dropBlanks cs
  | [], h => h
  | d :: cs, h => by
    unfold dropBlanks
    split
    · rcases List.mem_cons.1 h with rfl | h
      · simp_all
      · exact mem_dropBlanks hc h
    · exact h

theorem mem_trim {c : Char} {s : String} (hc : isBlank c = false) (h : c ∈ s.toList) :
    c ∈ (trim s).toList := by
  simp only [trim, String.toList_ofList, List.mem_reverse]
  exact mem_dropBlanks hc (List.mem_reverse.2 (mem_dropBlanks hc h))

theorem mem_asciiUpper {c : Char} {s : String} (hc : upperChar c = c) (h : c ∈ s.toList) :
    c ∈ (asciiUpper s).toList := by
  rw [toList_asciiUpper]
  exact List.mem_map.2 ⟨c, h, hc⟩

theorem not_mem_of_upper_trim {c : Char} {s : String} (hb : isBlank c = false)
    (hu : upperChar c = c) (h : c ∉ (asciiUpper (trim s)).toList) : c ∉ s.toList :=
  fun hc => h (mem_asciiUpper hu (mem_trim hb hc))

theorem eq_of_splitOnce {c : Char} {s k v : String} (h : splitOnce c s = some (k, v)) :
    s = k ++ String.singleton c ++ v := by
  unfold splitOnce at h
  dsimp only at h
  split at h
  · rename_i i hi
    cases h
    obtain ⟨hlt, hci, -⟩ := List.findIdx?_eq_some_iff_getElem.1 hi
    have hc : s.toList[i] = c := by simpa using hci
    rw [← String.toList_inj]
    simp only [String.toList_append, String.toList_ofList, String.toList_singleton]
    rw [List.append_assoc, List.singleton_append, ← hc, ← List.drop_eq_getElem_cons hlt,
      List.take_append_drop]
  · cases h

/-! ## Reading one part -/

/-- A part `KEY=VALUE` of a body, read around blanks: the key in any case and the value spelled
as the part requires. -/
def PartText (raw : String) (p : RulePart) : Prop :=
  ∃ k v, trim raw = k ++ "=" ++ v ∧ asciiUpper (trim k) = p.key ∧ p.Spelled (trim v)

theorem RulePart.isWord_key (p : RulePart) : IsWord p.key := by
  cases p <;> simp only [RulePart.key] <;> (unfold IsWord IsWordChar; simp)

theorem equals_not_wordChar : ¬ IsWordChar '=' := by
  unfold IsWordChar
  decide

theorem PartText.not_blank {raw : String} {p : RulePart} (h : PartText raw p) :
    (trim raw).isEmpty = false := by
  obtain ⟨k, v, hraw, -⟩ := h
  rw [hraw]
  exact String.isEmpty_eq_false_iff.2 fun h => by simpa using congrArg String.toList h

theorem RuleDraft.addPart_eq_ok {d d' : RuleDraft} {raw : String} :
    d.addPart raw = .ok d' ↔
      (trim raw).isEmpty ∧ d' = d ∨
        ∃ p, PartText raw p ∧ p.key ∉ d.seen ∧ d' = { d with seen := p.key :: d.seen }.record p := by
  constructor
  · intro h
    unfold RuleDraft.addPart at h
    dsimp only at h
    split at h
    · rename_i hblank
      cases h
      exact Or.inl ⟨hblank, rfl⟩
    · split at h
      · rename_i k v hkv
        split at h
        · cases h
        · rename_i hseen
          obtain ⟨p, hkey, hp, rfl⟩ := RuleDraft.setPart_eq_ok.1 h
          -- named first: matching `String.singleton ?c` against the literal "=" is slow
          have hsplit := eq_of_splitOnce hkv
          refine Or.inr ⟨p, ⟨k, v, hsplit, hkey.symm, hp⟩, by rwa [hkey], ?_⟩
          rw [hkey]
      · cases h
  · rintro (⟨hblank, rfl⟩ | ⟨p, hpart, hseen, rfl⟩)
    · simp [RuleDraft.addPart, hblank]
    · obtain ⟨k, v, hraw, hkey, hp⟩ := hpart
      -- the key holds no `=`, so the first `=` is the one after it
      have hk : '=' ∉ k.toList :=
        not_mem_of_upper_trim (by decide) (by decide) (hkey ▸ p.isWord_key.not_mem equals_not_wordChar)
      have hsplit : splitOnce '=' (trim raw) = some (k, v) := hraw ▸ splitOnce_append hk
      have hne := PartText.not_blank ⟨k, v, hraw, hkey, hp⟩
      simp only [RuleDraft.addPart, hne, hsplit, hkey, hseen, Bool.false_eq_true, ↓reduceIte]
      exact RuleDraft.setPart_eq_ok.2 ⟨p, rfl, hp, rfl⟩

/-! ## Reading the parts of a body -/

/-- The draft after reading parts in order, each under its key. -/
def RuleDraft.recordAll (d : RuleDraft) (ps : List RulePart) : RuleDraft :=
  ps.foldl (fun d p => { d with seen := p.key :: d.seen }.record p) d

theorem RuleDraft.record_seen (d : RuleDraft) (p : RulePart) : (d.record p).seen = d.seen := by
  cases p <;> rfl

theorem RuleDraft.foldlM_addPart_eq_ok : ∀ {raws : List String} {d d' : RuleDraft},
    raws.foldlM RuleDraft.addPart d = .ok d' ↔
      ∃ ps, List.Forall₂ PartText (raws.filter fun raw => !(trim raw).isEmpty) ps ∧
        (ps.map RulePart.key).Nodup ∧ (∀ p ∈ ps, p.key ∉ d.seen) ∧ d' = d.recordAll ps
  | [], d, d' => by
    simp only [List.foldlM_nil, Except.pure_eq, Except.ok.injEq, List.filter_nil,
      List.forall₂_nil_left_iff, exists_eq_left, List.map_nil, List.nodup_nil,
      List.not_mem_nil, false_implies, implies_true, true_and]
    exact eq_comm
  | raw :: raws, d, d' => by
    rw [List.foldlM_cons, Except.bind_eq_ok]
    by_cases hb : (trim raw).isEmpty
    · -- a blank piece changes nothing
      have hstep : ∀ d₁, d.addPart raw = .ok d₁ ↔ d₁ = d := fun d₁ => by
        rw [RuleDraft.addPart_eq_ok]
        constructor
        · rintro (⟨-, rfl⟩ | ⟨p, hp, -⟩)
          · rfl
          · simp [hp.not_blank] at hb
        · rintro rfl
          exact Or.inl ⟨hb, rfl⟩
      simp only [hstep, exists_eq_left, List.filter_cons, hb, Bool.not_true,
        Bool.false_eq_true, ↓reduceIte]
      exact RuleDraft.foldlM_addPart_eq_ok
    · -- a part is read under a new key
      have hfilter : (raw :: raws).filter (fun raw => !(trim raw).isEmpty) =
          raw :: raws.filter fun raw => !(trim raw).isEmpty := by
        simp [hb]
      rw [hfilter]
      constructor
      · rintro ⟨d₁, h₁, hrest⟩
        rcases RuleDraft.addPart_eq_ok.1 h₁ with ⟨hb', -⟩ | ⟨p, hp, hnew, rfl⟩
        · exact absurd hb' hb
        obtain ⟨ps, hall, hnd, hout, rfl⟩ := RuleDraft.foldlM_addPart_eq_ok.1 hrest
        simp only [RuleDraft.record_seen, List.mem_cons, not_or] at hout
        refine ⟨p :: ps, List.Forall₂.cons hp hall, ?_, ?_, rfl⟩
        · refine List.nodup_cons.2 ⟨fun hmem => ?_, hnd⟩
          obtain ⟨q, hq, hkey⟩ := List.mem_map.1 hmem
          exact (hout q hq).1 hkey
        · intro q hq
          rcases List.mem_cons.1 hq with rfl | hq
          · exact hnew
          · exact (hout q hq).2
      · rintro ⟨_ | ⟨p, ps⟩, hall, hnd, hout, rfl⟩
        · cases hall
        obtain ⟨hp, hall⟩ := List.forall₂_cons.1 hall
        obtain ⟨hpnew, hnd⟩ := List.nodup_cons.1 hnd
        refine ⟨_, RuleDraft.addPart_eq_ok.2
          (Or.inr ⟨p, hp, hout p List.mem_cons_self, rfl⟩), ?_⟩
        refine RuleDraft.foldlM_addPart_eq_ok.2 ⟨ps, hall, hnd, fun q hq => ?_, rfl⟩
        simp only [RuleDraft.record_seen, List.mem_cons, not_or]
        exact ⟨fun h => hpnew (h ▸ List.mem_map_of_mem hq),
          hout q (List.mem_cons_of_mem _ hq)⟩

/-! ## The rule that parts denote -/

namespace RulePart

/-- The rule that parts denote: the daily rule, every day and forever, with each part's field
set in turn. -/
def denote (ps : List RulePart) : Rule :=
  ps.foldl (fun r p => p.apply r) (Rule.every .daily)

/-- Parts that set each field of the rule at most once: their keys differ, and `COUNT` and
`UNTIL`, which both set the bound, are not both among them. -/
def Distinct (ps : List RulePart) : Prop :=
  (ps.map key).Nodup ∧ ¬ ("COUNT" ∈ ps.map key ∧ "UNTIL" ∈ ps.map key)

theorem denote_append_singleton (ps : List RulePart) (p : RulePart) :
    denote (ps ++ [p]) = p.apply (denote ps) := by
  simp [denote, List.foldl_append]

theorem apply_apply (p : RulePart) (r : Rule) : p.apply (p.apply r) = p.apply r := by
  cases p <;> rfl

theorem apply_comm {p q : RulePart} (hkey : p.key ≠ q.key)
    (hbound : ¬ (p.key = "COUNT" ∧ q.key = "UNTIL" ∨ p.key = "UNTIL" ∧ q.key = "COUNT"))
    (r : Rule) : p.apply (q.apply r) = q.apply (p.apply r) := by
  cases p <;> cases q <;> first | rfl | simp [key] at hkey hbound

theorem Distinct.of_append {ps qs : List RulePart} (h : Distinct (ps ++ qs)) : Distinct ps := by
  refine ⟨(List.nodup_append.1 (by simpa using h.1)).1, fun hboth => h.2 ?_⟩
  simp only [List.map_append, List.mem_append]
  exact ⟨Or.inl hboth.1, Or.inl hboth.2⟩

theorem apply_denote {ps : List RulePart} (hd : Distinct ps) {q : RulePart} (hq : q ∈ ps) :
    q.apply (denote ps) = denote ps := by
  induction ps using List.reverseRecOn with
  | nil => cases hq
  | append_singleton ps p ih =>
    rw [denote_append_singleton]
    rcases List.mem_append.1 hq with hq | hq
    · have hkeys : q.key ∈ ps.map key := List.mem_map_of_mem hq
      have hne : q.key ≠ p.key := by
        intro h
        have hnd := hd.1
        simp only [List.map_append, List.map_cons, List.map_nil] at hnd
        exact (List.nodup_append.1 hnd).2.2 _ hkeys _ List.mem_cons_self h
      have hbound : ¬ (q.key = "COUNT" ∧ p.key = "UNTIL" ∨ q.key = "UNTIL" ∧ p.key = "COUNT") := by
        rintro (⟨hc, hu⟩ | ⟨hu, hc⟩) <;> apply hd.2 <;>
          simp only [List.map_append, List.mem_append, List.map_cons, List.map_nil,
            List.mem_singleton] <;> grind
      rw [apply_comm hne hbound, ih hd.of_append hq]
    · obtain rfl := List.mem_singleton.1 hq
      exact apply_apply q _

theorem denote_bound {ps : List RulePart}
    (h : ∀ p ∈ ps, p.key ≠ "COUNT" ∧ p.key ≠ "UNTIL") : (denote ps).bound = .unbounded := by
  suffices ∀ r : Rule, (ps.foldl (fun r p => p.apply r) r).bound = r.bound from this _
  induction ps with
  | nil => intro r; rfl
  | cons p ps ih =>
    intro r
    rw [List.foldl_cons, ih fun q hq => h q (List.mem_cons_of_mem _ hq)]
    -- only `COUNT` and `UNTIL` set the bound
    have hp := h p List.mem_cons_self
    cases p with
    | count n => exact absurd rfl hp.1
    | upTo s => exact absurd rfl hp.2
    | _ => rfl

theorem key_eq_freq {p : RulePart} : p.key = "FREQ" ↔ ∃ f, p = freq f := by
  cases p <;> simp [key]

theorem key_eq_count {p : RulePart} : p.key = "COUNT" ↔ ∃ n, p = count n := by
  cases p <;> simp [key]

theorem key_eq_upTo {p : RulePart} : p.key = "UNTIL" ↔ ∃ s, p = upTo s := by
  cases p <;> simp [key]

theorem mem_keys {α : Type} {C : α → RulePart} {k : String}
    (hC : ∀ p : RulePart, p.key = k ↔ ∃ x, p = C x) {ps : List RulePart} :
    k ∈ ps.map key ↔ ∃ x, C x ∈ ps := by
  simp only [List.mem_map, hC]
  constructor
  · rintro ⟨_, hp, x, rfl⟩
    exact ⟨x, hp⟩
  · rintro ⟨x, hx⟩
    exact ⟨_, hx, x, rfl⟩

end RulePart

/-! ## The draft after reading parts -/

/-- What a draft holds after reading parts from the start: the rule they denote, with its
frequency and bound set aside, and the parts that set those. -/
structure RuleDraft.Holds (d : RuleDraft) (ps : List RulePart) : Prop where
  rule : d.rule = { RulePart.denote ps with frequency := .daily, bound := .unbounded }
  frequency : ∀ f, d.frequency = some f ↔ RulePart.freq f ∈ ps
  count : ∀ n, d.count = some n ↔ RulePart.count n ∈ ps
  upTo : ∀ s, d.upTo = some s ↔ RulePart.upTo s ∈ ps

theorem RuleDraft.holds_start :
    (⟨[], none, none, none, Rule.every .daily⟩ : RuleDraft).Holds [] :=
  ⟨rfl, by simp, by simp, by simp⟩

theorem RuleDraft.Holds.record {d : RuleDraft} {ps : List RulePart} (hd : d.Holds ps)
    {p : RulePart} (hp : p.key ∉ ps.map RulePart.key) (K : List String) :
    ({ d with seen := K }.record p).Holds (ps ++ [p]) := by
  -- no earlier part is of the kind of `p`, since none has its key
  have hnew : ∀ q ∈ ps, q.key ≠ p.key := fun q hq h => hp (h ▸ List.mem_map_of_mem hq)
  have hden := RulePart.denote_append_singleton ps p
  cases p
  case freq f =>
    refine ⟨by rw [hden]; exact hd.rule, fun f' => ?_, fun n => ?_, fun s => ?_⟩
    · have : RulePart.freq f' ∉ ps := fun h => hnew _ h rfl
      simp [RuleDraft.record, this, eq_comm]
    · simpa [RuleDraft.record] using hd.count n
    · simpa [RuleDraft.record] using hd.upTo s
  case count n =>
    refine ⟨by rw [hden]; exact hd.rule, fun f => ?_, fun n' => ?_, fun s => ?_⟩
    · simpa [RuleDraft.record] using hd.frequency f
    · have : RulePart.count n' ∉ ps := fun h => hnew _ h rfl
      simp [RuleDraft.record, this, eq_comm]
    · simpa [RuleDraft.record] using hd.upTo s
  case upTo s =>
    refine ⟨by rw [hden]; exact hd.rule, fun f => ?_, fun n => ?_, fun s' => ?_⟩
    · simpa [RuleDraft.record] using hd.frequency f
    · simpa [RuleDraft.record] using hd.count n
    · have : RulePart.upTo s' ∉ ps := fun h => hnew _ h rfl
      simp [RuleDraft.record, this, eq_comm]
  all_goals
    -- every other part sets its field of the draft's rule
    refine ⟨by simp only [hden, RuleDraft.record, hd.rule]; rfl, fun f => ?_, fun n => ?_,
      fun s => ?_⟩
    · simpa [RuleDraft.record] using hd.frequency f
    · simpa [RuleDraft.record] using hd.count n
    · simpa [RuleDraft.record] using hd.upTo s

theorem RuleDraft.Holds.recordAll {d : RuleDraft} {qs : List RulePart} (hd : d.Holds qs)
    {ps : List RulePart} (hnd : ((qs ++ ps).map RulePart.key).Nodup) :
    (d.recordAll ps).Holds (qs ++ ps) := by
  induction ps generalizing d qs with
  | nil => simpa [RuleDraft.recordAll] using hd
  | cons p ps ih =>
    have hp : p.key ∉ qs.map RulePart.key := by
      intro hmem
      simp only [List.map_append, List.map_cons] at hnd
      exact (List.nodup_append.1 hnd).2.2 _ hmem _ List.mem_cons_self rfl
    have := ih (hd.record hp (p.key :: d.seen)) (by simpa using hnd)
    simpa [RuleDraft.recordAll] using this

theorem RuleDraft.Holds.close {d : RuleDraft} {ps : List RulePart} (hd : d.Holds ps)
    (hdist : RulePart.Distinct ps) {f : Frequency} (hf : d.frequency = some f) {b : Bound}
    (hb : (RulePart.denote ps).bound = b) :
    { d.rule with frequency := f, bound := b } = RulePart.denote ps := by
  have hfreq : (RulePart.denote ps).frequency = f :=
    (congrArg Rule.frequency (RulePart.apply_denote hdist ((hd.frequency f).1 hf))).symm
  rw [hd.rule, ← hfreq, ← hb]

/-! ## Rule bodies -/

/-- A rule body: pieces divided by `;`, the nonblank ones each a part of the rule, each field
set at most once, `FREQ` among them, and the rule they denote fitting its frequency. -/
def RuleBody (body : String) (r : Rule) : Prop :=
  ∃ raws ps, Pieces ';' body raws ∧
    List.Forall₂ PartText (raws.filter fun raw => !(trim raw).isEmpty) ps ∧
    RulePart.Distinct ps ∧ "FREQ" ∈ ps.map RulePart.key ∧
    r = RulePart.denote ps ∧ r.FitsFrequency

theorem Rule.ofBody_eq_ok_of_parts {body : String} {ps : List RulePart}
    (hfold : (splitAll ';' body).foldlM RuleDraft.addPart
      ⟨[], none, none, none, Rule.every .daily⟩ =
        .ok ((⟨[], none, none, none, Rule.every .daily⟩ : RuleDraft).recordAll ps))
    (hnd : (ps.map RulePart.key).Nodup) {r : Rule} :
    Rule.ofBody body = .ok r ↔ RulePart.Distinct ps ∧ "FREQ" ∈ ps.map RulePart.key ∧
      r = RulePart.denote ps ∧ r.FitsFrequency := by
  have hH := RuleDraft.holds_start.recordAll
    (by simpa using hnd : (List.map RulePart.key (([] : List RulePart) ++ ps)).Nodup)
  rw [List.nil_append] at hH
  generalize (⟨[], none, none, none, Rule.every .daily⟩ : RuleDraft).recordAll ps = D at hfold hH
  unfold Rule.ofBody
  rw [hfold, Except.ok_bind]
  have hfreq : (∃ f, D.frequency = some f) ↔ "FREQ" ∈ ps.map RulePart.key := by
    simp only [hH.frequency, RulePart.mem_keys fun _ => RulePart.key_eq_freq]
  have hcount : (∃ n, D.count = some n) ↔ "COUNT" ∈ ps.map RulePart.key := by
    simp only [hH.count, RulePart.mem_keys fun _ => RulePart.key_eq_count]
  have huntil : (∃ s, D.upTo = some s) ↔ "UNTIL" ∈ ps.map RulePart.key := by
    simp only [hH.upTo, RulePart.mem_keys fun _ => RulePart.key_eq_upTo]
  rcases hf : D.frequency with _ | f
  · -- without a frequency the body is refused, whatever its bound
    have hnone : "FREQ" ∉ ps.map RulePart.key := fun h => by simpa [hf] using hfreq.2 h
    rcases D.count with _ | n <;> rcases D.upTo with _ | s <;> simp [hnone]
  have hmem : "FREQ" ∈ ps.map RulePart.key := hfreq.1 ⟨f, hf⟩
  -- once the bound is known, the rule closed is the rule denoted
  have hclose : ∀ b, (RulePart.denote ps).bound = b → RulePart.Distinct ps →
      (Rule.checkFrequency { D.rule with frequency := f, bound := b } = .ok r ↔
        RulePart.Distinct ps ∧ "FREQ" ∈ ps.map RulePart.key ∧
          r = RulePart.denote ps ∧ r.FitsFrequency) := by
    intro b hb hdist
    rw [Rule.checkFrequency_eq_ok, hH.close hdist hf hb]
    constructor
    · rintro ⟨rfl, hfits⟩
      exact ⟨hdist, hmem, rfl, hfits⟩
    · rintro ⟨-, -, rfl, hfits⟩
      exact ⟨rfl, hfits⟩
  rcases hc : D.count with _ | n <;> rcases hu : D.upTo with _ | s
  · -- neither `COUNT` nor `UNTIL`: the rule never ends
    have hno : ∀ p ∈ ps, p.key ≠ "COUNT" ∧ p.key ≠ "UNTIL" := fun p hp =>
      ⟨fun h => by simpa [hc] using hcount.2 (h ▸ List.mem_map_of_mem hp),
        fun h => by simpa [hu] using huntil.2 (h ▸ List.mem_map_of_mem hp)⟩
    have hdist : RulePart.Distinct ps := ⟨hnd, fun h => by simpa [hc] using hcount.2 h.1⟩
    simpa using hclose _ (RulePart.denote_bound hno) hdist
  · -- only `UNTIL`
    have hdist : RulePart.Distinct ps := ⟨hnd, fun h => by simpa [hc] using hcount.2 h.1⟩
    have hb : (RulePart.denote ps).bound = .upTo s :=
      (congrArg Rule.bound (RulePart.apply_denote hdist ((hH.upTo s).1 hu))).symm
    simpa using hclose _ hb hdist
  · -- only `COUNT`
    have hdist : RulePart.Distinct ps := ⟨hnd, fun h => by simpa [hu] using huntil.2 h.2⟩
    have hb : (RulePart.denote ps).bound = .count n :=
      (congrArg Rule.bound (RulePart.apply_denote hdist ((hH.count n).1 hc))).symm
    simpa using hclose _ hb hdist
  · -- both `COUNT` and `UNTIL`: refused
    simp only [Except.throw_bind, Except.throw_ne_ok, false_iff, not_and]
    exact fun hdist => absurd ⟨hcount.1 ⟨n, hc⟩, huntil.1 ⟨s, hu⟩⟩ hdist.2

theorem Rule.ofBody_eq_ok_iff {body : String} {r : Rule} :
    Rule.ofBody body = .ok r ↔ RuleBody body r := by
  constructor
  · intro h
    have hfold := h
    unfold Rule.ofBody at hfold
    obtain ⟨d, hd, -⟩ := Except.bind_eq_ok.1 hfold
    obtain ⟨ps, hall, hnd, -, rfl⟩ := RuleDraft.foldlM_addPart_eq_ok.1 hd
    obtain ⟨hdist, hmem, rfl, hfits⟩ := (Rule.ofBody_eq_ok_of_parts hd hnd).1 h
    exact ⟨_, ps, pieces_splitAll ';' body, hall, hdist, hmem, rfl, hfits⟩
  · rintro ⟨raws, ps, hraws, hall, hdist, hmem, rfl, hfits⟩
    rw [pieces_iff.1 hraws] at hall
    have hfold : (splitAll ';' body).foldlM RuleDraft.addPart
        ⟨[], none, none, none, Rule.every .daily⟩ =
          .ok ((⟨[], none, none, none, Rule.every .daily⟩ : RuleDraft).recordAll ps) :=
      RuleDraft.foldlM_addPart_eq_ok.2 ⟨ps, hall, hdist.1, fun _ _ => List.not_mem_nil, rfl⟩
    exact (Rule.ofBody_eq_ok_of_parts hfold hdist.1).2 ⟨hdist, hmem, rfl, hfits⟩

/-! ## No colon in a body -/

theorem exists_of_forall₂ {α β : Type} {R : α → β → Prop} {l₁ : List α} {l₂ : List β}
    (h : List.Forall₂ R l₁ l₂) : ∀ a ∈ l₁, ∃ b, R a b :=
  ((List.forall₂_and_left _ _).1 (h.imp fun _ b hab => ⟨⟨b, hab⟩, hab⟩)).1

theorem colon_not_wordChar : ¬ IsWordChar ':' := by
  unfold IsWordChar
  decide

theorem DigitRun.isWordChar {ds : List Char} {n : Nat} (h : DigitRun ds n) {c : Char}
    (hc : c ∈ ds) : IsWordChar c :=
  Or.inl ((isDigit_iff c).1 (by rw [isDigit_eq]; exact h.2.1 c hc))

theorem UnsignedText.isWord {bits : Nat} {t : String} {n : Nat} (h : UnsignedText bits t n) :
    IsWord t := by
  obtain ⟨-, ds, hs, hds⟩ := h
  intro c hc
  rcases hs with hs | hs <;> rw [hs] at hc
  · exact hds.isWordChar hc
  · rcases List.mem_cons.1 hc with rfl | hc
    · unfold IsWordChar
      decide
    · exact hds.isWordChar hc

theorem SignedText.isWord {bits : Nat} {t : String} {i : Int} (h : SignedText bits t i) :
    IsWord t := by
  obtain ⟨-, -, ds, n, hds, ⟨hs | hs, -⟩ | ⟨hs, -⟩⟩ := h <;> intro c hc <;> rw [hs] at hc
  · exact hds.isWordChar hc
  all_goals
    rcases List.mem_cons.1 hc with rfl | hc
    · unfold IsWordChar
      decide
    · exact hds.isWordChar hc

theorem WeekdayNum.Spelled.isWord {t : String} {e : WeekdayNum} (h : e.Spelled t) : IsWord t := by
  unfold WeekdayNum.Spelled at h
  split at h
  · rw [h]
    exact Weekday.isWord_code _
  · obtain ⟨pos, ⟨-, hpos⟩, rfl⟩ := h
    refine IsWord.append ?_ (Weekday.isWord_code _)
    rcases hpos with rfl | ⟨-, rfl⟩
    · exact isWord_intString _
    · exact IsWord.append (fun c hc => by simp at hc; subst hc; simp [IsWordChar])
        (isWord_intString _)

theorem colon_not_mem_intercalate {sep : Char} (hsep : sep ≠ ':') {items : List String}
    (h : ∀ it ∈ items, ':' ∉ it.toList) :
    ':' ∉ ((String.singleton sep).intercalate items).toList := by
  have hpieces : ∀ it ∈ items, ∀ c ∈ it.toList, c ≠ ':' := fun it hit c hc hcolon =>
    h it hit (hcolon ▸ hc)
  have hsep' : ∀ c ∈ (String.singleton sep).toList, c ≠ ':' := by
    intro c hc
    simp only [String.toList_singleton, List.mem_singleton] at hc
    exact hc ▸ hsep
  exact fun hc => forall_mem_intercalate (P := fun c => c ≠ ':') hsep' hpieces _ hc rfl

theorem CommaText.colon_not_mem {γ : Type} {reads : String → γ → Prop} {v : String}
    {vals : List γ} (h : CommaText reads v vals) (hr : ∀ t x, reads (trim t) x → ':' ∉ t.toList) :
    ':' ∉ v.toList := by
  obtain ⟨toks, ⟨-, -, rfl⟩, hall⟩ := h
  refine colon_not_mem_intercalate (by decide) fun tok htok => ?_
  obtain ⟨x, hx⟩ := exists_of_forall₂ hall tok htok
  exact hr tok x hx

theorem colon_not_mem_trim {t : String} (h : ':' ∉ (trim t).toList) : ':' ∉ t.toList :=
  fun hc => h (mem_trim (by decide) hc)

theorem colon_not_mem_of_upper {t : String} (h : IsWord (asciiUpper t)) : ':' ∉ t.toList :=
  fun hc => h.not_mem colon_not_wordChar (mem_asciiUpper (by decide) hc)

theorem RulePart.Spelled.colon_not_mem {p : RulePart} {v : String} (h : p.Spelled v) :
    ':' ∉ v.toList := by
  cases p
  case freq f => exact colon_not_mem_of_upper (h ▸ Frequency.isWord_code f)
  case interval n => exact h.2.isWord.not_mem colon_not_wordChar
  case count n => exact h.2.isWord.not_mem colon_not_wordChar
  case upTo s => exact colon_not_mem_trim (colon_not_mem_of_upper (h.2 ▸ Stamp.isWord_render s))
  case byDay ds =>
    obtain ⟨es, hes, -⟩ := h
    exact hes.colon_not_mem fun t e he => colon_not_mem_trim (colon_not_mem_of_upper he.isWord)
  case weekStart w => exact colon_not_mem_of_upper (h ▸ Weekday.isWord_code w)
  all_goals
    obtain ⟨vals, hvals, -⟩ := h
    exact hvals.colon_not_mem fun t x hx =>
      colon_not_mem_trim (hx.2.isWord.not_mem colon_not_wordChar)

theorem PartText.colon_not_mem {raw : String} {p : RulePart} (h : PartText raw p) :
    ':' ∉ raw.toList := by
  obtain ⟨k, v, hraw, hkey, hp⟩ := h
  refine colon_not_mem_trim ?_
  rw [hraw]
  simp only [String.toList_append, List.mem_append, not_or]
  refine ⟨⟨?_, by decide⟩, colon_not_mem_trim hp.colon_not_mem⟩
  exact colon_not_mem_trim (colon_not_mem_of_upper (hkey ▸ p.isWord_key))

theorem RuleBody.colon_not_mem {body : String} {r : Rule} (h : RuleBody body r) :
    ':' ∉ body.toList := by
  obtain ⟨raws, ps, ⟨-, -, rfl⟩, hall, -⟩ := h
  refine colon_not_mem_intercalate (by decide) fun raw hraw hc => ?_
  by_cases hb : (trim raw).isEmpty
  · -- a blank piece: trimming would keep its colon, yet it leaves nothing
    have hmem := mem_trim (by decide) hc
    simp only [String.isEmpty_iff] at hb
    simp [hb] at hmem
  · obtain ⟨p, hp⟩ := exists_of_forall₂ hall raw (List.mem_filter.2 ⟨hraw, by simpa using hb⟩)
    exact hp.colon_not_mem hc

/-! ## Rule text -/

theorem eq_of_splitProperty {line name value : String} {params : List String}
    (h : splitProperty line = some (name, params, value)) :
    ∃ head v first, splitOnce ':' line = some (head, v) ∧ splitAll ';' head = first :: params ∧
      name = asciiUpper (trim first) ∧ value = trim v := by
  unfold splitProperty at h
  simp only [Option.bind_eq_bind, Option.bind_eq_some_iff] at h
  obtain ⟨⟨head, v⟩, hsplit, h⟩ := h
  split_ifs at h with hcond
  · simp at h
  · split at h
    · rename_i first rest hpieces
      split_ifs at h
      simp only [Option.some.injEq, Prod.mk.injEq] at h
      obtain ⟨rfl, rfl, rfl⟩ := h
      exact ⟨head, v, first, hsplit, hpieces, rfl, rfl⟩
    · cases h

theorem splitProperty_ruleName {name body : String}
    (hname : asciiUpper (trim name) = "RRULE" ∨ asciiUpper (trim name) = "EXRULE") :
    splitProperty (name ++ ":" ++ body) = some (asciiUpper (trim name), [], trim body) := by
  -- the name is letters and blanks: no colon, equals sign or semicolon
  have hword : IsWord (asciiUpper (trim name)) := by
    rcases hname with h | h <;> rw [h] <;> (unfold IsWord IsWordChar; simp)
  have hnot : ∀ c, ¬ IsWordChar c → isBlank c = false → upperChar c = c → c ∉ name.toList :=
    fun c hc hb hu => not_mem_of_upper_trim hb hu (hword.not_mem hc)
  have hsplit : splitOnce ':' (name ++ ":" ++ body) = some (name, body) :=
    splitOnce_append (hnot ':' colon_not_wordChar (by decide) (by decide))
  have hsemi : ';' ∉ name.toList := hnot ';' (by unfold IsWordChar; decide) (by decide) (by decide)
  have hpieces : splitAll ';' name = [name] := by
    simpa using @splitAll_intercalate ';' [name] (by simp) (by simpa using hsemi)
  have heq : '=' ∉ name.toList := hnot '=' equals_not_wordChar (by decide) (by decide)
  unfold splitProperty
  simp [hsplit, hpieces, heq, hword.not_mem equals_not_wordChar]

/-- Rule text: a rule body, or a body after the name `RRULE` or `EXRULE` and a colon, the name in
any case with blanks around it; the whole read around blanks. -/
def RuleText (s : String) (r : Rule) : Prop :=
  RuleBody (trim s) r ∨
    ∃ name body, trim s = name ++ ":" ++ body ∧
      (asciiUpper (trim name) = "RRULE" ∨ asciiUpper (trim name) = "EXRULE") ∧
      RuleBody (trim body) r

/-- A text is read as a rule exactly when it is rule text, and then as the rule its parts
denote. -/
theorem Rule.ofText_eq_ok_iff {s : String} {r : Rule} : Rule.ofText s = .ok r ↔ RuleText s r := by
  unfold Rule.ofText
  dsimp only
  constructor
  · intro h
    split at h
    · rename_i name params value hprop
      split_ifs at h with hname hparams
      obtain ⟨head, v, first, hsplit, hhead, rfl, rfl⟩ := eq_of_splitProperty hprop
      -- without parameters the head is the name
      have hfirst : head = first := by
        have := pieces_splitAll ';' head
        rw [hhead, List.isEmpty_iff.1 hparams] at this
        simpa using this.2.2
      subst hfirst
      exact Or.inr ⟨head, v, eq_of_splitOnce hsplit, hname, Rule.ofBody_eq_ok_iff.1 h⟩
    · exact Or.inl (Rule.ofBody_eq_ok_iff.1 h)
  · rintro (hbody | ⟨name, body, hs, hname, hbody⟩)
    · have hnone : splitProperty (trim s) = none := by
        unfold splitProperty
        simp [splitOnce_of_not_mem hbody.colon_not_mem]
      rw [hnone]
      exact Rule.ofBody_eq_ok_iff.2 hbody
    · rw [hs, splitProperty_ruleName hname]
      dsimp only
      rw [if_pos hname, if_pos List.isEmpty_nil]
      exact Rule.ofBody_eq_ok_iff.2 hbody

end Cadence
