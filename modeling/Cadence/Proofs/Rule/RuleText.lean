import Cadence.Proofs.Rule.Values

/-!
# Rule text read back

The canonical text of a rule reads back as that rule exactly when the rule is `WellFormed`:
each part within the range its reader accepts, the sets ascending without repeats, a bound
its text can carry, and positioned weekdays and month days only at the frequencies that
allow them. Every rule read from text is well formed, so the canonical text of a parsed rule
always reads back without loss.

The round trip follows the parts of the canonical text (`Rule.fields`) one at a time:
`Rule.draftOf r K` is the draft after reading the parts whose keys are `K`, and reading one
more part adds its key (`Rule.setPart_draftOf`). The converse is an invariant of the draft
(`RuleDraft.Sound`) that every part keeps.
-/

namespace Cadence

open Cadence.Text

/-! ## Well-formed rules -/

/-- How a rule may end in its text: a count from 1 to `2 ^ 32 - 1`, or a compact stamp. -/
def Bound.WellFormed : Bound → Prop
  | .unbounded => True
  | .count n => InRange 1 (2 ^ 32 - 1) n
  | .upTo s => s.Compact

/-- The parts of a rule within the ranges their readers accept, whatever the frequency. -/
structure Rule.PartsInRange (r : Rule) : Prop where
  interval : InRange 1 (2 ^ 32 - 1) r.interval
  byDay_nodup : r.byDay.Nodup
  byDay_allowed : ∀ d ∈ r.byDay, d.Allowed
  byMonth : SortedIn (InRange 1 12) r.byMonth
  byMonthDay : SortedIn IsMonthDay r.byMonthDay
  byHour : SortedIn (InRange 0 23) r.byHour
  byMinute : SortedIn (InRange 0 59) r.byMinute
  bySecond : SortedIn (InRange 0 59) r.bySecond

/-- A weekday with a position only in monthly and yearly rules, and month days never in weekly
rules: the checks made once the frequency is known. -/
def Rule.FitsFrequency (r : Rule) : Prop :=
  (∀ d ∈ r.byDay, d.position.isSome → r.frequency = .monthly ∨ r.frequency = .yearly) ∧
  (r.frequency = .weekly → r.byMonthDay = [])

/-- The rules the parser can return: parts in range, a bound its text can carry, and parts that
fit the frequency. -/
structure Rule.WellFormed (r : Rule) : Prop extends r.PartsInRange where
  bound : r.bound.WellFormed
  fits : r.FitsFrequency

theorem Rule.checkFrequency_eq_ok {r r' : Rule} :
    r.checkFrequency = .ok r' ↔ r' = r ∧ r.FitsFrequency := by
  -- the weekday search finds nothing exactly when positions fit the frequency
  have hfind : (if r.frequency = .monthly ∨ r.frequency = .yearly then none
      else r.byDay.find? (·.position.isSome)) = none ↔
      ∀ d ∈ r.byDay, d.position.isSome → r.frequency = .monthly ∨ r.frequency = .yearly := by
    split_ifs with hpos
    · simp [hpos]
    · simp [List.find?_eq_none, hpos]
  unfold Rule.checkFrequency Rule.FitsFrequency
  dsimp only
  split
  · rename_i day hday
    have hnot := mt hfind.2 (by simp [hday])
    constructor
    · intro h
      cases h
    · rintro ⟨-, hpos, -⟩
      exact absurd hpos hnot
  · rename_i hnone
    have hpos := hfind.1 hnone
    split_ifs with hweekly
    · constructor
      · intro h
        cases h
      · rintro ⟨-, -, hw⟩
        simp [hw hweekly.1] at hweekly
    · simp only [List.isEmpty_iff, Bool.not_eq_true', not_and, Bool.not_eq_false] at hweekly
      constructor
      · intro h
        cases h
        exact ⟨rfl, hpos, hweekly⟩
      · rintro ⟨rfl, -, -⟩
        rfl

/-! ## The parts of the canonical text -/

/-- The part the bound adds to the canonical text, as a key and a value. -/
def Bound.fields : Bound → List (String × String)
  | .unbounded => []
  | .count n => [("COUNT", toString n)]
  | .upTo s => [("UNTIL", s.render)]

/-- The parts of the canonical text as keys and values, in order; a part at its default is
left out. -/
def Rule.fields (r : Rule) : List (String × String) :=
  [("FREQ", r.frequency.code)] ++
  (if r.interval ≠ 1 then [("INTERVAL", toString r.interval)] else []) ++
  (if r.byDay ≠ [] then [("BYDAY", ",".intercalate (r.byDay.map WeekdayNum.render))] else []) ++
  (if r.byMonth ≠ [] then [("BYMONTH", joinNumbers r.byMonth)] else []) ++
  (if r.byMonthDay ≠ [] then [("BYMONTHDAY", joinNumbers r.byMonthDay)] else []) ++
  (if r.byHour ≠ [] then [("BYHOUR", joinNumbers r.byHour)] else []) ++
  (if r.byMinute ≠ [] then [("BYMINUTE", joinNumbers r.byMinute)] else []) ++
  (if r.bySecond ≠ [] then [("BYSECOND", joinNumbers r.bySecond)] else []) ++
  (if r.weekStart ≠ .mon then [("WKST", r.weekStart.code)] else []) ++
  r.bound.fields

theorem Rule.parts_eq (r : Rule) : r.parts = r.fields.map fun kv => kv.1 ++ "=" ++ kv.2 := by
  unfold Rule.parts Rule.fields
  cases r.bound <;> simp [Bound.fields, apply_ite (List.map _)]

theorem Rule.mem_fields {r : Rule} {kv : String × String} :
    kv ∈ r.fields ↔ kv = ("FREQ", r.frequency.code) ∨
      (r.interval ≠ 1 ∧ kv = ("INTERVAL", toString r.interval)) ∨
      (r.byDay ≠ [] ∧ kv = ("BYDAY", ",".intercalate (r.byDay.map WeekdayNum.render))) ∨
      (r.byMonth ≠ [] ∧ kv = ("BYMONTH", joinNumbers r.byMonth)) ∨
      (r.byMonthDay ≠ [] ∧ kv = ("BYMONTHDAY", joinNumbers r.byMonthDay)) ∨
      (r.byHour ≠ [] ∧ kv = ("BYHOUR", joinNumbers r.byHour)) ∨
      (r.byMinute ≠ [] ∧ kv = ("BYMINUTE", joinNumbers r.byMinute)) ∨
      (r.bySecond ≠ [] ∧ kv = ("BYSECOND", joinNumbers r.bySecond)) ∨
      (r.weekStart ≠ .mon ∧ kv = ("WKST", r.weekStart.code)) ∨
      kv ∈ r.bound.fields := by
  simp only [Rule.fields, List.mem_append, List.mem_ite_nil_right, List.mem_singleton, or_assoc]

/-- The keys of the canonical text, in the order it writes them. -/
def ruleKeys : List String :=
  ["FREQ", "INTERVAL", "BYDAY", "BYMONTH", "BYMONTHDAY", "BYHOUR", "BYMINUTE", "BYSECOND", "WKST",
    "COUNT", "UNTIL"]

theorem Rule.keys_sublist (r : Rule) : List.Sublist (r.fields.map Prod.fst) ruleKeys := by
  have hseg : ∀ (c : Prop) [Decidable c] (kv : String × String),
      List.Sublist ((if c then [kv] else []).map Prod.fst) [kv.1] := by
    intro c _ kv
    split <;> simp
  have hbound : List.Sublist (r.bound.fields.map Prod.fst) ["COUNT", "UNTIL"] := by
    cases r.bound <;> simp [Bound.fields]
  show List.Sublist _ <| ["FREQ"] ++ ["INTERVAL"] ++ ["BYDAY"] ++ ["BYMONTH"] ++ ["BYMONTHDAY"] ++ ["BYHOUR"] ++
    ["BYMINUTE"] ++ ["BYSECOND"] ++ ["WKST"] ++ ["COUNT", "UNTIL"]
  simp only [Rule.fields, List.map_append]
  refine List.Sublist.append (List.Sublist.append (List.Sublist.append (List.Sublist.append
    (List.Sublist.append (List.Sublist.append (List.Sublist.append (List.Sublist.append
    (List.Sublist.append (List.Sublist.refl _) ?_) ?_) ?_) ?_) ?_) ?_) ?_) ?_) hbound
  all_goals exact hseg _ _

theorem Rule.keys_nodup (r : Rule) : (r.fields.map Prod.fst).Nodup :=
  (r.keys_sublist).nodup (by decide)

theorem Rule.fields_text {r : Rule} {kv : String × String} (hkv : kv ∈ r.fields) :
    IsWord kv.1 ∧ IsValue kv.2 := by
  have hkey : kv.1 ∈ ruleKeys := r.keys_sublist.subset (List.mem_map_of_mem hkv)
  have hwords : ∀ k ∈ ruleKeys, IsWord k := by
    unfold ruleKeys IsWord IsWordChar
    simp
  refine ⟨hwords _ hkey, ?_⟩
  rcases Rule.mem_fields.1 hkv with rfl | ⟨-, rfl⟩ | ⟨-, rfl⟩ | ⟨-, rfl⟩ | ⟨-, rfl⟩ | ⟨-, rfl⟩ |
    ⟨-, rfl⟩ | ⟨-, rfl⟩ | ⟨-, rfl⟩ | hb
  · exact IsWord.isValue r.frequency.isWord_code
  · exact IsWord.isValue (isWord_natString _)
  · exact isValue_comma (List.forall_mem_map.2 fun d _ => d.isWord_render)
  · exact isValue_comma (List.forall_mem_map.2 fun n _ => isWord_natString n)
  · exact isValue_comma (List.forall_mem_map.2 fun n _ => isWord_intString n)
  · exact isValue_comma (List.forall_mem_map.2 fun n _ => isWord_natString n)
  · exact isValue_comma (List.forall_mem_map.2 fun n _ => isWord_natString n)
  · exact isValue_comma (List.forall_mem_map.2 fun n _ => isWord_natString n)
  · exact IsWord.isValue r.weekStart.isWord_code
  · cases hbound : r.bound with
    | unbounded => simp [hbound, Bound.fields] at hb
    | count n =>
      simp only [hbound, Bound.fields, List.mem_singleton] at hb
      exact hb ▸ IsWord.isValue (isWord_natString n)
    | upTo s =>
      simp only [hbound, Bound.fields, List.mem_singleton] at hb
      exact hb ▸ IsWord.isValue s.isWord_render

theorem Rule.part_chars {r : Rule} {kv : String × String} (hkv : kv ∈ r.fields) :
    ∀ c ∈ (kv.1 ++ "=" ++ kv.2).toList, IsWordChar c ∨ c = ',' ∨ c = '=' := by
  obtain ⟨hk, hv⟩ := Rule.fields_text hkv
  intro c hc
  simp only [String.toList_append, List.mem_append] at hc
  rcases hc with (hc | hc) | hc
  · exact Or.inl (hk c hc)
  · simp at hc
    exact Or.inr (Or.inr hc)
  · rcases hv c hc with h | h
    · exact Or.inl h
    · exact Or.inr (Or.inl h)

/-- The characters of rule text: words, commas, equals signs and semicolons. -/
def IsRuleChar (c : Char) : Prop := IsWordChar c ∨ c = ',' ∨ c = '=' ∨ c = ';'

theorem Rule.render_chars (r : Rule) : ∀ c ∈ r.render.toList, IsRuleChar c := by
  refine forall_mem_intercalate (fun c hc => ?_) fun p hp => ?_
  · simp at hc
    exact Or.inr (Or.inr (Or.inr hc))
  · rw [Rule.parts_eq] at hp
    obtain ⟨kv, hkv, rfl⟩ := List.mem_map.1 hp
    intro c hc
    rcases Rule.part_chars hkv c hc with h | h | h
    · exact Or.inl h
    · exact Or.inr (Or.inl h)
    · exact Or.inr (Or.inr (Or.inl h))

/-! ## Reading the canonical parts -/

theorem RuleDraft.addPart_keyValue (d : RuleDraft) {k v : String} (hk : IsWord k) (hv : IsValue v)
    (hseen : k ∉ d.seen) :
    d.addPart (k ++ "=" ++ v) = { d with seen := k :: d.seen }.setPart k v := by
  have hchars : ∀ c ∈ (k ++ "=" ++ v).toList, isBlank c = false := by
    intro c hc
    simp only [String.toList_append, List.mem_append] at hc
    rcases hc with (hc | hc) | hc
    · exact (hk c hc).not_blank
    · simp at hc
      subst hc
      decide
    · exact hv.not_blank c hc
  have hsplit : splitOnce '=' (k ++ "=" ++ v) = some (k, v) :=
    splitOnce_append (hk.not_mem (by unfold IsWordChar; decide))
  have hfull : (k ++ "=" ++ v).isEmpty = false :=
    String.isEmpty_eq_false_iff.2 fun h => by simpa using congrArg String.toList h
  simp [RuleDraft.addPart, trim_of_forall hchars, hfull, hsplit, hk.trim_eq, hk.asciiUpper_eq,
    trim_of_forall hv.not_blank, hseen]

/-- The draft after reading those parts of the canonical text of `r` whose keys are in `K`
(newest first): they hold the values of `r`, every other part its default. -/
def Rule.draftOf (r : Rule) (K : List String) : RuleDraft where
  seen := K
  frequency := if "FREQ" ∈ K then some r.frequency else none
  count := if "COUNT" ∈ K then r.count? else none
  upTo := if "UNTIL" ∈ K then r.upTo? else none
  rule :=
    { frequency := .daily
      interval := if "INTERVAL" ∈ K then r.interval else 1
      byDay := if "BYDAY" ∈ K then r.byDay else []
      byMonth := if "BYMONTH" ∈ K then r.byMonth else []
      byMonthDay := if "BYMONTHDAY" ∈ K then r.byMonthDay else []
      byHour := if "BYHOUR" ∈ K then r.byHour else []
      byMinute := if "BYMINUTE" ∈ K then r.byMinute else []
      bySecond := if "BYSECOND" ∈ K then r.bySecond else []
      weekStart := if "WKST" ∈ K then r.weekStart else .mon
      bound := .unbounded }

/-- Reading one canonical part of a well-formed rule adds its key to the parts read. -/
theorem Rule.setPart_draftOf {r : Rule} (hr : r.WellFormed) {kv : String × String}
    (hkv : kv ∈ r.fields) (K : List String) :
    { r.draftOf K with seen := kv.1 :: (r.draftOf K).seen }.setPart kv.1 kv.2 =
      .ok (r.draftOf (kv.1 :: K)) := by
  rcases Rule.mem_fields.1 hkv with rfl | ⟨-, rfl⟩ | ⟨hd, rfl⟩ | ⟨hm, rfl⟩ | ⟨hmd, rfl⟩ | ⟨hh, rfl⟩ |
    ⟨hmi, rfl⟩ | ⟨hs, rfl⟩ | ⟨-, rfl⟩ | hb
  · simp only [RuleDraft.setPart, Frequency.ofCode?_code]
    simp [Rule.draftOf]
  · simp only [RuleDraft.setPart, readPositive_natString hr.interval]
    simp [Rule.draftOf]
  · simp only [RuleDraft.setPart, readByDay_render hr.byDay_nodup hr.byDay_allowed hd]
    simp [Rule.draftOf]
  · simp only [RuleDraft.setPart, readNumberSet_joinNumbers hr.byMonth (by decide) hm]
    simp [Rule.draftOf]
  · simp only [RuleDraft.setPart, readMonthDays_joinNumbers hr.byMonthDay hmd]
    simp [Rule.draftOf]
  · simp only [RuleDraft.setPart, readNumberSet_joinNumbers hr.byHour (by decide) hh]
    simp [Rule.draftOf]
  · simp only [RuleDraft.setPart, readNumberSet_joinNumbers hr.byMinute (by decide) hmi]
    simp [Rule.draftOf]
  · simp only [RuleDraft.setPart, readNumberSet_joinNumbers hr.bySecond (by decide) hs]
    simp [Rule.draftOf]
  · simp only [RuleDraft.setPart, Weekday.ofCode?_code]
    simp [Rule.draftOf]
  · have hbound := hr.bound
    cases hrb : r.bound with
    | unbounded => simp [hrb, Bound.fields] at hb
    | count n =>
      simp only [hrb, Bound.fields, List.mem_singleton] at hb
      subst hb
      rw [hrb] at hbound
      simp only [RuleDraft.setPart, readPositive_natString hbound]
      simp [Rule.draftOf, Rule.count?, hrb]
    | upTo s =>
      simp only [hrb, Bound.fields, List.mem_singleton] at hb
      subst hb
      rw [hrb] at hbound
      simp only [RuleDraft.setPart, Stamp.ofText?_render hbound]
      simp [Rule.draftOf, Rule.upTo?, hrb]

theorem Rule.foldlM_addPart {r : Rule} (hr : r.WellFormed) :
    ∀ (kvs : List (String × String)) (K : List String), (∀ kv ∈ kvs, kv ∈ r.fields) →
      (kvs.map Prod.fst ++ K).Nodup →
      (kvs.map fun kv => kv.1 ++ "=" ++ kv.2).foldlM RuleDraft.addPart (r.draftOf K) =
        .ok (r.draftOf ((kvs.map Prod.fst).reverse ++ K))
  | [], K, _, _ => rfl
  | kv :: kvs, K, hmem, hnd => by
    have hkv := hmem kv List.mem_cons_self
    obtain ⟨hk, hv⟩ := Rule.fields_text hkv
    have hnew : kv.1 ∉ K := fun h =>
      (List.nodup_cons.1 hnd).1 (List.mem_append_right _ h)
    -- the rest of the keys, now with `kv.1` read
    have hrest : (kvs.map Prod.fst ++ kv.1 :: K).Nodup :=
      List.perm_middle.nodup_iff.2 (by simpa using hnd)
    rw [List.map_cons, List.foldlM_cons, RuleDraft.addPart_keyValue _ hk hv hnew,
      Rule.setPart_draftOf hr hkv, Except.ok_bind,
      Rule.foldlM_addPart hr kvs (kv.1 :: K) (fun kv' h => hmem kv' (List.mem_cons_of_mem _ h)) hrest]
    simp

theorem Rule.draftOf_fields (r : Rule) {K : List String}
    (hK : ∀ k, k ∈ K ↔ k ∈ r.fields.map Prod.fst) :
    (r.draftOf K).frequency = some r.frequency ∧ (r.draftOf K).count = r.count? ∧
      (r.draftOf K).upTo = r.upTo? ∧
      (r.draftOf K).rule = { r with frequency := .daily, bound := .unbounded } := by
  obtain ⟨f, i, bd, bm, bmd, bh, bmi, bs, w, b⟩ := r
  cases b <;> simp [Rule.draftOf, hK, Rule.fields, Bound.fields, apply_ite (List.map Prod.fst),
    Rule.count?, Rule.upTo?]
  -- what is left: a part at its default holds the default
  all_goals exact ⟨Eq.symm, Eq.symm⟩

theorem Rule.ofBody_render {r : Rule} (hr : r.WellFormed) : Rule.ofBody r.render = .ok r := by
  have hparts : splitAll ';' r.render = r.parts := by
    refine splitAll_intercalate (by simp [Rule.parts]) fun p hp hc => ?_
    rw [Rule.parts_eq] at hp
    obtain ⟨kv, hkv, rfl⟩ := List.mem_map.1 hp
    rcases Rule.part_chars hkv _ hc with h | h | h
    · exact absurd h (by unfold IsWordChar; decide)
    · exact absurd h (by decide)
    · exact absurd h (by decide)
  have hfold := Rule.foldlM_addPart hr r.fields [] (fun _ h => h) (by simpa using r.keys_nodup)
  rw [List.append_nil] at hfold
  obtain ⟨hf, hc, hu, hrule⟩ := r.draftOf_fields
    (K := (r.fields.map Prod.fst).reverse) (fun k => by simp)
  rw [Rule.ofBody, hparts, Rule.parts_eq,
    show (⟨[], none, none, none, Rule.every .daily⟩ : RuleDraft) = r.draftOf [] from rfl, hfold,
    Except.ok_bind]
  simp only [hf, hc, hu, hrule]
  have hcheck := Rule.checkFrequency_eq_ok.2 ⟨rfl, hr.fits⟩
  obtain ⟨f, i, bd, bm, bmd, bh, bmi, bs, w, b⟩ := r
  cases b <;> simpa [Rule.count?, Rule.upTo?] using hcheck

theorem Rule.ofText_render {r : Rule} (hr : r.WellFormed) : Rule.ofText r.render = .ok r := by
  have hblank : ∀ c ∈ r.render.toList, isBlank c = false := fun c hc => by
    rcases r.render_chars c hc with h | h | h | h
    · exact h.not_blank
    all_goals (subst h; decide)
  have hcolon : ':' ∉ r.render.toList := fun hc => by
    rcases r.render_chars ':' hc with h | h | h | h
    · exact absurd h (by unfold IsWordChar; decide)
    all_goals exact absurd h (by decide)
  simp only [Rule.ofText, trim_of_forall hblank, splitProperty, splitOnce_of_not_mem hcolon]
  exact Rule.ofBody_render hr

/-! ## Rules read from text -/

/-- What the parts read so far guarantee of a draft. -/
structure RuleDraft.Sound (d : RuleDraft) : Prop where
  rule : d.rule.PartsInRange
  count : ∀ n, d.count = some n → InRange 1 (2 ^ 32 - 1) n
  upTo : ∀ s, d.upTo = some s → s.Compact

theorem RuleDraft.Sound.setPart {d d' : RuleDraft} {key value : String} (hd : d.Sound)
    (h : d.setPart key value = .ok d') : d'.Sound := by
  unfold RuleDraft.setPart at h
  dsimp only at h
  split at h
  · -- FREQ
    split at h
    · cases h
      exact ⟨hd.rule, hd.count, hd.upTo⟩
    · cases h
  · -- INTERVAL
    obtain ⟨n, hn, h⟩ := Except.bind_eq_ok.1 h
    cases h
    exact ⟨{ hd.rule with interval := InRange.of_readPositive hn }, hd.count, hd.upTo⟩
  · -- COUNT
    obtain ⟨n, hn, h⟩ := Except.bind_eq_ok.1 h
    cases h
    refine ⟨hd.rule, ?_, hd.upTo⟩
    rintro m ⟨⟩
    exact InRange.of_readPositive hn
  · -- UNTIL
    split at h
    · rename_i s hs
      cases h
      refine ⟨hd.rule, hd.count, ?_⟩
      rintro t ⟨⟩
      exact Stamp.compact_of_ofText? hs
    · cases h
  · -- BYDAY
    obtain ⟨ds, hds, h⟩ := Except.bind_eq_ok.1 h
    cases h
    have ⟨hnd, hall⟩ := allowed_of_readByDay hds
    exact ⟨{ hd.rule with byDay_nodup := hnd, byDay_allowed := hall }, hd.count, hd.upTo⟩
  · -- BYMONTH
    obtain ⟨xs, hxs, h⟩ := Except.bind_eq_ok.1 h
    cases h
    exact ⟨{ hd.rule with byMonth := SortedIn.of_readNumberSet hxs }, hd.count, hd.upTo⟩
  · -- BYMONTHDAY
    obtain ⟨xs, hxs, h⟩ := Except.bind_eq_ok.1 h
    cases h
    exact ⟨{ hd.rule with byMonthDay := SortedIn.of_readMonthDays hxs }, hd.count, hd.upTo⟩
  · -- BYHOUR
    obtain ⟨xs, hxs, h⟩ := Except.bind_eq_ok.1 h
    cases h
    exact ⟨{ hd.rule with byHour := SortedIn.of_readNumberSet hxs }, hd.count, hd.upTo⟩
  · -- BYMINUTE
    obtain ⟨xs, hxs, h⟩ := Except.bind_eq_ok.1 h
    cases h
    exact ⟨{ hd.rule with byMinute := SortedIn.of_readNumberSet hxs }, hd.count, hd.upTo⟩
  · -- BYSECOND
    obtain ⟨xs, hxs, h⟩ := Except.bind_eq_ok.1 h
    cases h
    exact ⟨{ hd.rule with bySecond := SortedIn.of_readNumberSet hxs }, hd.count, hd.upTo⟩
  · -- WKST
    split at h
    · cases h
      exact ⟨{ hd.rule with }, hd.count, hd.upTo⟩
    · cases h
  · -- an unknown key
    cases h

theorem RuleDraft.Sound.addPart {d d' : RuleDraft} {raw : String} (hd : d.Sound)
    (h : d.addPart raw = .ok d') : d'.Sound := by
  unfold RuleDraft.addPart at h
  dsimp only at h
  split at h
  · -- a blank part leaves the draft alone
    cases h
    exact hd
  · split at h
    · split at h
      · cases h
      · -- only the list of keys read changes before the value is set
        refine RuleDraft.Sound.setPart ?_ h
        exact ⟨hd.rule, hd.count, hd.upTo⟩
    · cases h

theorem Rule.wellFormed_of_ofBody {body : String} {r : Rule} (h : Rule.ofBody body = .ok r) :
    r.WellFormed := by
  unfold Rule.ofBody at h
  obtain ⟨d, hfold, h⟩ := Except.bind_eq_ok.1 h
  have h0 : RuleDraft.Sound ⟨[], none, none, none, Rule.every .daily⟩ :=
    ⟨⟨by decide, List.nodup_nil, by simp [Rule.every], SortedIn.nil _, SortedIn.nil _, SortedIn.nil _,
      SortedIn.nil _, SortedIn.nil _⟩, by simp, by simp⟩
  have hd : d.Sound := foldlM_invariant _ (fun _ _ _ _ hb hstep => hb.addPart hstep) h0 hfold
  dsimp only at h
  -- the bound is read first, then the frequency must be there, then its checks
  cases hf : d.frequency with
  | none =>
    simp only [hf] at h
    split at h <;> cases h
  | some f =>
    simp only [hf] at h
    split at h
    · cases h
    all_goals obtain ⟨rfl, hfits⟩ := Rule.checkFrequency_eq_ok.1 h
    · exact ⟨{ hd.rule with }, hd.count _ ‹_›, hfits⟩
    · exact ⟨{ hd.rule with }, hd.upTo _ ‹_›, hfits⟩
    · exact ⟨{ hd.rule with }, trivial, hfits⟩

theorem Rule.wellFormed_of_ofText {text : String} {r : Rule} (h : Rule.ofText text = .ok r) :
    r.WellFormed := by
  unfold Rule.ofText at h
  dsimp only at h
  split at h
  · -- a property line: only a rule without parameters is read; the others fail
    split_ifs at h
    exact Rule.wellFormed_of_ofBody h
  · exact Rule.wellFormed_of_ofBody h

theorem Rule.ofText_render_eq_ok_iff {r : Rule} : Rule.ofText r.render = .ok r ↔ r.WellFormed :=
  ⟨Rule.wellFormed_of_ofText, Rule.ofText_render⟩

theorem Rule.text_round_trip :
    (∀ r : Rule, Rule.ofText r.render = .ok r ↔ r.WellFormed) ∧
      ∀ (text : String) (r : Rule), Rule.ofText text = .ok r → Rule.ofText r.render = .ok r :=
  ⟨fun _ => Rule.ofText_render_eq_ok_iff,
    fun _ _ h => Rule.ofText_render (Rule.wellFormed_of_ofText h)⟩

theorem Rule.text_round_trip_monthly :
    Rule.WellFormed ⟨.monthly, 2, [⟨.fri, some (-1)⟩, ⟨.mon, none⟩], [1, 6], [], [9], [0], [0], .sun,
        .count 10⟩ ∧
      Rule.ofText (Rule.render ⟨.monthly, 2, [⟨.fri, some (-1)⟩, ⟨.mon, none⟩], [1, 6], [], [9], [0],
        [0], .sun, .count 10⟩) =
        .ok ⟨.monthly, 2, [⟨.fri, some (-1)⟩, ⟨.mon, none⟩], [1, 6], [], [9], [0], [0], .sun, .count 10⟩ := by
  have hwf : Rule.WellFormed ⟨.monthly, 2, [⟨.fri, some (-1)⟩, ⟨.mon, none⟩], [1, 6], [], [9], [0],
      [0], .sun, .count 10⟩ := by
    refine ⟨⟨?_, ?_, ?_, ?_, ?_, ?_, ?_, ?_⟩, ?_, ?_⟩ <;>
      simp [SortedIn, InRange, IsMonthDay, WeekdayNum.Allowed, allowedPositions, Bound.WellFormed,
        Rule.FitsFrequency]
  exact ⟨hwf, (Rule.text_round_trip.1 _).2 hwf⟩

end Cadence
