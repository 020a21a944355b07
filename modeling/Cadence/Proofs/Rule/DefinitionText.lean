import Cadence.Proofs.Rule.RuleText

/-!
# Definition text read back

The canonical text of a definition read from text reads back as that definition exactly when
all of its dates are compact (`Definition.ofText_render_iff`). Reading a definition gives
well-formed rules and dates without repeats (`Definition.Sound`), which is all the rules and
the date lines need; but a wall-clock date on a line with a `TZID` parameter is kept as its
UTC instant, and that instant can fall outside the years 0 to 9999 that compact text can
write. The canonical text names no zone, so what it reads back is always compact.
-/

namespace Cadence

open Cadence.Text

/-! ## The lines of the canonical text -/

/-- The lines of the canonical text as property names and values, in order. -/
def Definition.entries (d : Definition) : List (String × String) :=
  (match d.rrule with
    | some r => [("RRULE", r.render)]
    | none => []) ++
  (if d.rdates ≠ [] then [("RDATE", renderStamps d.rdates)] else []) ++
  (match d.exrule with
    | some r => [("EXRULE", r.render)]
    | none => []) ++
  (if d.exdates ≠ [] then [("EXDATE", renderStamps d.exdates)] else [])

theorem Definition.lines_eq (d : Definition) :
    d.lines = d.entries.map fun e => e.1 ++ ":" ++ e.2 := by
  unfold Definition.lines Definition.entries
  cases d.rrule <;> cases d.exrule <;> simp [apply_ite (List.map _)]

theorem Definition.mem_entries {d : Definition} {e : String × String} :
    e ∈ d.entries ↔ (∃ r, d.rrule = some r ∧ e = ("RRULE", r.render)) ∨
      (d.rdates ≠ [] ∧ e = ("RDATE", renderStamps d.rdates)) ∨
      (∃ r, d.exrule = some r ∧ e = ("EXRULE", r.render)) ∨
      (d.exdates ≠ [] ∧ e = ("EXDATE", renderStamps d.exdates)) := by
  unfold Definition.entries
  cases d.rrule <;> cases d.exrule <;>
    simp

theorem IsRuleChar.not_blank {c : Char} (h : IsRuleChar c) : isBlank c = false := by
  rcases h with h | rfl | rfl | rfl
  · exact h.not_blank
  all_goals decide

theorem renderStamps_chars (xs : List Stamp) : ∀ c ∈ (renderStamps xs).toList, IsRuleChar c := by
  intro c hc
  rcases isValue_comma (List.forall_mem_map.2 fun s _ => s.isWord_render) c hc with h | h
  · exact Or.inl h
  · exact Or.inr (Or.inl h)

theorem Definition.entries_text {d : Definition} {e : String × String} (he : e ∈ d.entries) :
    e.1 ∈ ["RRULE", "RDATE", "EXRULE", "EXDATE"] ∧ ∀ c ∈ e.2.toList, IsRuleChar c := by
  rcases Definition.mem_entries.1 he with ⟨r, -, rfl⟩ | ⟨-, rfl⟩ | ⟨r, -, rfl⟩ | ⟨-, rfl⟩
  · exact ⟨by simp, r.render_chars⟩
  · exact ⟨by simp, renderStamps_chars _⟩
  · exact ⟨by simp, r.render_chars⟩
  · exact ⟨by simp, renderStamps_chars _⟩

theorem splitProperty_line {k v : String} (hk : IsWord k) (hv : ∀ c ∈ v.toList, IsRuleChar c) :
    splitProperty (k ++ ":" ++ v) = some (k, [], v) := by
  have hsplit : splitOnce ':' (k ++ ":" ++ v) = some (k, v) :=
    splitOnce_append (hk.not_mem (by unfold IsWordChar; decide))
  have heq : '=' ∉ k.toList := hk.not_mem (by unfold IsWordChar; decide)
  have hsemi : splitAll ';' k = [k] := by
    simpa using @splitAll_intercalate ';' [k] (by simp)
      (by simpa using hk.not_mem (by unfold IsWordChar; decide))
  simp [splitProperty, hsplit, heq, hsemi, hk.trim_eq, hk.asciiUpper_eq,
    trim_of_forall fun c hc => (hv c hc).not_blank]

theorem isWord_propertyName {k : String} (hk : k ∈ ["RRULE", "RDATE", "EXRULE", "EXDATE"]) :
    IsWord k := by
  simp only [List.mem_cons, List.not_mem_nil, or_false] at hk
  rcases hk with rfl | rfl | rfl | rfl <;> (unfold IsWord IsWordChar; simp)

theorem Definition.line_chars {d : Definition} {l : String} (hl : l ∈ d.lines) :
    ∀ c ∈ l.toList, isBlank c = false := by
  rw [Definition.lines_eq] at hl
  obtain ⟨e, he, rfl⟩ := List.mem_map.1 hl
  obtain ⟨hk, hv⟩ := Definition.entries_text he
  intro c hc
  simp only [String.toList_append, List.mem_append] at hc
  rcases hc with (hc | hc) | hc
  · exact (isWord_propertyName hk c hc).not_blank
  · simp at hc
    subst hc
    decide
  · exact (hv c hc).not_blank

theorem Definition.readLines_render (d : Definition) :
    ((splitAll '\n' d.render).map trim).filter (fun l => !l.isEmpty) = d.lines := by
  by_cases hnil : d.lines = []
  · have hempty : splitAll '\n' "" = [""] := rfl
    have htrim : trim "" = "" := rfl
    simp [Definition.render, hnil, hempty, htrim]
  · have hsplit : splitAll '\n' d.render = d.lines :=
      splitAll_intercalate hnil fun l hl hc => by
        exact absurd (Definition.line_chars hl _ hc) (by decide)
    have htrim : d.lines.map trim = d.lines := by
      conv_rhs => rw [← List.map_id d.lines]
      exact List.map_congr_left fun l hl => trim_of_forall (Definition.line_chars hl)
    rw [hsplit, htrim, List.filter_eq_self]
    intro l hl
    rw [Definition.lines_eq] at hl
    obtain ⟨e, -, rfl⟩ := List.mem_map.1 hl
    simp only [Bool.not_eq_true', String.isEmpty_eq_false_iff]
    exact fun h => by simpa using congrArg String.toList h

/-! ## Dates of a line -/

theorem Stamp.Compact.render_ne {s : Stamp} (hs : s.Compact) : s.render ≠ "" := by
  intro h
  have hlen : s.render.toList.length = 0 := by rw [h]; rfl
  cases s with
  | utc t => simp [Stamp.render] at hlen
  | wall t =>
    rw [show Stamp.render (.wall t) = t.renderCompact from rfl,
      WallTime.Compact.length_renderCompact hs] at hlen
    cases hlen
  | date d =>
    rw [show Stamp.render (.date d) = d.renderCompact from rfl,
      Date.Compact.length_renderCompact hs] at hlen
    cases hlen

theorem addStamps_render {field : String} {xs : List Stamp} (hne : xs ≠ []) (hnd : xs.Nodup)
    (hc : ∀ s ∈ xs, s.Compact) : addStamps field (renderStamps xs) none [] = .ok xs := by
  rw [addStamps, renderStamps, splitAll_comma (by simpa using hne)
      (List.forall_mem_map.2 fun s _ => s.isWord_render), List.foldlM_map,
    foldlM_eq_ok (fun acc s => if s ∈ acc then acc else acc ++ [s]),
    foldl_appendNew (by simpa using hnd)]
  · rfl
  · intro acc s hs
    simp [s.isWord_render.trim_eq, (hc s hs).render_ne, Stamp.ofText?_render (hc s hs)]

theorem addStamps_compact {field value : String} {acc acc' : List Stamp}
    (h : addStamps field value none acc = .ok acc') (hacc : ∀ s ∈ acc, s.Compact) :
    ∀ s ∈ acc', s.Compact := by
  refine foldlM_invariant (fun acc => ∀ s ∈ acc, s.Compact) ?_ hacc h
  intro b raw _ b' hb hstep
  dsimp only at hstep
  split at hstep
  · -- a blank piece adds nothing
    cases hstep
    exact hb
  · split at hstep
    · rename_i s hs
      cases hstep
      intro t ht
      rcases mem_appendNew ht with rfl | ht
      · exact Stamp.compact_of_ofText? hs
      · exact hb t ht
    · cases hstep

theorem addStamps_nodup {field value : String} {zone : Option TimeZone} {acc acc' : List Stamp}
    (h : addStamps field value zone acc = .ok acc') (hacc : acc.Nodup) : acc'.Nodup := by
  refine foldlM_invariant List.Nodup ?_ hacc h
  intro b raw _ b' hb hstep
  dsimp only at hstep
  split at hstep
  · cases hstep
    exact hb
  · split at hstep
    · -- the stamp read, or its instant when a zone pins it, is added only if new
      split at hstep
      · split at hstep
        · cases hstep
          exact nodup_appendNew hb _
        · cases hstep
      · cases hstep
        exact nodup_appendNew hb _
    · cases hstep

/-! ## Reading the canonical lines -/

/-- What reading a definition guarantees: well-formed rules and dates without repeats. -/
structure Definition.Sound (d : Definition) : Prop where
  rrule : ∀ r, d.rrule = some r → r.WellFormed
  exrule : ∀ r, d.exrule = some r → r.WellFormed
  rdates : d.rdates.Nodup
  exdates : d.exdates.Nodup

/-- The definition after reading those lines of the canonical text of `d` whose names are in
`K`; the other parts are still empty. -/
def Definition.restrict (d : Definition) (K : List String) : Definition where
  rrule := if "RRULE" ∈ K then d.rrule else none
  exrule := if "EXRULE" ∈ K then d.exrule else none
  rdates := if "RDATE" ∈ K then d.rdates else []
  exdates := if "EXDATE" ∈ K then d.exdates else []

theorem Definition.addLine_restrict {d : Definition} (hd : d.Sound)
    (hc : ∀ s ∈ d.rdates ++ d.exdates, s.Compact) {e : String × String} (he : e ∈ d.entries)
    {K : List String} (hK : e.1 ∉ K) (b : Bool) :
    (d.restrict K).addLine b (e.1 ++ ":" ++ e.2) = .ok (d.restrict (e.1 :: K)) := by
  obtain ⟨hk, hv⟩ := Definition.entries_text he
  rw [Definition.addLine, splitProperty_line (isWord_propertyName hk) hv]
  rcases Definition.mem_entries.1 he with ⟨r, hr, rfl⟩ | ⟨hne, rfl⟩ | ⟨r, hr, rfl⟩ | ⟨hne, rfl⟩
  · simp only at hK
    simp [Rule.ofBody_render (hd.rrule r hr), Definition.restrict, hK, hr]
  · simp only at hK
    have hrd : readDateParams "RDATE" [] = .ok none := rfl
    simp [hrd, addStamps_render hne hd.rdates fun s hs => hc s (List.mem_append_left _ hs),
      Definition.restrict, hK]
  · simp only at hK
    simp [Rule.ofBody_render (hd.exrule r hr), Definition.restrict, hK, hr]
  · simp only at hK
    have hrd : readDateParams "EXDATE" [] = .ok none := rfl
    simp [hrd, addStamps_render hne hd.exdates fun s hs => hc s (List.mem_append_right _ hs),
      Definition.restrict, hK]

theorem Definition.keys_nodup (d : Definition) : (d.entries.map Prod.fst).Nodup := by
  have hsub : List.Sublist (d.entries.map Prod.fst) (["RRULE"] ++ ["RDATE"] ++ ["EXRULE"] ++
      ["EXDATE"]) := by
    unfold Definition.entries
    simp only [List.map_append]
    refine List.Sublist.append (List.Sublist.append (List.Sublist.append ?_ ?_) ?_) ?_
    · cases d.rrule <;> simp
    · split <;> simp
    · cases d.exrule <;> simp
    · split <;> simp
  exact hsub.nodup (by decide)

theorem Definition.foldlM_addLine {d : Definition} (hd : d.Sound)
    (hc : ∀ s ∈ d.rdates ++ d.exdates, s.Compact) :
    ∀ (es : List (String × String)) (K : List String) (b : Bool), (∀ e ∈ es, e ∈ d.entries) →
      (es.map Prod.fst ++ K).Nodup →
      (es.map fun e => e.1 ++ ":" ++ e.2).foldlM
          (fun (acc : Definition × Bool) line => do pure ((← acc.1.addLine acc.2 line), false))
          (d.restrict K, b) =
        .ok (d.restrict ((es.map Prod.fst).reverse ++ K), es.isEmpty && b)
  | [], K, b, _, _ => by simp
  | e :: es, K, b, hmem, hnd => by
    have he := hmem e List.mem_cons_self
    have hnew : e.1 ∉ K := fun h => (List.nodup_cons.1 hnd).1 (List.mem_append_right _ h)
    have hrest : (es.map Prod.fst ++ e.1 :: K).Nodup :=
      List.perm_middle.nodup_iff.2 (by simpa using hnd)
    rw [List.map_cons, List.foldlM_cons, Definition.addLine_restrict hd hc he hnew, Except.ok_bind,
      Except.pure_eq, Except.ok_bind,
      Definition.foldlM_addLine hd hc es (e.1 :: K) false
        (fun e' h => hmem e' (List.mem_cons_of_mem _ h)) hrest]
    simp

theorem Definition.restrict_entries (d : Definition) {K : List String}
    (hK : ∀ k, k ∈ K ↔ k ∈ d.entries.map Prod.fst) : d.restrict K = d := by
  obtain ⟨rr, er, rd, ed⟩ := d
  cases rr <;> cases er <;> simp [Definition.restrict, hK, Definition.entries, apply_ite (List.map _)]

theorem Definition.ofText_render {d : Definition} (hd : d.Sound)
    (hc : ∀ s ∈ d.rdates ++ d.exdates, s.Compact) : Definition.ofText d.render = .ok d := by
  have hfold := Definition.foldlM_addLine hd hc d.entries [] true (fun _ h => h)
    (by simpa using d.keys_nodup)
  rw [List.append_nil, d.restrict_entries fun k => List.mem_reverse] at hfold
  simp only [Definition.ofText]
  rw [Definition.readLines_render, Definition.lines_eq,
    show (⟨none, none, [], []⟩ : Definition) = d.restrict [] from rfl, hfold]
  rfl

/-! ## Definitions read from text -/

theorem Definition.addLine_compact {d d' : Definition} {b : Bool} {line name value : String}
    (hline : splitProperty line = some (name, [], value)) (h : d.addLine b line = .ok d')
    (hd : ∀ s ∈ d.rdates ++ d.exdates, s.Compact) : ∀ s ∈ d'.rdates ++ d'.exdates, s.Compact := by
  rw [Definition.addLine, hline] at h
  dsimp only at h
  split_ifs at h
  · -- a rule line adds no date
    obtain ⟨r, -, h⟩ := Except.bind_eq_ok.1 h
    cases h
    exact hd
  · obtain ⟨r, -, h⟩ := Except.bind_eq_ok.1 h
    cases h
    exact hd
  · -- a date line without parameters has no zone, so its dates are read as written
    obtain ⟨zone, hzone, h⟩ := Except.bind_eq_ok.1 h
    cases hzone
    obtain ⟨xs, hxs, h⟩ := Except.bind_eq_ok.1 h
    cases h
    have hnew := addStamps_compact hxs fun s hs => hd s (List.mem_append_left _ hs)
    intro s hs
    rcases List.mem_append.1 hs with hs | hs
    · exact hnew s hs
    · exact hd s (List.mem_append_right _ hs)
  · obtain ⟨zone, hzone, h⟩ := Except.bind_eq_ok.1 h
    cases hzone
    obtain ⟨xs, hxs, h⟩ := Except.bind_eq_ok.1 h
    cases h
    have hnew := addStamps_compact hxs fun s hs => hd s (List.mem_append_right _ hs)
    intro s hs
    rcases List.mem_append.1 hs with hs | hs
    · exact hd s (List.mem_append_left _ hs)
    · exact hnew s hs

theorem Definition.compact_of_ofText_render {d d' : Definition}
    (h : Definition.ofText d.render = .ok d') : ∀ s ∈ d'.rdates ++ d'.exdates, s.Compact := by
  simp only [Definition.ofText] at h
  rw [Definition.readLines_render] at h
  obtain ⟨⟨e, b⟩, hfold, h⟩ := Except.bind_eq_ok.1 h
  cases h
  refine foldlM_invariant (fun acc : Definition × Bool => ∀ s ∈ acc.1.rdates ++ acc.1.exdates,
    s.Compact) ?_ (by simp) hfold
  intro acc line hline acc' hacc hstep
  rw [Definition.lines_eq] at hline
  obtain ⟨e, he, rfl⟩ := List.mem_map.1 hline
  obtain ⟨hk, hv⟩ := Definition.entries_text he
  obtain ⟨d'', hadd, hstep⟩ := Except.bind_eq_ok.1 hstep
  cases hstep
  exact Definition.addLine_compact (splitProperty_line (isWord_propertyName hk) hv) hadd hacc

theorem Definition.Sound.addLine {d d' : Definition} {b : Bool} {line : String} (hd : d.Sound)
    (h : d.addLine b line = .ok d') : d'.Sound := by
  unfold Definition.addLine at h
  split at h
  · split_ifs at h
    · obtain ⟨r, hr, h⟩ := Except.bind_eq_ok.1 h
      cases h
      exact ⟨fun r' h' => Option.some.inj h' ▸ Rule.wellFormed_of_ofBody hr, hd.exrule, hd.rdates,
        hd.exdates⟩
    · obtain ⟨r, hr, h⟩ := Except.bind_eq_ok.1 h
      cases h
      exact ⟨hd.rrule, fun r' h' => Option.some.inj h' ▸ Rule.wellFormed_of_ofBody hr, hd.rdates,
        hd.exdates⟩
    · obtain ⟨zone, -, h⟩ := Except.bind_eq_ok.1 h
      obtain ⟨xs, hxs, h⟩ := Except.bind_eq_ok.1 h
      cases h
      exact ⟨hd.rrule, hd.exrule, addStamps_nodup hxs hd.rdates, hd.exdates⟩
    · obtain ⟨zone, -, h⟩ := Except.bind_eq_ok.1 h
      obtain ⟨xs, hxs, h⟩ := Except.bind_eq_ok.1 h
      cases h
      exact ⟨hd.rrule, hd.exrule, hd.rdates, addStamps_nodup hxs hd.exdates⟩
  · -- a bare rule body on the first line
    split_ifs at h
    obtain ⟨r, hr, h⟩ := Except.bind_eq_ok.1 h
    cases h
    exact ⟨fun r' h' => Option.some.inj h' ▸ Rule.wellFormed_of_ofBody hr, hd.exrule, hd.rdates,
      hd.exdates⟩

theorem Definition.sound_of_ofText {text : String} {d : Definition}
    (h : Definition.ofText text = .ok d) : d.Sound := by
  simp only [Definition.ofText] at h
  obtain ⟨⟨e, b⟩, hfold, h⟩ := Except.bind_eq_ok.1 h
  cases h
  refine foldlM_invariant (fun acc : Definition × Bool => acc.1.Sound) ?_
    ⟨by simp, by simp, List.nodup_nil, List.nodup_nil⟩ hfold
  intro acc line _ acc' hacc hstep
  obtain ⟨d', hadd, hstep⟩ := Except.bind_eq_ok.1 hstep
  cases hstep
  exact hacc.addLine hadd

/-- The canonical text of a definition read from text reads back as that definition exactly
when all its dates are compact. -/
theorem Definition.ofText_render_iff {text : String} {d : Definition}
    (h : Definition.ofText text = .ok d) :
    Definition.ofText d.render = .ok d ↔ ∀ s ∈ d.rdates ++ d.exdates, s.Compact :=
  ⟨Definition.compact_of_ofText_render, Definition.ofText_render (Definition.sound_of_ofText h)⟩

theorem Definition.ofText_render_iff_weekly :
    Definition.ofText (Definition.render ⟨some (Rule.every .weekly), none, [.date ⟨2024, 3, 1⟩],
        [.date ⟨2024, 4, 5⟩]⟩) =
        .ok ⟨some (Rule.every .weekly), none, [.date ⟨2024, 3, 1⟩], [.date ⟨2024, 4, 5⟩]⟩ ∧
      (Definition.ofText (Definition.render ⟨some (Rule.every .weekly), none, [.date ⟨2024, 3, 1⟩],
        [.date ⟨2024, 4, 5⟩]⟩) =
        .ok ⟨some (Rule.every .weekly), none, [.date ⟨2024, 3, 1⟩], [.date ⟨2024, 4, 5⟩]⟩ ↔
        ∀ s ∈ [Stamp.date ⟨2024, 3, 1⟩] ++ [Stamp.date ⟨2024, 4, 5⟩], s.Compact) := by
  have hwf : (Rule.every .weekly).WellFormed := by
    refine ⟨⟨?_, ?_, ?_, ?_, ?_, ?_, ?_, ?_⟩, ?_, ?_⟩ <;>
      simp [Rule.every, SortedIn, InRange, Bound.WellFormed, Rule.FitsFrequency]
  have hcompact : ∀ s ∈ [Stamp.date ⟨2024, 3, 1⟩] ++ [Stamp.date ⟨2024, 4, 5⟩], s.Compact := by
    simp only [List.cons_append, List.nil_append, List.mem_cons, List.not_mem_nil, or_false,
      forall_eq_or_imp, forall_eq]
    constructor <;> (unfold Stamp.Compact Date.Compact Date.Valid monthLength; decide)
  have hsound : Definition.Sound ⟨some (Rule.every .weekly), none, [.date ⟨2024, 3, 1⟩],
      [.date ⟨2024, 4, 5⟩]⟩ :=
    ⟨fun r hr => Option.some.inj hr ▸ hwf, (fun _ hr => by cases hr), by simp, by simp⟩
  have h := Definition.ofText_render hsound hcompact
  exact ⟨h, Definition.ofText_render_iff h⟩

end Cadence
