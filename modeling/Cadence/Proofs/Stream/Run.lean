import Cadence.Proofs.Walk.Truncation
/-!
# Runs of a source

A source pulled until it stops gives a list of values and stops either at its end or with a
calendar error. `Source.Run s xs r` says that `s` gives the values `xs` and then stops, `r` being
the error it stops with, if any. A run is unique, the first `n` values a source gives are the first
`n` of its run, and a source that stops within a known number of pulls has a run.
-/
namespace Cadence

namespace Source

variable {σ α : Type} [Source σ α]

/-- The values a source gives when pulled until it stops, and the error it stops with. -/
inductive Run : σ → List α → Option CalendarError → Prop
  | stop {s : σ} : next? s = .ok none → Run s [] none
  | fail {s : σ} {e : CalendarError} : next? s = .error e → Run s [] (some e)
  | give {s s' : σ} {a : α} {xs : List α} {r : Option CalendarError} :
      next? s = .ok (some (a, s')) → Run s' xs r → Run s (a :: xs) r

variable {s : σ} {xs ys : List α} {r r' : Option CalendarError}

theorem Run.unique (h : Run s xs r) (h' : Run s ys r') : xs = ys ∧ r = r' := by
  induction h generalizing ys r' with
  | stop hs =>
    cases h' with
    | stop _ => exact ⟨rfl, rfl⟩
    | fail he => rw [hs] at he; cases he
    | give hg _ => rw [hs] at hg; cases hg
  | fail hs =>
    cases h' with
    | stop hn => rw [hs] at hn; cases hn
    | fail he =>
      rw [hs] at he
      cases he
      exact ⟨rfl, rfl⟩
    | give hg _ => rw [hs] at hg; cases hg
  | give hs _ ih =>
    cases h' with
    | stop hn => rw [hs] at hn; cases hn
    | fail he => rw [hs] at he; cases he
    | give hg hrest =>
      rw [hs] at hg
      simp only [Except.ok.injEq, Option.some.injEq, Prod.mk.injEq] at hg
      obtain ⟨rfl, rfl⟩ := hg
      obtain ⟨rfl, rfl⟩ := ih hrest
      exact ⟨rfl, rfl⟩

theorem Run.cons_inv {a : α} (h : Run s (a :: xs) r) :
    ∃ s', next? s = .ok (some (a, s')) ∧ Run s' xs r := by
  cases h with
  | give hs hrest => exact ⟨_, hs, hrest⟩

theorem Run.nil_inv (h : Run s [] none) : next? s = .ok none := by
  cases h with
  | stop hs => exact hs

theorem Run.given_eq (h : Run s xs r) (n : Nat) : given s n = xs.take n := by
  induction h generalizing n with
  | stop hs => cases n <;> simp [given_succ_of_none hs]
  | fail hs => cases n <;> simp [given_succ_of_error hs]
  | give hs _ ih =>
    cases n with
    | zero => rfl
    | succ n => rw [given_succ_of_some hs, ih, List.take_succ_cons]

theorem Run.mem_given (h : Run s xs r) {a : α} (ha : a ∈ xs) : a ∈ given s xs.length := by
  rw [h.given_eq, List.take_length]
  exact ha

theorem Run.take_of_lt (h : Run s xs r) {n : Nat} (hn : xs.length < n) :
    take s n = r.elim (.ok xs) .error := by
  induction h generalizing n with
  | stop hs =>
    obtain ⟨n, rfl⟩ : ∃ m, n = m + 1 := ⟨n - 1, by simp at hn; omega⟩
    exact take_succ_of_none hs n
  | fail hs =>
    obtain ⟨n, rfl⟩ : ∃ m, n = m + 1 := ⟨n - 1, by simp at hn; omega⟩
    exact take_succ_of_error hs n
  | @give _ _ _ _ r hs _ ih =>
    obtain ⟨n, rfl⟩ : ∃ m, n = m + 1 := ⟨n - 1, by simp at hn; omega⟩
    rw [take_succ_of_some hs, ih (by simpa using hn)]
    cases r <;> rfl

theorem exists_run_of_given {n : Nat} : ∀ {s : σ}, (given s n).length < n → ∃ xs r, Run s xs r := by
  induction n with
  | zero => simp
  | succ n ih =>
    intro s h
    cases hs : next? s with
    | error e => exact ⟨[], some e, .fail hs⟩
    | ok o =>
      cases o with
      | none => exact ⟨[], none, .stop hs⟩
      | some p =>
        obtain ⟨a, s'⟩ := p
        rw [given_succ_of_some hs, List.length_cons] at h
        obtain ⟨xs, r, hr⟩ := ih (s := s') (by omega)
        exact ⟨a :: xs, r, .give hs hr⟩

theorem run_of_take {n : Nat} (h : take s n = .ok xs) (hn : xs.length < n) : Run s xs none := by
  have hg := given_of_take h
  obtain ⟨ys, r, hr⟩ := exists_run_of_given (n := n) (s := s) (by rw [hg]; exact hn)
  rw [hr.given_eq] at hg
  -- the run is shorter than `n`, so taking `n` of it takes all of it
  have hys : ys.length < n := by
    by_contra hge
    have hlen := List.length_take_of_le (l := ys) (Nat.le_of_not_lt hge)
    rw [hg] at hlen
    omega
  rw [List.take_of_length_le (Nat.le_of_lt hys)] at hg
  subst hg
  have ht := hr.take_of_lt hys
  rw [h] at ht
  cases r with
  | none => exact hr
  | some e => cases ht

theorem Run.forall (P : σ → Prop) (Q : α → Prop)
    (hstep : ∀ s a s', P s → next? s = .ok (some (a, s')) → Q a ∧ P s') (h : Run s xs r)
    (hs : P s) : ∀ a ∈ xs, Q a :=
  fun _ ha => forall_given P Q hstep _ s hs _ (h.mem_given ha)

/-- A property every step keeps under which a source that runs to its end gives no more values
than `remaining` says: what makes `remaining` enough fuel for the loops that pull. -/
structure Bounded (I : σ → Prop) : Prop where
  step : ∀ {s a s'}, I s → next? s = .ok (some (a, s')) → I s'
  fits : ∀ {s xs}, I s → Run s xs none → xs.length ≤ remaining s

theorem takeWhileOnto_true (acc : List α) (s : σ) (n : Nat) :
    takeWhileOnto (fun _ => true) acc s n = takeOnto acc s n := by
  induction n generalizing acc s with
  | zero => rfl
  | succ n ih =>
    cases h : next? s with
    | error e => simp [takeWhileOnto, takeOnto, h]
    | ok o =>
      cases o with
      | none => simp [takeWhileOnto, takeOnto, h]
      | some p => simp [takeWhileOnto, takeOnto, h, ih]

theorem Run.toList_eq {I : σ → Prop} (hB : Bounded I) (hs : I s) (h : Run s xs none) :
    toList s = .ok xs := by
  have hfit := hB.fits hs h
  have htake := h.take_of_lt (n := remaining s + 1) (by omega)
  rw [toList, takeWhile, takeWhileFuel, takeWhileOnto_true]
  exact htake

/-- Pulling values from a source until it stops, it stops: it has a run. -/
def Stops (s : σ) : Prop := ∃ xs r, Run s xs r

theorem stops_of_rank (R : σ → Nat → Prop)
    (hstep : ∀ {s n a s'}, R s n → next? s = .ok (some (a, s')) → ∃ m < n, R s' m) :
    ∀ {n : Nat} {s : σ}, R s n → Stops s := by
  intro n
  induction n using Nat.strong_induction_on with
  | _ n ih =>
    intro s hs
    cases h : next? s with
    | error e => exact ⟨[], some e, .fail h⟩
    | ok o =>
      cases o with
      | none => exact ⟨[], none, .stop h⟩
      | some p =>
        obtain ⟨a, s'⟩ := p
        obtain ⟨m, hm, hs'⟩ := hstep hs h
        obtain ⟨xs, r, hrun⟩ := ih m hm hs'
        exact ⟨a :: xs, r, .give h hrun⟩

/-- Under `I`, a source gives no more values than `remaining` says, whether it ends or fails. -/
def Fits (I : σ → Prop) : Prop := ∀ {s xs r}, I s → Run s xs r → xs.length ≤ remaining s

end Source

theorem Source.run_list {α : Type} : ∀ l : List α, Source.Run l l none
  | [] => .stop rfl
  | _ :: l => .give rfl (Source.run_list l)

theorem Source.fits_list {α : Type} : Source.Fits (σ := List α) fun _ => True := fun {l _ _} _ h => by
  obtain ⟨rfl, -⟩ := (Source.run_list l).unique h
  exact Nat.le_refl _

theorem Source.bounded_list {α : Type} : Source.Bounded (σ := List α) fun _ => True :=
  ⟨fun _ _ => trivial, fun h hr => Source.fits_list h hr⟩

end Cadence
