/-!
Passing over a list with steps that can fail. Where a step goes well exactly as long as the list
stays sound, the whole pass does, and otherwise it fails at the first entry that does not fit.
-/

set_option autoImplicit false

namespace TaxonomyQuery

variable {σ α ε : Type} {step : σ → α → Except ε σ} {state after : σ} {done rest : List α}

theorem foldlM_cons_eq_ok_iff {entry : α} :
    (entry :: rest).foldlM step state = .ok after ↔
      ∃ next, step state entry = .ok next ∧ rest.foldlM step next = .ok after := by
  rw [List.foldlM_cons]
  cases step state entry <;> simp [bind, Except.bind]

/-- The pass fails where the first step does, and everything before that has gone well. -/
theorem foldlM_eq_error_iff {error : ε} :
    rest.foldlM step state = .error error ↔
      ∃ before entry behind between, rest = before ++ entry :: behind ∧
        before.foldlM step state = .ok between ∧ step between entry = .error error := by
  induction rest generalizing state with
  | nil => simp [pure, Except.pure]
  | cons first rest ih =>
    rw [List.foldlM_cons]
    cases outcome : step state first with
    | error found =>
      constructor
      · intro failed
        exact ⟨[], first, rest, state, rfl, rfl, outcome.trans failed⟩
      · rintro ⟨_ | ⟨_, before⟩, entry, behind, between, split, passed, failed⟩
        · cases split
          cases passed
          exact outcome.symm.trans failed
        · cases split
          obtain ⟨next, well, _⟩ := foldlM_cons_eq_ok_iff.mp passed
          cases outcome.symm.trans well
    | ok next =>
      refine Iff.trans ih ?_
      constructor
      · rintro ⟨before, entry, behind, between, rfl, passed, failed⟩
        exact ⟨first :: before, entry, behind, between, rfl,
          foldlM_cons_eq_ok_iff.mpr ⟨next, outcome, passed⟩, failed⟩
      · rintro ⟨_ | ⟨_, before⟩, entry, behind, between, split, passed, failed⟩
        · cases split
          cases passed
          cases outcome.symm.trans failed
        · cases split
          obtain ⟨other, well, others⟩ := foldlM_cons_eq_ok_iff.mp passed
          cases outcome.symm.trans well
          exact ⟨before, entry, behind, between, rfl, others, failed⟩

/-- The state of the pass holds what has been passed, as long as that is sound, and of an entry that
does not fit it is known why. -/
structure Tracks (step : σ → α → Except ε σ) (holds : σ → List α → Prop) (sound : List α → Prop)
    (fault : List α → α → ε → Prop) : Prop where
  kept : ∀ {state next done entry}, holds state done → step state entry = .ok next →
    holds next (done ++ [entry])
  possible : ∀ {state done entry}, holds state done → sound done →
    ((∃ next, step state entry = .ok next) ↔ sound (done ++ [entry]))
  refused : ∀ {state done entry error}, holds state done →
    (step state entry = .error error ↔ fault done entry error)
  of_append : ∀ {done rest}, sound (done ++ rest) → sound done

namespace Tracks

variable {holds : σ → List α → Prop} {sound : List α → Prop} {fault : List α → α → ε → Prop}
  (tracks : Tracks step holds sound fault)

include tracks

theorem foldlM_holds (start : holds state done) (passed : rest.foldlM step state = .ok after) :
    holds after (done ++ rest) := by
  induction rest generalizing state done with
  | nil =>
    cases passed
    simpa using start
  | cons entry rest ih =>
    obtain ⟨next, first, others⟩ := foldlM_cons_eq_ok_iff.mp passed
    have both := ih (tracks.kept start first) others
    rwa [List.append_assoc] at both

theorem exists_foldlM_iff (start : holds state done) (well : sound done) :
    (∃ after, rest.foldlM step state = .ok after) ↔ sound (done ++ rest) := by
  induction rest generalizing state done with
  | nil => simpa [pure, Except.pure] using well
  | cons entry rest ih =>
    have split : done ++ entry :: rest = done ++ [entry] ++ rest := by simp
    simp only [foldlM_cons_eq_ok_iff]
    constructor
    · rintro ⟨after, next, first, others⟩
      have longer := (tracks.possible start well).mp ⟨next, first⟩
      exact split ▸ (ih (tracks.kept start first) longer).mp ⟨after, others⟩
    · intro all
      have longer : sound (done ++ [entry]) := tracks.of_append (split ▸ all)
      obtain ⟨next, first⟩ := (tracks.possible start well).mpr longer
      obtain ⟨after, others⟩ := (ih (tracks.kept start first) longer).mpr (split ▸ all)
      exact ⟨after, next, first, others⟩

/-- The pass fails at the first entry that does not fit what comes before it. -/
theorem foldlM_eq_error_iff (start : holds state []) (well : sound []) {error : ε} :
    rest.foldlM step state = .error error ↔
      ∃ before entry behind, rest = before ++ entry :: behind ∧ sound before ∧
        fault before entry error := by
  rw [TaxonomyQuery.foldlM_eq_error_iff]
  constructor
  · rintro ⟨before, entry, behind, between, split, passed, failed⟩
    have held := tracks.foldlM_holds start passed
    have fine := (tracks.exists_foldlM_iff start well).mp ⟨between, passed⟩
    exact ⟨before, entry, behind, split, fine, (tracks.refused held).mp failed⟩
  · rintro ⟨before, entry, behind, split, fine, faulty⟩
    obtain ⟨between, passed⟩ := (tracks.exists_foldlM_iff start well).mpr fine
    have held := tracks.foldlM_holds start passed
    exact ⟨before, entry, behind, between, split, passed, (tracks.refused held).mpr faulty⟩

end Tracks

end TaxonomyQuery
