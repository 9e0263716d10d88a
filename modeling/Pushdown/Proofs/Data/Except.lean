/-!
# Results that may be errors

When a computation that is made of parts returns a value, and when it fails, is said
by what its parts return.  Nothing in here is about automata: these are equations
between results, by which functions that return them can be taken apart.
-/

namespace Except

variable
  {ε ζ α β : Type}

theorem bind_eq_ok_iff
    {result : Except ε α}
    {next : α → Except ε β}
    {value : β} :
    result >>= next = .ok value ↔ ∃ middle, result = .ok middle ∧ next middle = .ok value := by
  cases result <;> simp [bind, Except.bind]

theorem bind_eq_error_iff
    {result : Except ε α}
    {next : α → Except ε β}
    {fault : ε} :
    result >>= next = .error fault ↔
      result = .error fault ∨ ∃ middle, result = .ok middle ∧ next middle = .error fault := by
  cases result <;> simp [bind, Except.bind]

theorem pure_eq_ok_iff
    {value other : α} :
    (pure value : Except ε α) = .ok other ↔ value = other := by
  simp [pure, Except.pure]

theorem map_eq_ok_iff
    {result : Except ε α}
    {change : α → β}
    {value : β} :
    result.map change = .ok value ↔ ∃ origin, result = .ok origin ∧ change origin = value := by
  cases result <;> simp [Except.map]

theorem mapError_eq_ok_iff
    {result : Except ε α}
    {change : ε → ζ}
    {value : α} :
    result.mapError change = .ok value ↔ result = .ok value := by
  cases result with
  | ok origin =>
      constructor
      · intro same
        exact congrArg ok (ok.inj same)
      · intro same
        exact congrArg ok (ok.inj same)
  | error origin => exact ⟨nofun, nofun⟩

theorem mapError_eq_error_iff
    {result : Except ε α}
    {change : ε → ζ}
    {fault : ζ} :
    result.mapError change = .error fault ↔
      ∃ origin, result = .error origin ∧ change origin = fault := by
  cases result with
  | ok value => exact ⟨nofun, nofun⟩
  | error origin =>
      constructor
      · intro same
        exact ⟨origin, rfl, error.inj same⟩
      · rintro ⟨other, same, rfl⟩
        cases same
        rfl

/-- A result that passes a test is there, and passes it. -/
theorem exists_eq_ok_of_any
    (result : Except ε α)
    (test : α → Bool)
    (passed : result.toOption.any test = true) :
    ∃ value, result = .ok value ∧ test value = true := by
  cases result with
  | error problem => simp [Except.toOption] at passed
  | ok value => exact ⟨value, rfl, by simpa [Except.toOption] using passed⟩

end Except
