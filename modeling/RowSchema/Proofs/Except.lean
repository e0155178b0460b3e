/-!
# Computations that may fail

Success of a computation that is made of others, as equivalences, so that later proofs take a result
apart without opening the monad.

## Main results

* `map_eq_ok_iff`, `bind_eq_ok_iff` — success, for the two ways to go on with a result
* `exists_fst_of_map_eq_ok` — what is handed on, whatever comes with it
* `throw_bind_ne_ok` — no success after an error
* `mapError_eq_ok_iff` — success, with the errors reworded
* `toOption_map`, `toOption_bind` — the result, if there is one
* `toOption_eq_of_ok_iff` — computations that succeed alike
-/

namespace RowSchema

variable {ε ε' α β : Type}

theorem map_eq_ok_iff {x : Except ε α} {f : α → β} {b : β} :
    x.map f = .ok b ↔ ∃ a, x = .ok a ∧ f a = b := by
  cases x <;> simp [Except.map]

/-- A result that is handed on with something beside it. -/
theorem exists_fst_of_map_eq_ok {γ : Type} {x : Except ε α} {f : α → β × γ} {b : β} {c : γ}
    (h : x.map f = .ok (b, c)) : ∃ a, x = .ok a ∧ (f a).1 = b := by
  obtain ⟨a, ha, hfa⟩ := map_eq_ok_iff.1 h
  exact ⟨a, ha, congrArg Prod.fst hfa⟩

theorem bind_eq_ok_iff {x : Except ε α} {f : α → Except ε β} {b : β} :
    (x >>= f) = .ok b ↔ ∃ a, x = .ok a ∧ f a = .ok b := by
  cases x <;> simp [bind, Except.bind]

theorem throw_bind_ne_ok (e : ε) (f : α → Except ε β) (b : β) : (throw e >>= f) ≠ .ok b :=
  nofun

theorem mapError_eq_ok_iff {x : Except ε α} {f : ε → ε'} {a : α} :
    x.mapError f = .ok a ↔ x = .ok a := by
  cases x with
  | error e => exact iff_of_false nofun nofun
  | ok b => exact ⟨fun h => Except.ok.inj h ▸ rfl, fun h => Except.ok.inj h ▸ rfl⟩

theorem toOption_eq_some_iff {x : Except ε α} {a : α} : x.toOption = some a ↔ x = .ok a := by
  cases x <;> simp [Except.toOption]

theorem toOption_map (x : Except ε α) (f : α → β) : (x.map f).toOption = x.toOption.map f := by
  cases x <;> rfl

theorem toOption_bind (x : Except ε α) (f : α → Except ε β) :
    (x >>= f).toOption = x.toOption.bind fun a => (f a).toOption := by
  cases x <;> rfl

/-- Computations that succeed alike are the same but for their errors. -/
theorem toOption_eq_of_ok_iff {x : Except ε α} {y : Except ε' α}
    (h : ∀ a, x = .ok a ↔ y = .ok a) : x.toOption = y.toOption :=
  Option.ext fun a => by rw [toOption_eq_some_iff, toOption_eq_some_iff, h a]

end RowSchema
