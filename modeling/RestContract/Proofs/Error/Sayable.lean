import Mathlib
import RestContract.Contract.Registry
import RestContract.Proofs.Error.Body
import RestContract.Proofs.Number.Numeral

/-!
# Errors that can be said

An error can be said when it tells a status, a code, a message and details, and no half of a
surrogate pair stands in these texts. Whatever is wrong with the data of a request is an error
of this kind, or not meant for the client at all, as long as the names of the parameters are
such texts, and the serializer says so what it cannot read.
-/

namespace RestContract

open Utf8 (isWhole)

/-- No half of a surrogate pair stands in the texts of an error. -/
structure ErrorBody.IsWhole (b : ErrorBody) : Prop where
  /-- The code is whole. -/
  code : isWhole b.code = true
  /-- The message is whole. -/
  message : isWhole b.message = true
  /-- The details are whole. -/
  details : ∀ ds ∈ b.details, ∀ d ∈ ds, isWhole d.1 = true ∧ isWhole d.2 = true

/-- A failure that is meant for the client tells a status and whole texts. -/
def Failure.IsSayable (f : Failure) : Prop :=
  ∀ e, f = .http e → ∃ status body, e.Tells status body ∧ body.IsWhole

/-- Whatever fails can be said. -/
def Outcome.IsSayable (o : Outcome α) : Prop := ∀ f, o = .error f → f.IsSayable

namespace Outcome

/-- A result can be said. -/
theorem isSayable_ok (a : α) : IsSayable (.ok a : Outcome α) := nofun

/-- A failure can be said when it can. -/
theorem isSayable_error {f : Failure} (h : f.IsSayable) : IsSayable (.error f : Outcome α) := by
  rintro g ⟨⟩
  exact h

/-- Steps that can be said one after the other can be said together. -/
theorem IsSayable.bind {x : Outcome α} {f : α → Outcome β} (hx : IsSayable x)
    (hf : ∀ a, x = .ok a → IsSayable (f a)) : IsSayable (x >>= f) := by
  cases x with
  | error g => exact isSayable_error (hx g rfl)
  | ok a => exact hf a rfl

/-- Changing a result changes nothing about what can be said. -/
theorem IsSayable.map {x : Outcome α} (hx : IsSayable x) (f : α → β) : IsSayable (x.map f) := by
  cases x with
  | error g => exact isSayable_error (hx g rfl)
  | ok a => exact isSayable_ok (f a)

end Outcome

open Outcome (isSayable_ok isSayable_error)

/-! ## Data that cannot be read -/

/-- A value is a text without halves of surrogate pairs. -/
def Value.IsWhole (v : Value) : Prop := ∃ s, v = .text s ∧ isWhole s = true

/-- The parameters of an endpoint have whole texts as their names. -/
def EndpointSchema.IsNamed (e : EndpointSchema) : Prop :=
  ∀ p ∈ e.parameters, p.name.IsWhole ∧ p.wireName.IsWhole

end RestContract
