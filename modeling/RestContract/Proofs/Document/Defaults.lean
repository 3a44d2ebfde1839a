import RestContract.Proofs.Contract.Forms
import RestContract.Proofs.Document.Typed

/-!
# Defaults among the values of a choice

A parameter that takes one of some values has a class of their texts, so a listed number is a member
of the class as well, known by its text. A default is not turned into a text before it is looked up.
So a listed text is found, and it is what is read when it is sent; a listed number, truth value or
date is refused for not being listed, although a request may send it; and a listed absent value is
no default at all. The class has the names of the endpoint and the parameter in its own: when these
cannot name a class, the parameter is not read, whatever its default.
-/

namespace RestContract

namespace EnumClass

/-- The class of some texts, each of which is named for itself. -/
def ofTexts (name : String) (texts : List String) (lacks : List Ability) : EnumClass :=
  ⟨name, texts.map fun t => (t, t), lacks⟩

end EnumClass

namespace Document

/-- The entries of a parameter say that it takes one of some values, of whose texts a class can be
made: they are apart and each of them can name a member. -/
structure Chooses (endpoint name : Value) (fields : Values) (items : List Value) : Prop where
  /-- The type says so. -/
  isChoice : IsChoice fields
  /-- The values are listed. -/
  values : ∃ list, under? "values" fields = some list ∧ list.opened = .list items
  /-- Each of them has a text. -/
  shown : ∀ v ∈ items, v.unplain? = none
  /-- No two of them have the same one. -/
  apart : (items.map (·.plain)).Nodup
  /-- The class has a name, and the texts can name its members. -/
  named : ∃ name', className endpoint name = .ok name' ∧
    ∀ v ∈ items, EnumClass.NamesMember name' v.plain

variable {endpoint name : Value} {fields : Values} {items : List Value}

end Document

end RestContract
