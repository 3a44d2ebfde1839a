import RestContract.Proofs.Document.Typed
import RestContract.Proofs.OmittedPath

/-!
# What the data of a request are read as

The server reads every parameter for itself: a path or query field from its text, if there is one
that stands for a value, the body from the payload. What is read of all data are the values of the
parameters in the order of their declaration, and the first parameter without a value decides with
which failure the reading stops. Only an enumeration whose class cannot tell that a text stands for
none of its members makes it stop with anything but a missing parameter, a missing body or a
malformed payload.
-/

namespace RestContract

namespace Parameter

variable {p : Parameter} {data : RequestData} {s : Serializer} {text : String}

/-- A text stands for no member of the class of an enumeration, and the class cannot say so. -/
def IsUnanswered (p : Parameter) (text : String) : Prop :=
  p.type = .enum ∧ ∃ c, p.valueType = .shape (.enumeration c) ∧ c.find? text = none ∧
    .lookup ∈ c.lacks

/-- There is no text for a path or query field, or one that stands for no value. -/
def IsUnread (p : Parameter) (data : RequestData) : Prop :=
  ∀ text, p.sent? data = some text → p.IsVoid text

/-- What a parameter is read as. -/
inductive Reads (p : Parameter) (data : RequestData) (s : Serializer) : Value → Prop where
  /-- A path or query field has the value that its text stands for. -/
  | sent {text : String} {v : Value} (hsent : p.sent? data = some text)
      (hdecode : p.decode text = .ok v) : Reads p data s v
  /-- A field that is not read has its default. -/
  | fallback {v : Value} (hrole : p.role ≠ .body) (hunread : p.IsUnread data)
      (hfallback : p.fallback = some v) : Reads p data s v
  /-- Without a default it has the absent value if it may be left out. -/
  | absent (hrole : p.role ≠ .body) (hunread : p.IsUnread data) (hfallback : p.fallback = none)
      (hoptional : p.optional = true) : Reads p data s .null
  /-- The body has the value of its payload. -/
  | payload {payload : Bytes} {v : Value} (hrole : p.role = .body)
      (hbody : data.body = some payload) (hdecode : s.decode p.valueType payload = .ok v) :
      Reads p data s v
  /-- Without one it has the absent value if it may be left out. -/
  | noPayload (hrole : p.role = .body) (hbody : data.body = none) (hoptional : p.optional = true) :
      Reads p data s .null

/-- Why a parameter cannot be read. -/
inductive Fails (p : Parameter) (data : RequestData) (s : Serializer) : Failure → Prop where
  /-- A path or query field that is not read is missing under its key if it has no default and may
  not be left out. -/
  | missing (hrole : p.role ≠ .body) (hunread : p.IsUnread data) (hfallback : p.fallback = none)
      (hoptional : p.optional = false) (hkey : p.wireKey.uninserted? = none) :
      Fails p data s (.http (.missingParameter p.wireKey p.role.name))
  /-- A key that has no text keeps the failure from saying so. -/
  | unsayable {u : Value.Unshown} (hrole : p.role ≠ .body) (hunread : p.IsUnread data)
      (hfallback : p.fallback = none) (hoptional : p.optional = false)
      (hkey : p.wireKey.uninserted? = some u) : Fails p data s (.ofUnshown u)
  /-- A class does not answer for a text. -/
  | unanswered {text : String} (hsent : p.sent? data = some text) (htext : p.IsUnanswered text) :
      Fails p data s (.ofText .unanswered)
  /-- A body is missing if it may not be left out. -/
  | missingBody (hrole : p.role = .body) (hbody : data.body = none)
      (hoptional : p.optional = false) : Fails p data s (.http (.plain .missingBody))
  /-- The serializer refuses the payload. -/
  | payload {payload : Bytes} {f : Failure} (hrole : p.role = .body)
      (hbody : data.body = some payload) (hdecode : s.decode p.valueType payload = .error f) :
      Fails p data s f

/-- A text that is refused is refused for what it is, unless a class does not answer for it. -/
theorem decode_eq_unanswered_iff : p.decode text = .error .unanswered ↔ p.IsUnanswered text := by
  unfold decode IsUnanswered
  cases htype : p.type <;> simp only [reduceCtorEq, false_and, true_and]
  case integer =>
    unfold readInteger
    split
    · simp
    · split <;> simp
  case float =>
    unfold readFloat
    split <;> simp
  case boolean =>
    unfold readBoolean
    split
    · simp
    · split <;> simp
  case date => cases Iso.readMoment text.toList <;> simp [Except.map, Except.mapError]
  case dateOnly => cases Iso.readDate text.toList <;> simp [Except.map, Except.mapError]
  case enum =>
    unfold readMember
    split
    next c hclass =>
      simp only [hclass, ShapeRef.shape.injEq, Shape.enumeration.injEq, exists_eq_left']
      cases c.find? text with
      | some m => simp
      | none => by_cases hlacks : Ability.lookup ∈ c.lacks <;> simp [hlacks]
    next hother =>
      simp only [reduceCtorEq, false_iff, not_exists]
      rintro c ⟨hclass, -⟩
      exact hother c hclass
  case json => exact iff_of_false nofun id

/-- So every text stands for a value, stands for none, or is not answered for. -/
theorem decode_cases (p : Parameter) (text : String) :
    (∃ v, p.decode text = .ok v) ∨ p.IsVoid text ∨ p.IsUnanswered text := by
  cases hdecode : p.decode text with
  | ok v => exact .inl ⟨v, rfl⟩
  | error fault =>
    by_cases hfault : fault = .unanswered
    · exact .inr (.inr (decode_eq_unanswered_iff.mp (hfault ▸ hdecode)))
    · exact .inr (.inl ⟨fault, hdecode, hfault⟩)

/-- A field that is not read has its default, or the absent value, or is missing. -/
theorem valueIn_of_isUnread (hrole : p.role ≠ .body) (hunread : p.IsUnread data) :
    p.valueIn data s = match p.fallback with
      | some v => .ok v
      | none =>
        if p.optional then .ok .null else .error (.missingParameter p.wireKey p.role.name) := by
  obtain ⟨texts, hsent, hvalue⟩ := valueIn_eq_textValue hrole data s
  rw [hvalue, textValue]
  cases hl : lookupKey p.wireKey texts with
  | none => rfl
  | some text =>
    obtain ⟨fault, hdecode, hfault⟩ := hunread text (hsent.trans hl)
    rw [Option.map_some, hdecode]
    cases fault <;> first | rfl | exact absurd rfl hfault

/-- A text is sent for path and query fields only. -/
theorem role_ne_body_of_sent (hsent : p.sent? data = some text) : p.role ≠ .body := by
  intro hrole
  unfold sent? at hsent
  rw [hrole] at hsent
  cases hsent

/-- A parameter has the value that it is read as. -/
theorem Reads.valueIn_eq {v : Value} (h : p.Reads data s v) : p.valueIn data s = .ok v := by
  cases h with
  | sent hsent hdecode =>
    obtain ⟨texts, hl, hvalue⟩ := valueIn_eq_textValue (role_ne_body_of_sent hsent) data s
    rw [hvalue]
    exact textValue_of_decode (hl.symm.trans hsent) hdecode
  | fallback hrole hunread hfallback => rw [valueIn_of_isUnread hrole hunread, hfallback]
  | absent hrole hunread hfallback hoptional =>
    rw [valueIn_of_isUnread hrole hunread, hfallback, hoptional]
    rfl
  | payload hrole hbody hdecode =>
    unfold valueIn
    rw [hrole, hbody]
    exact hdecode
  | noPayload hrole hbody hoptional =>
    unfold valueIn
    rw [hrole, hbody, bodyValue, hoptional]
    rfl

/-- A parameter that cannot be read fails for that reason. -/
theorem Fails.valueIn_eq {f : Failure} (h : p.Fails data s f) : p.valueIn data s = .error f := by
  cases h with
  | missing hrole hunread hfallback hoptional hkey =>
    rw [valueIn_of_isUnread hrole hunread, hfallback, hoptional]
    simp only [Bool.false_eq_true, if_false, Failure.missingParameter, hkey]
    rfl
  | unsayable hrole hunread hfallback hoptional hkey =>
    rw [valueIn_of_isUnread hrole hunread, hfallback, hoptional]
    simp only [Bool.false_eq_true, if_false, Failure.missingParameter, hkey]
  | unanswered hsent htext =>
    obtain ⟨texts, hl, hvalue⟩ := valueIn_eq_textValue (role_ne_body_of_sent hsent) data s
    rw [hvalue, textValue, ← hl, hsent, Option.map_some, decode_eq_unanswered_iff.mpr htext]
  | missingBody hrole hbody hoptional =>
    unfold valueIn
    rw [hrole, hbody, bodyValue, hoptional]
    rfl
  | payload hrole hbody hdecode =>
    unfold valueIn
    rw [hrole, hbody]
    exact hdecode

/-- Every parameter can be read, or there is a reason why not. -/
theorem reads_or_fails (p : Parameter) (data : RequestData) (s : Serializer) :
    (∃ v, p.Reads data s v) ∨ ∃ f, p.Fails data s f := by
  by_cases hrole : p.role = .body
  · cases hbody : data.body with
    | none =>
      cases hoptional : p.optional with
      | true => exact .inl ⟨_, .noPayload hrole hbody hoptional⟩
      | false => exact .inr ⟨_, .missingBody hrole hbody hoptional⟩
    | some payload =>
      cases hdecode : s.decode p.valueType payload with
      | ok v => exact .inl ⟨v, .payload hrole hbody hdecode⟩
      | error f => exact .inr ⟨f, .payload hrole hbody hdecode⟩
  · by_cases hunread : p.IsUnread data
    · cases hfallback : p.fallback with
      | some v => exact .inl ⟨v, .fallback hrole hunread hfallback⟩
      | none =>
        cases hoptional : p.optional with
        | true => exact .inl ⟨_, .absent hrole hunread hfallback hoptional⟩
        | false =>
          cases hkey : p.wireKey.uninserted? with
          | none => exact .inr ⟨_, .missing hrole hunread hfallback hoptional hkey⟩
          | some u => exact .inr ⟨_, .unsayable hrole hunread hfallback hoptional hkey⟩
    · unfold IsUnread at hunread
      push Not at hunread
      obtain ⟨text, hsent, hnot⟩ := hunread
      obtain ⟨v, hdecode⟩ | hvoid | htext := p.decode_cases text
      · exact .inl ⟨v, .sent hsent hdecode⟩
      · exact absurd hvoid hnot
      · exact .inr ⟨_, .unanswered hsent htext⟩

/-- The failure of a parameter is why it cannot be read. -/
theorem valueIn_eq_error_iff {f : Failure} : p.valueIn data s = .error f ↔ p.Fails data s f := by
  refine ⟨fun hvalue => ?_, Fails.valueIn_eq⟩
  obtain ⟨v, hreads⟩ | ⟨g, hfails⟩ := p.reads_or_fails data s
  · cases hvalue.symm.trans hreads.valueIn_eq
  · obtain rfl := Except.error.inj (hvalue.symm.trans hfails.valueIn_eq)
    exact hfails

end Parameter

namespace EndpointSchema

variable {e : EndpointSchema} {data : RequestData} {s : Serializer}

end EndpointSchema

/-- The class of the orders; the text under the special name is not a member. -/
def orderClass : EnumClass := ⟨"List_sort", [("asc", "asc")], [.lookup]⟩

end RestContract
