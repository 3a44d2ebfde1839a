import RestContract.Proofs.Endpoint.Decoding
import RestContract.Proofs.Number.Written

/-!
# What the client sends, the server can read

The text of a value of the declared type is read as some value of that type, whatever the value is,
with one exception: a floating-point number that is not finite has a text that is no numeral. Where
the texts of the client reach the server, it therefore reads every parameter, unless a required one
was given such a number. Nothing that was sent otherwise is missing. This takes moments whose year
has four digits, and classes of texts that can tell a default from their members.
-/

namespace RestContract

/-! ## Values of the declared types -/

/-- The text of a value for fields of its own type. -/
def Value.typedText : Value → Outcome String
  | .bool b => .ok (if b then "true" else "false")
  | .moment t => momentText (.moment t)
  | .date d => .ok d.text
  | .member m => .ok m.value
  | v => v.plainText

namespace Parameter

/-- A value of the type that a path or query field declares. -/
def HasType (p : Parameter) (v : Value) : Prop :=
  match p.type with
  | .string => ∃ s, v = .text s
  | .integer => ∃ n, v = .int n
  | .float => ∃ x, v = .float x
  | .boolean => ∃ b, v = .bool b
  | .date => ∃ t, v = .moment t
  | .dateOnly => ∃ d, v = .date d
  | .enum =>
    match p.valueType with
    | .shape (.enumeration c) =>
      ∃ m, v = .member m ∧ m.className = c.name ∧ (m.name, m.value) ∈ c.members
    | _ => ∃ s, v = .text s
  | .json => False

variable {p q : Parameter} {v : Value} {text : String}

/-- The text of a value of a declared type does not depend on the field. -/
theorem HasType.encode_eq (h : p.HasType v) : p.encode v = v.typedText := by
  unfold HasType at h
  unfold encode
  cases ht : p.type <;> simp only [ht] at h ⊢
  case string | integer | float | dateOnly =>
    obtain ⟨_, rfl⟩ := h
    rfl
  case boolean =>
    obtain ⟨b, rfl⟩ := h
    rfl
  case date =>
    obtain ⟨t, rfl⟩ := h
    rfl
  case enum =>
    split at h
    · obtain ⟨m, rfl, -⟩ := h
      rfl
    · obtain ⟨s, rfl⟩ := h
      rfl

private theorem readInteger_of_plainText {n : Int} (h : (Value.int n).plainText = .ok text) :
    readInteger text = .ok (.int n) := by
  by_cases hn : n.natAbs < 10 ^ Number.maxDigits
  · rw [Value.plainText_int hn] at h
    obtain rfl := Except.ok.inj h
    exact readInteger_toString hn
  · have hlong : Number.isWritable n = false := by simp [Number.isWritable, hn]
    simp [Value.plainText, Value.unplain?, Value.unquoted?, hlong, unlessUnshown] at h

/-- The text of a floating-point number is read exactly when the number is finite. -/
theorem exists_readFloat_iff {x : Float} (h : (Value.float x).plainText = .ok text) :
    (∃ w, readFloat text = .ok w) ↔ x.isFinite = true := by
  have htext : Number.Style.display.write x = text := by
    have hquoted : Value.quotedIn [] (.float x) = Number.Style.display.write x := by
      rw [Value.quotedIn]
    simpa [Value.plainText, Value.unplain?, Value.unquoted?, unlessUnshown, Value.plain,
      Value.quoted, hquoted] using h
  rw [← Number.isSome_ofText?_write_iff, htext]
  unfold readFloat
  cases Number.DecimalNumeral.ofText? text.toList <;> simp

/-- A number has the type of a field of numbers only. -/
theorem HasType.type_of_float {x : Float} (h : p.HasType (.float x)) : p.type = .float := by
  unfold HasType at h
  cases ht : p.type <;> simp only [ht] at h
  case float => rfl
  case enum =>
    split at h
    · obtain ⟨m, hm, -⟩ := h
      cases hm
    · obtain ⟨s, hs⟩ := h
      cases hs
  all_goals
    obtain ⟨_, hother⟩ := h
    cases hother

/-- The year of a moment has four digits in universal time. -/
def IsLate (v : Value) : Prop :=
  ∀ t u, v = .moment t → t.universal? = some u → 1000 ≤ u.date.year

/-- The text of a value of a declared type is read as some value, unless it is that of a
floating-point number which is not finite; that one is no numeral. -/
theorem HasType.exists_decode_iff (h : p.HasType v) (hlate : IsLate v)
    (he : p.encode v = .ok text) :
    ((∃ w, p.decode text = .ok w) ↔ ∀ x, v = .float x → x.isFinite = true) ∧
      p.decode text ≠ .error .unanswered := by
  have hread : (∃ w, p.decode text = .ok w) → (∀ x, v ≠ .float x) →
      ((∃ w, p.decode text = .ok w) ↔ ∀ x, v = .float x → x.isFinite = true) ∧
        p.decode text ≠ .error .unanswered := by
    rintro ⟨w, hw⟩ hv
    refine ⟨iff_of_true ⟨w, hw⟩ fun x hx => absurd hx (hv x), ?_⟩
    rw [hw]
    rintro ⟨⟩
  unfold HasType at h
  unfold encode at he
  cases ht : p.type <;> simp only [ht] at h he
  case string =>
    obtain ⟨s, rfl⟩ := h
    exact hread ⟨.text text, by simp only [decode, ht]⟩ (by rintro _ ⟨⟩)
  case integer =>
    obtain ⟨n, rfl⟩ := h
    exact hread ⟨.int n, by simp only [decode, ht, readInteger_of_plainText he]⟩ (by rintro _ ⟨⟩)
  case float =>
    obtain ⟨x, rfl⟩ := h
    have hfinite := exists_readFloat_iff he
    simp only [decode, ht]
    refine ⟨hfinite.trans (by simp), ?_⟩
    unfold readFloat
    split <;> rintro ⟨⟩
  case boolean =>
    obtain ⟨b, rfl⟩ := h
    obtain rfl : (if b then "true" else "false") = text := Except.ok.inj he
    exact hread ⟨.bool b, by simp only [decode, ht, readBoolean_text]⟩ (by rintro _ ⟨⟩)
  case date =>
    obtain ⟨t, rfl⟩ := h
    unfold Value.momentText at he
    cases hwire : t.wireText? with
    | none => simp [hwire] at he
    | some s =>
      simp only [hwire] at he
      obtain rfl := Except.ok.inj he
      obtain ⟨u, hu⟩ := Moment.exists_universal hwire
      obtain ⟨s', hs', hmoment⟩ := Moment.readMoment_of_universal hu (hlate t u rfl hu)
      obtain rfl := Option.some.inj (hwire.symm.trans hs')
      exact hread ⟨.moment u.toSecond, by simp only [decode, ht, hmoment]; rfl⟩ (by rintro _ ⟨⟩)
  case dateOnly =>
    obtain ⟨d, rfl⟩ := h
    obtain rfl : d.text = text := Except.ok.inj he
    exact hread ⟨.date d, by simp only [decode, ht, Iso.readDate_text]; rfl⟩ (by rintro _ ⟨⟩)
  case enum =>
    split at h
    next c hc =>
      obtain ⟨m, rfl, -, hm⟩ := h
      obtain rfl : m.value = text := Except.ok.inj he
      obtain ⟨found, hfound⟩ := EnumClass.exists_find? hm
      refine hread ⟨.member found, ?_⟩ (by rintro _ ⟨⟩)
      simp only [decode, ht, hc, readMember, hfound]
    next hplain =>
      obtain ⟨s, rfl⟩ := h
      refine hread ⟨.text text, ?_⟩ (by rintro _ ⟨⟩)
      simp only [decode, ht]
      unfold readMember
      split
      next c hc => exact absurd hc (hplain c)
      next => rfl

end Parameter

/-! ## What is sent is read -/

namespace Parameter

variable {p : Parameter} {values : Values} {key v : Value} {texts : List (Value × String)}

/-- A text is read as a value, or counts as missing where that is allowed. -/
def Finds (p : Parameter) (text : String) : Prop :=
  (∃ w, p.decode text = .ok w) ∨
    (p.decode text ≠ .error .unanswered ∧ (p.fallback = none → p.optional = true))

/-- A field is read when none of its text was sent, or when the text is read or may be missing. -/
theorem exists_textValue_iff {text? : Option String} (hsent : p.textFor key v = .ok text?)
    (hl : lookupKey key texts = text?) :
    (∃ w, p.textValue key texts = .ok w) ↔ ∀ text, text? = some text → p.Finds text := by
  cases text? with
  | none =>
    have ho : p.optional = true := by
      by_cases hnull : v.isNull = true
      · cases v with
        | null => exact (textFor_null hsent).1
        | _ => cases hnull
      · obtain ⟨text, -, hsome⟩ := encode_of_textFor (by simpa using hnull) hsent
        cases hsome
    exact iff_of_true ⟨_, textValue_of_none hl ho⟩ nofun
  | some text =>
    unfold textValue Finds
    rw [hl, Option.map_some]
    simp only [Option.some.injEq, forall_eq']
    cases p.decode text with
    | ok w => simp
    | error f =>
      -- Every fault but the unanswered one leaves the default, or the absent value.
      cases p.fallback with
      | some w => cases f <;> simp
      | none => cases p.optional <;> cases f <;> simp

/-- A field without a default, which may not be left out either, was not given a number that is not
finite. -/
def Readable (values : Values) (p : Parameter) : Prop :=
  p.fallback = none → p.optional = false → ∀ x, p.given values = .float x → x.isFinite = true

/-- What is sent for a field has a text of the usual form, which its type can tell from others. -/
structure IsOrdinary (values : Values) (p : Parameter) : Prop where
  /-- The year of a moment has four digits. -/
  late : IsLate (p.given values)
  /-- Where the default of a query field is sent, its class of texts can tell it from its members if
  none of them stands for it. -/
  answered : p.role = .query → lookupKey p.name values = none → ∀ w text, p.fallback = some w →
    p.encode w = .ok text → p.decode text ≠ .error .unanswered

/-- Every given value of a path or query field is of its type. -/
def Suits (values : Values) (p : Parameter) : Prop :=
  ∀ v, lookupKey p.name values = some v → v.isNull = false → p.HasType v

/-- The text of a value of its type is found to be one, or may be missing, unless the value is a
required number that is not finite. -/
theorem HasType.finds_iff {text : String} (h : p.HasType v) (hlate : IsLate v)
    (he : p.encode v = .ok text) :
    p.Finds text ↔ (p.fallback = none → p.optional = false → ∀ x, v = .float x →
      x.isFinite = true) := by
  obtain ⟨hread, hanswered⟩ := h.exists_decode_iff hlate he
  unfold Finds
  rw [hread]
  constructor
  · rintro (hfinite | ⟨-, ho⟩) hf hrequired
    · exact hfinite
    · rw [ho hf] at hrequired
      cases hrequired
  · intro hfinite
    by_cases hmissing : p.fallback = none → p.optional = true
    · exact .inr ⟨hanswered, hmissing⟩
    · rw [Classical.not_imp, Bool.not_eq_true] at hmissing
      exact .inl (hfinite hmissing.1 hmissing.2)

/-- The text of a given value is found exactly when the field is readable. -/
theorem Suits.readable_iff (h : p.Suits values) (hordinary : p.IsOrdinary values)
    (hv : lookupKey p.name values = some v) {key : Value} {text? : Option String}
    (hsent : p.textFor key v = .ok text?) :
    (∀ text, text? = some text → p.Finds text) ↔ p.Readable values := by
  have hgiven : p.given values = v := by rw [given, hv, Option.getD_some]
  have hlate : IsLate v := hgiven ▸ hordinary.late
  rw [Readable, hgiven]
  cases hnull : v.isNull with
  | true =>
    cases v with
    | null =>
      obtain ⟨-, rfl⟩ := textFor_null hsent
      exact iff_of_true (by rintro _ ⟨⟩) (by rintro _ _ _ ⟨⟩)
    | _ => cases hnull
  | false =>
    obtain ⟨text, he, rfl⟩ := encode_of_textFor hnull hsent
    rw [← (h v hv hnull).finds_iff hlate he]
    simp

/-- The text of a default is found, unless it is foreign to a class of texts without means to
tell. -/
theorem finds_iff_of_fallback {w : Value} (hf : p.fallback = some w) (text : String) :
    p.Finds text ↔ p.decode text ≠ .error .unanswered := by
  unfold Finds
  cases p.decode text <;> simp [hf]

end Parameter

namespace EndpointSchema

variable {e : EndpointSchema} {s : Serializer} {values : Values} {p : Parameter}

/-- A path field is read exactly when it is readable. -/
theorem exists_pathValue_iff (h : p.Suits values) (hordinary : p.IsOrdinary values)
    (data : RequestData) {text? : Option String}
    (hsent : p.textFor p.name (p.given values) = .ok text?)
    (hl : lookupKey p.name data.path = text?) (hr : p.role = .path) :
    (∃ w, p.valueIn data s = .ok w) ↔ p.Readable values := by
  unfold Parameter.valueIn
  simp only [hr]
  rw [Parameter.exists_textValue_iff hsent hl]
  cases hv : lookupKey p.name values with
  | some v =>
    have hgiven : p.given values = v := by rw [Parameter.given, hv, Option.getD_some]
    rw [hgiven] at hsent
    exact h.readable_iff hordinary hv hsent
  | none =>
    have hgiven : p.given values = .null := by rw [Parameter.given, hv, Option.getD_none]
    rw [hgiven] at hsent
    obtain ⟨-, rfl⟩ := Parameter.textFor_null hsent
    refine iff_of_true (by rintro _ ⟨⟩) fun _ _ x hx => ?_
    rw [hgiven] at hx
    cases hx

/-- So is a query field, also when its default was sent. -/
theorem exists_queryValue_iff (h : p.Suits values) (hordinary : p.IsOrdinary values)
    (hdefault : p.optional = true → p.fallback ≠ some .null) (data : RequestData)
    {text? : Option String} (hsent : p.textFor p.wireName (p.chosen values) = .ok text?)
    (hl : lookupKey p.wireName data.query = text?) (hr : p.role = .query) :
    (∃ w, p.valueIn data s = .ok w) ↔ p.Readable values := by
  unfold Parameter.valueIn
  simp only [hr]
  rw [Parameter.exists_textValue_iff hsent hl]
  cases hv : lookupKey p.name values with
  | some v =>
    have hchosen : p.chosen values = v := by rw [Parameter.chosen, hv, Option.getD_some]
    rw [hchosen] at hsent
    exact h.readable_iff hordinary hv hsent
  | none =>
    have hgiven : p.given values = .null := by rw [Parameter.given, hv, Option.getD_none]
    have hchosen : p.chosen values = p.fallback.getD .null := by
      rw [Parameter.chosen, hv, Option.getD_none]
    rw [hchosen] at hsent
    have hreadable : p.Readable values := fun _ _ x hx => by
      rw [hgiven] at hx
      cases hx
    refine iff_of_true ?_ hreadable
    cases hf : p.fallback with
    | none =>
      rw [hf, Option.getD_none] at hsent
      obtain ⟨-, rfl⟩ := Parameter.textFor_null hsent
      rintro _ ⟨⟩
    | some w =>
      rw [hf, Option.getD_some] at hsent
      have hnull : w.isNull = false := by
        cases w with
        | null => exact absurd hf (hdefault (Parameter.textFor_null hsent).1)
        | _ => rfl
      obtain ⟨text, he, rfl⟩ := Parameter.encode_of_textFor hnull hsent
      rintro _ ⟨⟩
      exact (Parameter.finds_iff_of_fallback hf text).mpr
        (hordinary.answered hr hv w text hf he)

/-- Fields of one name are sent one text, since their value is of one type. -/
theorem textFor_eq_of_name {q : Parameter} (hp : p.Suits values) (hq : q.Suits values)
    (hname : q.name = p.name) {key : Value} {text? text?' : Option String}
    (hsent : p.textFor key (p.given values) = .ok text?)
    (hsent' : q.textFor key (q.given values) = .ok text?') : text?' = text? := by
  have hgiven : q.given values = p.given values := by rw [Parameter.given, hname, Parameter.given]
  rw [hgiven] at hsent'
  cases hnull : (p.given values).isNull with
  | true =>
    cases hv : p.given values with
    | null =>
      rw [hv] at hsent hsent'
      rw [(Parameter.textFor_null hsent).2, (Parameter.textFor_null hsent').2]
    | _ =>
      rw [hv] at hnull
      cases hnull
  | false =>
    have hfound : lookupKey p.name values = some (p.given values) := by
      unfold Parameter.given at hnull ⊢
      cases hv : lookupKey p.name values with
      | none =>
        rw [hv] at hnull
        cases hnull
      | some v => rfl
    have hsame : q.encode (p.given values) = p.encode (p.given values) := by
      rw [(hp _ hfound hnull).encode_eq, (hq _ (hname ▸ hfound) hnull).encode_eq]
    rw [Parameter.textFor_of_ne_null hnull] at hsent hsent'
    rw [hsame, hsent] at hsent'
    exact (Except.ok.inj hsent').symm

/-- Every path field finds the text that was sent for it, even if several have its name. -/
theorem lookupKey_pathTexts (hn : ∀ p ∈ e.ofRole .path, ∃ name, p.name = .text name)
    (hv : ∀ p ∈ e.ofRole .path, p.Suits values) {path : PathTexts}
    (h : e.pathTexts values = .ok path) (hp : p ∈ e.ofRole .path) :
    ∃ text?, p.textFor p.name (p.given values) = .ok text? ∧ lookupKey p.name path = text? := by
  let nameOf : Parameter → String := fun p => (p.name.asText?).getD ""
  have hnameOf : ∀ q ∈ e.ofRole .path, q.name = .text (nameOf q) := by
    intro q hq
    obtain ⟨name, hname⟩ := hn q hq
    simp only [nameOf, hname]
    rfl
  have hstep : ∀ q ∈ e.ofRole .path, ∀ texts, addPathText values texts q =
      (q.textFor q.name (q.given values)).map fun text? =>
        text?.elim texts fun text => storeKey (.text (nameOf q)) text texts := by
    intro q hq texts
    rw [← hnameOf q hq]
    exact addPathText_eq_textFor (mem_ofRole.mp hq).2 texts
  have hsent : ∀ q ∈ e.ofRole .path, ∃ text?, q.textFor q.name (q.given values) = .ok text? :=
    (exists_foldlM_store_iff (fun q hq texts =>
      addPathText_eq_textFor (mem_ofRole.mp hq).2 texts)).mp ⟨path, h⟩
  obtain ⟨text?, htext⟩ := hsent p hp
  refine ⟨text?, htext, ?_⟩
  have hsame : ∀ q ∈ e.ofRole .path, nameOf q = nameOf p →
      q.textFor q.name (q.given values) = .ok text? := by
    intro q hq hname
    have hkeys : q.name = p.name := by rw [hnameOf q hq, hnameOf p hp, hname]
    obtain ⟨text?', htext'⟩ := hsent q hq
    rw [hkeys] at htext'
    rw [hkeys, htext', textFor_eq_of_name (hv p hp) (hv q hq) hkeys htext htext']
  have hfound := lookupKey_foldlM_store hstep hsame h
  rw [if_pos (List.any_eq_true.mpr ⟨p, hp, by simp⟩), ← hnameOf p hp] at hfound
  rw [hfound]
  cases text? <;> rfl

/-- Every query field finds the text that was sent for it. -/
theorem lookupKey_queryTexts
    (hd : (e.ofRole .query).Pairwise fun p q => p.wireName.sameKey q.wireName = false)
    (hk : ∀ p ∈ e.ofRole .query, p.wireName.sameKey p.wireName = true) {query : Option QueryTexts}
    (h : e.queryTexts values = .ok query) (hp : p ∈ e.ofRole .query) :
    ∃ text?, p.textFor p.wireName (p.chosen values) = .ok text? ∧
      lookupKey p.wireName (query.getD []) = text? := by
  obtain ⟨texts, htexts, -⟩ := Outcome.bind_eq_ok.mp h
  have hsent : ∀ q ∈ e.ofRole .query,
      ∃ text?, q.textFor q.wireName (q.chosen values) = .ok text? :=
    (exists_foldlM_store_iff (fun q hq texts =>
      addQueryText_eq_textFor (mem_ofRole.mp hq).2 texts)).mp ⟨texts, htexts⟩
  obtain ⟨text?, htext⟩ := hsent p hp
  refine ⟨text?, htext, ?_⟩
  rw [queryTexts_eq_ok hd h, lookupKey_gather hd hp (hk p hp), htext]
  cases text? <;> rfl

/-- The body is read when the serializer reads what it wrote. -/
theorem exists_bodyValue (hone : ∀ p ∈ e.parameters, p.role = .body →
      ∀ q ∈ e.parameters, q.role = .body → p = q)
    (hs : ∀ p ∈ e.ofRole .body, ∀ data, s.encode (p.given values) = .ok data →
      ∃ w, s.decode p.valueType data = .ok w)
    {body : Option Bytes} (h : e.encodeBody values s = .ok body) (hp : p ∈ e.ofRole .body) :
    ∃ w, p.bodyValue body s = .ok w := by
  obtain ⟨hmem, hrole⟩ := mem_ofRole.mp hp
  unfold encodeBody at h
  cases hb : e.bodyParameter? with
  | none =>
    have hnone := List.find?_eq_none.mp hb p hmem
    exact absurd (decide_eq_true hrole) hnone
  | some q =>
    have hq : q ∈ e.parameters := List.mem_of_find?_eq_some hb
    have hqr : q.role = .body := by simpa using List.find?_some hb
    obtain rfl := hone p hmem hrole q hq hqr
    have hgiven : (lookupKey p.name values).getD .null = p.given values := rfl
    simp only [hb, hgiven] at h
    cases hv : p.given values with
    | null =>
      simp only [hv] at h
      by_cases ho : p.optional = true
      · rw [if_pos ho] at h
        obtain rfl := Except.ok.inj h
        exact ⟨.null, if_pos ho⟩
      · rw [if_neg ho] at h
        cases h
    | _ =>
      simp only [hv] at h
      cases hdata : s.encode (p.given values) with
      | error f =>
        rw [← hv, hdata] at h
        cases h
      | ok data =>
        rw [← hv, hdata] at h
        obtain rfl := Except.ok.inj h
        exact hs p hp data hdata

/-- Of what the client made, every path and query field is read exactly when it is readable, and the
body always is. -/
theorem exists_valueIn_iff {d : EndpointDeclaration} {group : Option GroupHeader}
    (h : d.extract group = .ok e) (hn : ∀ f ∈ d.fields, ∃ name, f.name = .text name)
    (hk : ∀ p ∈ e.ofRole .query, p.wireName.sameKey p.wireName = true)
    (hv : ∀ p ∈ e.parameters, p.role ≠ .body → p.Suits values ∧ p.IsOrdinary values)
    (hs : ∀ p ∈ e.ofRole .body, ∀ data, s.encode (p.given values) = .ok data →
      ∃ w, s.decode p.valueType data = .ok w)
    {path : PathTexts} {query : Option QueryTexts} {body : Option Bytes}
    (hpath : e.pathTexts values = .ok path) (hquery : e.queryTexts values = .ok query)
    (hbody : e.encodeBody values s = .ok body) (hp : p ∈ e.parameters) :
    (∃ w, p.valueIn ⟨path, query.getD [], body⟩ s = .ok w) ↔
      (p.role ≠ .body → p.Readable values) := by
  cases hr : p.role with
  | path =>
    have hnames : ∀ q ∈ e.ofRole .path, ∃ name, q.name = .text name := by
      intro q hq
      obtain ⟨f, hf, hclassify⟩ := EndpointDeclaration.exists_classify h (mem_ofRole.mp hq).1
      obtain ⟨name, hname⟩ := hn f hf
      exact ⟨name, (EndpointDeclaration.name_of_classify hclassify).trans hname⟩
    have hsuits : ∀ q ∈ e.ofRole .path, q.Suits values := by
      intro q hq
      obtain ⟨hmem, hrole⟩ := mem_ofRole.mp hq
      exact (hv q hmem (by rw [hrole]; decide)).1
    obtain ⟨text?, hsent, hfound⟩ :=
      lookupKey_pathTexts hnames hsuits hpath (mem_ofRole.mpr ⟨hp, hr⟩)
    obtain ⟨hsuit, hordinary⟩ := hv p hp (by rw [hr]; decide)
    have hread := exists_pathValue_iff (s := s) hsuit hordinary ⟨path, query.getD [], body⟩ hsent
      hfound hr
    exact hread.trans ⟨fun hreadable _ => hreadable, fun hreadable => hreadable (by decide)⟩
  | query =>
    have hwire := EndpointDeclaration.pairwise_wireNames h
    have hdefault := (EndpointDeclaration.fallback_of_extract h hp).1
    obtain ⟨text?, hsent, hfound⟩ := lookupKey_queryTexts hwire hk hquery (mem_ofRole.mpr ⟨hp, hr⟩)
    obtain ⟨hsuit, hordinary⟩ := hv p hp (by rw [hr]; decide)
    have hread := exists_queryValue_iff (s := s) hsuit hordinary hdefault
      ⟨path, query.getD [], body⟩ hsent hfound hr
    exact hread.trans ⟨fun hreadable _ => hreadable, fun hreadable => hreadable (by decide)⟩
  | body =>
    have hone := EndpointDeclaration.body_unique h
    obtain ⟨w, hw⟩ := exists_bodyValue hone hs hbody (mem_ofRole.mpr ⟨hp, hr⟩)
    have hread : p.valueIn ⟨path, query.getD [], body⟩ s = .ok w := by
      unfold Parameter.valueIn
      simp only [hr]
      exact hw
    exact iff_of_true ⟨w, hread⟩ fun hne => absurd rfl hne

end EndpointSchema

section

variable {d : EndpointDeclaration} {group : Option GroupHeader} {e : EndpointSchema}
  {s : Serializer} {values : Values}

/-- A path or query field that is not readable is missing under its key. -/
theorem Parameter.eq_missing_of_not_readable {p : Parameter} (hv : p.Suits values)
    (hrole : p.role ≠ .body) (hreadable : ¬p.Readable values) {data : RequestData} {f : Failure}
    (hfails : p.Fails data s f) : f = .missingParameter p.wireKey p.role.name := by
  unfold Readable at hreadable
  push Not at hreadable
  obtain ⟨-, -, x, hgiven, -⟩ := hreadable
  have hfound : lookupKey p.name values = some (.float x) := by
    unfold given at hgiven
    cases hl : lookupKey p.name values with
    | none =>
      rw [hl] at hgiven
      cases hgiven
    | some v =>
      rw [hl] at hgiven
      exact congrArg some hgiven
  have htype := (hv _ hfound rfl).type_of_float
  cases hfails with
  | missing _ _ _ _ hkey => rw [Failure.missingParameter, hkey]; rfl
  | unsayable _ _ _ _ hkey => rw [Failure.missingParameter, hkey]
  | unanswered _ htext => cases htype.symm.trans htext.1
  | missingBody hbody => exact absurd hbody hrole
  | payload hbody => exact absurd hbody hrole

/-- Whatever values of the declared types the client could send, the server reads what it sent
exactly when every field is readable, and otherwise reports one that is not: nothing else that was
sent is ever missing. The serializer is taken to read what it wrote, and wire names to be keys that
can be found again, as all texts are. -/
theorem EndpointSchema.decodeInput_readable (h : d.extract group = .ok e)
    (hn : ∀ f ∈ d.fields, ∃ name, f.name = .text name)
    (hk : ∀ p ∈ e.ofRole .query, p.wireName.sameKey p.wireName = true)
    (hv : ∀ p ∈ e.parameters, p.role ≠ .body → p.Suits values ∧ p.IsOrdinary values)
    (hs : ∀ p ∈ e.ofRole .body, ∀ data, s.encode (p.given values) = .ok data →
      ∃ w, s.decode p.valueType data = .ok w)
    {path : PathTexts} {query : Option QueryTexts} {body : Option Bytes}
    (hpath : e.pathTexts values = .ok path) (hquery : e.queryTexts values = .ok query)
    (hbody : e.encodeBody values s = .ok body) :
    ((∃ decoded, e.decodeInput ⟨path, query.getD [], body⟩ s = .ok decoded) ↔
      ∀ p ∈ e.parameters, p.role ≠ .body → p.Readable values) ∧
    ∀ f, e.decodeInput ⟨path, query.getD [], body⟩ s = .error f →
      ∃ p ∈ e.parameters, p.role ≠ .body ∧ ¬p.Readable values ∧
        f = .missingParameter p.wireKey p.role.name := by
  have hread := fun p (hp : p ∈ e.parameters) =>
    exists_valueIn_iff h hn hk hv hs hpath hquery hbody hp
  refine ⟨exists_decodeInput_iff.trans (forall₂_congr hread), fun f hf => ?_⟩
  obtain ⟨before, p, after, hsplit, -, hfailed⟩ := decodeInput_eq_error_iff.mp hf
  have hp : p ∈ e.parameters := by simp [hsplit]
  have hlost : ¬(p.role ≠ .body → p.Readable values) := by
    rw [← hread p hp, hfailed]
    rintro ⟨w, ⟨⟩⟩
  obtain ⟨hrole, hreadable⟩ := Classical.not_imp.mp hlost
  exact ⟨p, hp, hrole, hreadable, Parameter.eq_missing_of_not_readable (hv p hp hrole).1 hrole
    hreadable (Parameter.valueIn_eq_error_iff.mp hfailed)⟩

end

/-- An endpoint with a number in its query. -/
def nearEndpoint : EndpointDeclaration :=
  ⟨.text "Near", .text "GET", .text "/near", [⟨.text "x", .shape .float, [], none⟩],
    .plain .null, false, true, none⟩

/-- The number. -/
def nearParameter : Parameter :=
  ⟨.text "x", .float, .query, false, .text "x", none, .shape .float⟩

/-- The extracted endpoint. -/
def nearSchema : EndpointSchema :=
  ⟨.text "Near", .get, "/near", [nearParameter], .plain .null, none, false, none⟩

/-- The endpoint is accepted. -/
theorem extract_nearEndpoint : nearEndpoint.extract none = .ok nearSchema := by cbv

/-- Any number is sent by its text. -/
theorem queryTexts_near (x : Float) : nearSchema.queryTexts [(.text "x", .float x)] =
    .ok (some [(.text "x", Number.Style.display.write x)]) := by
  have hquoted : Value.quotedIn [] (.float x) = Number.Style.display.write x := by
    rw [Value.quotedIn]
  have hsent : nearParameter.encode (.float x) = .ok (Number.Style.display.write x) := by
    simp [Parameter.encode, nearParameter, Value.plainText, Value.unplain?, Value.unquoted?,
      unlessUnshown, Value.plain, Value.quoted, hquoted]
  have hstep : EndpointSchema.addQueryText [(.text "x", .float x)] [] nearParameter =
      (nearParameter.encode (.float x)).map fun text => [(.text "x", text)] := rfl
  have hquery : nearSchema.ofRole .query = [nearParameter] := rfl
  rw [EndpointSchema.queryTexts, hquery, List.foldlM_cons, hstep, hsent]
  rfl

/-- A half is finite, so it is read. -/
theorem decodeInput_near_half :
    nearSchema.queryTexts [(.text "x", .float 0.5)] = .ok (some [(.text "x", "0.5")]) ∧
      ∃ decoded, nearSchema.decodeInput ⟨[], [(.text "x", "0.5")], none⟩ .json = .ok decoded := by
  have hwritten : Number.Style.display.write 0.5 = "0.5" := by decide
  have hquery := queryTexts_near 0.5
  rw [hwritten] at hquery
  have hpath : nearSchema.pathTexts [(.text "x", .float 0.5)] = .ok [] := rfl
  have hbody : nearSchema.encodeBody [(.text "x", .float 0.5)] .json = .ok none := rfl
  have hfinite : (0.5 : Float).isFinite = true := by decide
  have honly : ∀ p ∈ nearSchema.parameters, p = nearParameter := fun p hp => by
    simpa [nearSchema] using hp
  refine ⟨hquery, (EndpointSchema.decodeInput_readable extract_nearEndpoint ?_ ?_ ?_ ?_ hpath
    hquery hbody).1.mpr ?_⟩
  · simp [nearEndpoint]
  · intro p hp
    rw [honly p (EndpointSchema.mem_ofRole.mp hp).1]
    rfl
  · rintro p hp -
    rw [honly p hp]
    refine ⟨fun v hv _ => ⟨0.5, (Option.some.inj hv).symm⟩, ?_, fun _ hnone => ?_⟩
    · rintro t u ⟨⟩
    · cases hnone
  · intro p hp
    obtain ⟨hmem, hrole⟩ := EndpointSchema.mem_ofRole.mp hp
    rw [honly p hmem] at hrole
    cases hrole
  · intro p hp _
    rw [honly p hp]
    intro _ _ x hx
    obtain rfl : (0.5 : Float) = x := Value.float.inj hx
    exact hfinite

/-- The client sends values of the declared types, and the server fails to read what it sent. -/
def EndpointDeclaration.Loses (d : EndpointDeclaration) (values : Values) (f : Failure) : Prop :=
  ∃ e path query, d.extract none = .ok e ∧
    (∀ p ∈ e.parameters, p.role ≠ .body ∧ p.Suits values) ∧ e.pathTexts values = .ok path ∧
      e.queryTexts values = .ok query ∧ e.encodeBody values .json = .ok none ∧
        e.decodeInput ⟨path, query.getD [], none⟩ .json = .error f

/-- An endpoint with a moment in its query. -/
def sinceEndpoint : EndpointDeclaration :=
  ⟨.text "Since", .text "GET", .text "/since", [⟨.text "at", .shape .moment, [], none⟩],
    .plain .null, false, true, none⟩

/-- A moment before the year 1000. -/
def earlyMoment : Moment :=
  ⟨⟨999, 12, 31, by decide⟩, 0, some 0, dayLength_pos, Moment.universal_lt⟩

/-- An endpoint with an order in its query, whose default is none of the texts of its class. -/
def sortedEndpoint : EndpointDeclaration :=
  ⟨.text "List", .text "GET", .text "/list",
    [⟨.text "sort", .shape (.enumeration orderClass), [], some (.text "up")⟩],
    .plain .null, false, true, none⟩

/-- Infinity and a moment before the year 1000 are missing to the server, and at a default that is
foreign to a class of texts without means to tell it stops. -/
theorem EndpointDeclaration.loses_infinite_early_foreign :
    nearEndpoint.Loses [(.text "x", .float Number.infinity)]
        (.missingParameter (.text "x") Role.query.name) ∧
      sinceEndpoint.Loses [(.text "at", .moment earlyMoment)]
        (.missingParameter (.text "at") Role.query.name) ∧
      sortedEndpoint.Loses [] (.ofText .unanswered) := by
  refine ⟨⟨nearSchema, [], some [(.text "x", "inf")], extract_nearEndpoint, ?_, rfl, ?_, rfl, rfl⟩,
    ?_, ?_⟩
  · intro p hp
    obtain rfl : p = nearParameter := by simpa [nearSchema] using hp
    exact ⟨by decide, fun v hv _ => ⟨_, (Option.some.inj hv).symm⟩⟩
  · have hwritten : Number.Style.display.write Number.infinity = "inf" := by decide
    have hquery := queryTexts_near Number.infinity
    rwa [hwritten] at hquery
  · refine ⟨⟨.text "Since", .get, "/since", [⟨.text "at", .date, .query, false, .text "at", none,
      .shape .moment⟩], .plain .null, none, false, none⟩, [],
      some [(.text "at", "999-12-31T00:00:00Z")], by cbv, ?_, rfl, by cbv, rfl, by cbv⟩
    intro p hp
    obtain rfl := List.mem_singleton.mp hp
    exact ⟨by decide, fun v hv _ => ⟨_, (Option.some.inj hv).symm⟩⟩
  · refine ⟨⟨.text "List", .get, "/list", [⟨.text "sort", .enum, .query, false, .text "sort",
      some (.text "up"), .shape (.enumeration orderClass)⟩], .plain .null, none, false, none⟩, [],
      some [(.text "sort", "up")], by cbv, ?_, rfl, by cbv, rfl, by cbv⟩
    intro p hp
    obtain rfl := List.mem_singleton.mp hp
    refine ⟨by decide, fun v hv _ => ?_⟩
    cases hv

end RestContract
