import RestContract.Proofs.InputRoundTrip

/-!
# What is sent, and what is read of it

The client decides of every path and query field whether its text is sent, and the server of every
parameter which value it has; both succeed exactly when they do for each parameter. A query field
that is left out is read as the absent value, or as its default if it has one, however it came to be
left out: the server cannot tell a given absent value from none.
-/

namespace RestContract

namespace Parameter

/-- The value that the client takes for a query field: the given one, or the default. -/
def chosen (values : Values) (p : Parameter) : Value :=
  (lookupKey p.name values).getD (p.fallback.getD .null)

/-- The text that is sent for a value of a field known by a key; none is sent for an absent value,
which only some fields may have. -/
def textFor (p : Parameter) (key : Value) (v : Value) : Outcome (Option String) :=
  match v with
  | .null => if p.optional then .ok none else .error (.missingParameter key p.role.name)
  | v => (p.encode v).map some

/-- No text is sent for an absent value. -/
theorem textFor_null {p : Parameter} {key : Value} {text? : Option String}
    (h : p.textFor key .null = .ok text?) : p.optional = true ∧ text? = none := by
  unfold textFor at h
  by_cases ho : p.optional = true
  · rw [if_pos ho] at h
    exact ⟨ho, (Except.ok.inj h).symm⟩
  · rw [if_neg ho] at h
    cases h

/-- The text that is sent for another value is its text on the wire. -/
theorem textFor_of_ne_null {p : Parameter} {key v : Value} (hv : v.isNull = false) :
    p.textFor key v = (p.encode v).map some := by
  cases v with
  | null => cases hv
  | _ => rfl

/-- So every text that is sent for such a value is that. -/
theorem encode_of_textFor {p : Parameter} {key v : Value} {text? : Option String}
    (hv : v.isNull = false) (h : p.textFor key v = .ok text?) :
    ∃ text, p.encode v = .ok text ∧ text? = some text := by
  rw [textFor_of_ne_null hv] at h
  cases he : p.encode v with
  | error f =>
    rw [he] at h
    cases h
  | ok text =>
    rw [he] at h
    exact ⟨text, rfl, (Except.ok.inj h).symm⟩

end Parameter

namespace EndpointSchema

variable {e : EndpointSchema} {s : Serializer} {values : Values} {data : RequestData}

/-- A path field adds its text, if one is sent. -/
theorem addPathText_eq_textFor {p : Parameter} (hr : p.role = .path) (texts : PathTexts) :
    addPathText values texts p = (p.textFor p.name (p.given values)).map fun text? =>
      text?.elim texts fun text => storeKey p.name text texts := by
  unfold addPathText Parameter.textFor Parameter.given
  cases (lookupKey p.name values).getD .null with
  | null =>
    by_cases ho : p.optional = true
    · simp [ho, Except.map]
    · simp [ho, hr, Except.map]
  | _ =>
    simp only
    cases p.encode _ <;> rfl

/-- A query field adds its text, if one is sent. -/
theorem addQueryText_eq_textFor {p : Parameter} (hr : p.role = .query) (texts : QueryTexts) :
    addQueryText values texts p = (p.textFor p.wireName (p.chosen values)).map fun text? =>
      text?.elim texts fun text => storeKey p.wireName text texts := by
  unfold addQueryText Parameter.textFor Parameter.chosen
  cases (lookupKey p.name values).getD (p.fallback.getD .null) with
  | null =>
    by_cases ho : p.optional = true
    · simp [ho, Except.map]
    · simp [ho, hr, Except.map]
  | _ =>
    simp only
    cases p.encode _ <;> rfl

/-- The parameters of a role are those that have it. -/
theorem mem_ofRole {role : Role} {p : Parameter} :
    p ∈ e.ofRole role ↔ p ∈ e.parameters ∧ p.role = role := by
  rw [ofRole, List.mem_filter, decide_eq_true_iff]

/-- The texts of the query fields that the client sends, where their names on the wire are apart. -/
theorem queryTexts_eq_ok (hd : (e.ofRole .query).Pairwise fun p q =>
      p.wireName.sameKey q.wireName = false) {query : Option QueryTexts}
    (h : e.queryTexts values = .ok query) :
    query.getD [] = gather (·.wireName)
      (fun p => (p.textFor p.wireName (p.chosen values)).toOption.join) (e.ofRole .query) := by
  obtain ⟨texts, htexts, hquery⟩ := Outcome.bind_eq_ok.mp h
  have hstep : ∀ p ∈ e.ofRole .query, ∀ texts, addQueryText values texts p = _ :=
    fun p hp texts => addQueryText_eq_textFor (mem_ofRole.mp hp).2 texts
  have hgather := eq_gather_of_foldlM hstep hd htexts
  have hgiven : query.getD [] = texts := by
    rw [← Except.ok.inj hquery]
    cases texts <;> rfl
  rw [hgiven, hgather]

/-- Reading a parameter stores its value under its name. -/
theorem readStep_eq (p : Parameter) (decoded : Values) :
    (do pure (storeKey p.name (← p.valueIn data s) decoded) : Outcome Values) =
      ((p.valueIn data s).map some).map fun v? =>
        v?.elim decoded fun v => storeKey p.name v decoded := by
  cases p.valueIn data s <;> rfl

/-- The server reads the data of a request exactly when it finds the value of every parameter. -/
theorem exists_decodeInput_iff :
    (∃ decoded, e.decodeInput data s = .ok decoded) ↔
      ∀ p ∈ e.parameters, ∃ v, p.valueIn data s = .ok v := by
  refine Iff.trans (exists_foldlM_store_iff fun p _ decoded => readStep_eq p decoded) ?_
  refine forall₂_congr fun p _ => ?_
  cases p.valueIn data s <;> simp [Except.map]

/-- It stops with the failure of the first parameter that has no value. -/
theorem decodeInput_eq_error_iff {f : Failure} :
    e.decodeInput data s = .error f ↔ ∃ before p after, e.parameters = before ++ p :: after ∧
      (∀ q ∈ before, ∃ v, q.valueIn data s = .ok v) ∧ p.valueIn data s = .error f := by
  have hvalue : ∀ p : Parameter, (∃ v?, (p.valueIn data s).map some = .ok v?) ↔
      ∃ v, p.valueIn data s = .ok v := fun p => by
    cases p.valueIn data s <;> simp [Except.map]
  have hfault : ∀ p : Parameter, (p.valueIn data s).map some = .error f ↔
      p.valueIn data s = .error f := fun p => by
    cases p.valueIn data s <;> simp [Except.map]
  refine Iff.trans (foldlM_store_eq_error_iff fun p _ decoded => readStep_eq p decoded) ?_
  simp only [hvalue, hfault]

/-- Where names are apart the value of every parameter is found under its name. -/
theorem lookupKey_decodeInput
    (hd : e.parameters.Pairwise fun p q => p.name.sameKey q.name = false) {decoded : Values}
    (h : e.decodeInput data s = .ok decoded) {p : Parameter} (hp : p ∈ e.parameters)
    (hself : p.name.sameKey p.name = true) :
    ∃ v, p.valueIn data s = .ok v ∧ lookupKey p.name decoded = some v := by
  obtain ⟨v, hv⟩ := exists_decodeInput_iff.mp ⟨decoded, h⟩ p hp
  refine ⟨v, hv, ?_⟩
  rw [eq_gather_of_foldlM (fun p _ decoded => readStep_eq p decoded) hd h,
    lookupKey_gather hd hp hself, hv]
  rfl

end EndpointSchema

/-! ## What a declaration fixes -/

/-- The default of a field that was classified is the one that its role allows. -/
theorem FieldDeclaration.fallback_of_classify {f : FieldDeclaration} {p : Parameter}
    (h : f.classify = .ok p) : f.fallbackIn p.role p.optional = .ok p.fallback := by
  unfold classify at h
  split at h
  · cases h
  · obtain ⟨field, -, h⟩ := Outcome.bind_eq_ok.mp h
    obtain ⟨type, -, h⟩ := Outcome.bind_eq_ok.mp h
    obtain ⟨fallback, hfallback, h⟩ := Outcome.bind_eq_ok.mp h
    rw [← Except.ok.inj h]
    exact hfallback

/-- A field that may be left out has no absent default, and only query fields have defaults. -/
theorem FieldDeclaration.fallbackIn_eq_ok {f : FieldDeclaration} {role : Role} {optional : Bool}
    {fallback : Option Value} (h : f.fallbackIn role optional = .ok fallback) :
    (optional = true → fallback ≠ some .null) ∧ (role ≠ .query → fallback = none) := by
  unfold fallbackIn at h
  cases hf : f.fallback with
  | none =>
    rw [hf] at h
    obtain rfl := Except.ok.inj h
    exact ⟨fun _ => nofun, fun _ => rfl⟩
  | some v =>
    simp only [hf] at h
    by_cases hnull : (v.isNull && optional) = true
    · rw [if_pos hnull] at h
      obtain rfl := Except.ok.inj h
      exact ⟨fun _ => nofun, fun _ => rfl⟩
    · rw [if_neg hnull] at h
      by_cases hr : role = .query
      · rw [if_pos hr] at h
        obtain rfl := Except.ok.inj h
        refine ⟨?_, fun hne => absurd hr hne⟩
        rintro rfl ⟨⟩
        exact hnull rfl
      · rw [if_neg hr] at h
        cases h

namespace EndpointDeclaration

variable {d : EndpointDeclaration} {group : Option GroupHeader} {e : EndpointSchema}

/-- Every parameter of an accepted endpoint is one of the declared fields. -/
theorem exists_classify (h : d.extract group = .ok e) {p : Parameter} (hp : p ∈ e.parameters) :
    ∃ f ∈ d.fields, f.classify = .ok p := by
  obtain ⟨_, _, parameters, -, -, hclassify, -, -, -, rfl⟩ := extract_eq_ok h
  exact exists_mem_of_forall₂ (Outcome.forall₂_of_mapM hclassify) hp

/-- A parameter that may be left out has no absent default, and only query parameters have
defaults. -/
theorem fallback_of_extract (h : d.extract group = .ok e) {p : Parameter} (hp : p ∈ e.parameters) :
    (p.optional = true → p.fallback ≠ some .null) ∧ (p.role ≠ .query → p.fallback = none) := by
  obtain ⟨f, -, hclassify⟩ := exists_classify h hp
  exact FieldDeclaration.fallbackIn_eq_ok (FieldDeclaration.fallback_of_classify hclassify)

/-- There is one body at most. -/
theorem body_unique (h : d.extract group = .ok e) : ∀ p ∈ e.parameters, p.role = .body →
    ∀ q ∈ e.parameters, q.role = .body → p = q := by
  obtain ⟨_, _, _, -, -, -, hbodies, -, -, rfl⟩ := extract_eq_ok h
  exact fun p hp hpr q hq hqr => checkBodies_eq_ok hbodies hp hpr hq hqr

/-- The names of query parameters on the wire are apart. -/
theorem pairwise_wireNames (h : d.extract group = .ok e) :
    (e.ofRole .query).Pairwise fun p q => p.wireName.sameKey q.wireName = false := by
  obtain ⟨_, _, _, -, -, -, -, hwires, -, rfl⟩ := extract_eq_ok h
  exact (checkWireNames_eq_ok hwires).2

end EndpointDeclaration

/-! ## Query fields that are left out -/

section

variable {d : EndpointDeclaration} {group : Option GroupHeader} {e : EndpointSchema}
  {s : Serializer} {values : Values}

/-- A parameter without a text is read as its default, or as the absent value if it may be left
out. -/
theorem Parameter.textValue_of_none {p : Parameter} {key : Value} {texts : List (Value × String)}
    (hl : lookupKey key texts = none) (ho : p.optional = true) :
    p.textValue key texts = .ok (p.fallback.getD .null) := by
  unfold Parameter.textValue
  rw [hl, Option.map_none]
  cases p.fallback with
  | some v => rfl
  | none =>
    simp only
    rw [if_pos ho]
    rfl

/-- A query field that is given the absent value is sent no text. -/
theorem EndpointSchema.lookupKey_queryTexts_of_null (h : d.extract group = .ok e)
    {query : Option QueryTexts} (hquery : e.queryTexts values = .ok query) {q : Parameter}
    (hq : q ∈ e.ofRole .query) (hnull : lookupKey q.name values = some .null) :
    lookupKey q.wireName (query.getD []) = none := by
  have hwire := EndpointDeclaration.pairwise_wireNames h
  rw [queryTexts_eq_ok hwire hquery]
  apply lookupKey_gather_of_none hwire hq
  have hchosen : q.chosen values = .null := by rw [Parameter.chosen, hnull, Option.getD_some]
  rw [hchosen]
  cases htext : q.textFor q.wireName .null with
  | error f => rfl
  | ok text? =>
    rw [(Parameter.textFor_null htext).2]
    rfl

/-- A query field that may be left out and is given the absent value is read as its default, if it
has one, and as the absent value otherwise, whatever path texts and body come with it. -/
theorem EndpointSchema.decodeInput_null_query (h : d.extract group = .ok e)
    (hd : d.fields.Pairwise fun f g => f.name.sameKey g.name = false) {q : Parameter}
    (hq : q ∈ e.ofRole .query) (ho : q.optional = true)
    (hnull : lookupKey q.name values = some .null) {path : PathTexts} {query : Option QueryTexts}
    {body : Option Bytes} {decoded : Values} (hquery : e.queryTexts values = .ok query)
    (hread : e.decodeInput ⟨path, query.getD [], body⟩ s = .ok decoded) :
    lookupKey q.name decoded = some (q.fallback.getD .null) ∧
      (lookupKey q.name decoded = some .null ↔ q.fallback = none) := by
  obtain ⟨hmem, hrole⟩ := mem_ofRole.mp hq
  obtain ⟨v, hv, hfound⟩ := lookupKey_decodeInput (EndpointDeclaration.pairwise_names h hd) hread
    hmem (Value.sameKey_self_of_lookupKey hnull)
  have hvalue : v = q.fallback.getD .null := by
    unfold Parameter.valueIn at hv
    rw [hrole] at hv
    have hnone := lookupKey_queryTexts_of_null h hquery hq hnull
    exact Except.ok.inj (hv.symm.trans (Parameter.textValue_of_none hnone ho))
  rw [hfound, hvalue]
  refine ⟨rfl, ?_⟩
  have hdefault := (EndpointDeclaration.fallback_of_extract h hmem).1 ho
  cases hf : q.fallback with
  | none => simp
  | some w =>
    rw [hf] at hdefault
    simpa using hdefault

end

/-- An endpoint with two query fields that may be left out, one of them with a default. -/
def pagingEndpoint : EndpointDeclaration :=
  ⟨.text "List", .text "GET", .text "/list",
    [⟨.text "page", .shape (.union [.integer, .null]), [], some (.int 5)⟩,
      ⟨.text "after", .shape (.union [.text, .null]), [], none⟩],
    .plain .null, false, true, none⟩

/-- The field with a default. -/
def pageParameter : Parameter :=
  ⟨.text "page", .integer, .query, true, .text "page", some (.int 5), .shape .integer⟩

/-- The extracted endpoint. -/
def pagingSchema : EndpointSchema :=
  ⟨.text "List", .get, "/list", [pageParameter,
      ⟨.text "after", .string, .query, true, .text "after", none, .shape .text⟩],
    .plain .null, none, false, none⟩

/-- Absent values for both fields. -/
def pagingValues : Values := [(.text "page", .null), (.text "after", .null)]

/-- What is read of them. -/
def pagingDecoded : Values := [(.text "page", .int 5), (.text "after", .null)]

/-- The endpoint is accepted. -/
theorem extract_pagingEndpoint : pagingEndpoint.extract none = .ok pagingSchema := by cbv

/-- The client sends nothing for the absent values. -/
theorem queryTexts_pagingValues : pagingSchema.queryTexts pagingValues = .ok none := by cbv

/-- The server reads the default. -/
theorem decodeInput_pagingValues :
    pagingSchema.decodeInput ⟨[], [], none⟩ .json = .ok pagingDecoded := by cbv

/-- The field with a default is read as that. -/
theorem decodeInput_null_page :
    lookupKey pageParameter.name pagingDecoded = some (pageParameter.fallback.getD .null) ∧
      (lookupKey pageParameter.name pagingDecoded = some .null ↔ pageParameter.fallback = none) :=
  EndpointSchema.decodeInput_null_query (q := pageParameter) extract_pagingEndpoint
    (by simp [pagingEndpoint]) (by simp [pagingSchema, EndpointSchema.ofRole, pageParameter]) rfl
    rfl queryTexts_pagingValues decodeInput_pagingValues

/-- The absent value that is given for the field with a default is not received. -/
theorem not_null_pagingValues :
    pagingEndpoint.extract none = .ok pagingSchema ∧
      lookupKey pageParameter.name pagingValues = some .null ∧
      pagingSchema.pathTexts pagingValues = .ok [] ∧
      pagingSchema.queryTexts pagingValues = .ok none ∧
      pagingSchema.encodeBody pagingValues .json = .ok none ∧
      pagingSchema.decodeInput ⟨[], [], none⟩ .json = .ok pagingDecoded ∧
      lookupKey pageParameter.name pagingDecoded ≠ some .null := by
  refine ⟨extract_pagingEndpoint, rfl, rfl, queryTexts_pagingValues, rfl,
    decodeInput_pagingValues, ?_⟩
  have hfound : lookupKey pageParameter.name pagingDecoded = some (.int 5) := rfl
  rw [hfound]
  nofun

end RestContract
