import RestContract.Proofs.Document.Flaws

/-!
# Types of what is read for an endpoint of a document

A text that is read for a field gives a value of the declared type: the types that a document can
name have readers of their own, and an enumeration comes with its class. So does the absent value
fit that a field which may be left out has instead. A default is read as it stands: only that of an
enumeration is compared with the class, and the absent default of a field that may not be left out
not even there. So a value that does not fit is such a default.
-/

namespace RestContract

namespace Parameter

/-- A value is of the declared type of a path or query field. -/
def OfType (p : Parameter) (v : Value) : Prop :=
  match p.type with
  | .string => ∃ s, v = .text s
  | .integer => ∃ n, v = .int n
  | .float => ∃ x, v = .float x
  | .boolean => ∃ b, v = .bool b
  | .date => ∃ t, v = .moment t
  | .dateOnly => ∃ d, v = .date d
  | .enum => ∃ c m, p.valueType = .shape (.enumeration c) ∧ v = .member m ∧
      c.find? m.value = some m
  | .json => False

/-- A value fits a path or query field: it is of the declared type, or it is the absent value and
the field may be left out. -/
def Fits (p : Parameter) (v : Value) : Prop := p.OfType v ∨ v = .null ∧ p.optional = true

/-- The text that the data of a request hold for a path or query field. -/
def sent? (p : Parameter) (data : RequestData) : Option String :=
  match p.role with
  | .path => lookupKey p.name data.path
  | .query => lookupKey p.wireName data.query
  | .body => none

/-- The key under which the text of a path or query field is sent. -/
def wireKey (p : Parameter) : Value := if p.role = .path then p.name else p.wireName

/-- There is a text for a field, and it stands for a value. -/
def IsRead (p : Parameter) (data : RequestData) : Prop :=
  ∃ text v, p.sent? data = some text ∧ p.decode text = .ok v

/-- An enumeration has a class, and its default is a member of the class or absent. -/
def HasClass (p : Parameter) : Prop :=
  p.type = .enum → (∃ c, p.valueType = .shape (.enumeration c)) ∧
    ∀ w, p.fallback = some w → p.OfType w ∨ w = .null

private theorem exists_of_map_mapError {x : Except ε α} {f : α → β} {g : ε → δ} {b : β}
    (h : (x.map f).mapError g = .ok b) : ∃ a, b = f a := by
  cases x with
  | error fault => cases h
  | ok a => exact ⟨a, (Except.ok.inj h).symm⟩

/-- A text that is read gives a value of the declared type. -/
theorem ofType_of_decode {p : Parameter} (hc : p.HasClass) {text : String} {v : Value}
    (h : p.decode text = .ok v) : p.OfType v := by
  unfold decode at h
  unfold OfType
  cases htype : p.type with
  | string =>
    simp only [htype] at h
    exact ⟨text, (Except.ok.inj h).symm⟩
  | integer =>
    simp only [htype, readInteger] at h
    split at h
    · cases h
    · split at h
      · cases h
      · exact ⟨_, (Except.ok.inj h).symm⟩
  | float =>
    simp only [htype, readFloat] at h
    split at h
    · cases h
    · exact ⟨_, (Except.ok.inj h).symm⟩
  | boolean =>
    simp only [htype, readBoolean] at h
    split at h
    · exact ⟨true, (Except.ok.inj h).symm⟩
    · split at h
      · exact ⟨false, (Except.ok.inj h).symm⟩
      · cases h
  | date =>
    simp only [htype] at h
    exact exists_of_map_mapError h
  | dateOnly =>
    simp only [htype] at h
    exact exists_of_map_mapError h
  | enum =>
    obtain ⟨⟨c, hclass⟩, -⟩ := hc htype
    simp only [htype, hclass, readMember] at h
    split at h
    next m hm =>
      refine ⟨c, m, hclass, (Except.ok.inj h).symm, ?_⟩
      rw [(EnumClass.find?_eq_some hm).2.1]
      exact hm
    next => cases h
  | json =>
    simp only [htype] at h
    cases h

/-- Without a text that is read a field has its default, or the absent value if it may be left
out. -/
theorem textValue_eq_ok {p : Parameter} {key v : Value} {texts : List (Value × String)}
    (h : p.textValue key texts = .ok v)
    (hnone : ∀ text w, lookupKey key texts = some text → p.decode text ≠ .ok w) :
    p.fallback = some v ∨ p.fallback = none ∧ p.optional = true ∧ v = .null := by
  unfold textValue at h
  split at h
  next w hw =>
    obtain ⟨text, htext, hdecode⟩ := Option.map_eq_some_iff.mp hw
    exact absurd hdecode (hnone text w htext)
  next => cases h
  next =>
    split at h
    next w hw => exact .inl (hw.trans (congrArg some (Except.ok.inj h)))
    next hw =>
      split at h
      next ho => exact .inr ⟨hw, ho, (Except.ok.inj h).symm⟩
      next => cases h

/-- A text that is read gives the value of its field. -/
theorem textValue_of_decode {p : Parameter} {key v : Value} {texts : List (Value × String)}
    {text : String} (htext : lookupKey key texts = some text) (hdecode : p.decode text = .ok v) :
    p.textValue key texts = .ok v := by
  rw [textValue, htext, Option.map_some, hdecode]

/-- The value of a path or query field is read from the text that was sent under its key. -/
theorem valueIn_eq_textValue {p : Parameter} (hrole : p.role ≠ .body) (data : RequestData)
    (s : Serializer) : ∃ texts, p.sent? data = lookupKey p.wireKey texts ∧
      p.valueIn data s = p.textValue p.wireKey texts := by
  unfold valueIn sent? wireKey
  cases hr : p.role with
  | path => exact ⟨data.path, rfl, rfl⟩
  | query => exact ⟨data.query, rfl, rfl⟩
  | body => exact absurd hr hrole

/-- The value of a path or query field fits, unless it is a default that does not. -/
theorem fits_valueIn_iff {p : Parameter} (hrole : p.role ≠ .body) (hc : p.HasClass)
    {data : RequestData} {s : Serializer} {v : Value} (h : p.valueIn data s = .ok v) :
    (p.Fits v ↔ ∀ w, p.fallback = some w → p.IsRead data ∨ p.Fits w) ∧
      (¬p.Fits v → p.fallback = some v ∧ (p.type = .enum → v = .null)) := by
  obtain ⟨texts, hsent, hvalue⟩ := valueIn_eq_textValue hrole data s
  rw [hvalue] at h
  by_cases hread : p.IsRead data
  · obtain ⟨text, w, htext, hdecode⟩ := hread
    have hsame := textValue_of_decode (hsent ▸ htext) hdecode
    obtain rfl := Except.ok.inj (hsame.symm.trans h)
    have hfits : p.Fits w := .inl (ofType_of_decode hc hdecode)
    exact ⟨iff_of_true hfits fun _ _ => .inl ⟨text, w, htext, hdecode⟩,
      fun hnot => absurd hfits hnot⟩
  · have hnone : ∀ text w, lookupKey p.wireKey texts = some text → p.decode text ≠ .ok w :=
      fun text w htext hdecode => hread ⟨text, w, hsent.trans htext, hdecode⟩
    rcases textValue_eq_ok h hnone with hf | ⟨hf, ho, rfl⟩
    · refine ⟨?_, fun hnot => ⟨hf, fun htype => ?_⟩⟩
      · constructor
        · intro hfits w hw
          obtain rfl := Option.some.inj (hf.symm.trans hw)
          exact .inr hfits
        · exact fun hall => (hall v hf).resolve_left hread
      · rcases (hc htype).2 v hf with hof | hnull
        · exact absurd (.inl hof) hnot
        · exact hnull
    · have hfits : p.Fits .null := .inr ⟨rfl, ho⟩
      refine ⟨iff_of_true hfits fun w hw => ?_, fun hnot => absurd hfits hnot⟩
      rw [hf] at hw
      cases hw

end Parameter

/-! ## What a document declares -/

/-- No text names an enumeration as a type, and a value that is no text is no type of one. -/
theorem FieldType.type_ne_enum_of_plain {v : Value} {t : FieldType}
    (h : FieldType.of (.plain v) = .ok t) : t.type ≠ .enum := by
  unfold FieldType.of at h
  split at h
  next => contradiction
  next w hw =>
    obtain rfl := ShapeRef.plain.inj hw
    split at h
    · obtain rfl := Except.ok.inj h
      nofun
    next s _ =>
      split at h
      next found hfound =>
        obtain rfl := Except.ok.inj h
        unfold FieldType.ofName? at hfound
        obtain ⟨type, htype, rfl⟩ := Option.map_eq_some_iff.mp hfound
        rw [ParamType.ofDocumentName?] at htype
        have hother := (Option.filter_eq_some_iff.mp htype).2
        simpa using hother
      next => cases h

private theorem FieldType.valueType_of_enumeration {c : EnumClass} {shape : ShapeRef}
    {t : FieldType}
    (hs : shape = .shape (.enumeration c) ∨ shape = .shape (.union [.enumeration c, .null]))
    (h : FieldType.of shape = .ok t) : t.valueType = .shape (.enumeration c) := by
  rcases hs with rfl | rfl
  · rw [← Except.ok.inj h]
  · rw [← Except.ok.inj h]

private theorem FieldDeclaration.type_of_typeIn {f : FieldDeclaration} {role : Role} {t : ParamType}
    (h : f.typeIn role t = .ok .enum) : t = .enum := by
  unfold typeIn at h
  split at h
  · cases h
  · split at h
    · cases h
    · exact Except.ok.inj h

/-- A default of a parameter is that of its field. -/
theorem FieldDeclaration.fallback_of_fallbackIn {f : FieldDeclaration} {role : Role}
    {optional : Bool} {w : Value} (h : f.fallbackIn role optional = .ok (some w)) :
    f.fallback = some w := by
  unfold fallbackIn at h
  split at h
  · cases h
  next v hv =>
    split at h
    · cases h
    · split at h
      · exact hv.trans (Except.ok.inj h)
      · cases h

namespace Document

/-- A default that was compared with a class is a member of the class, absent or none. -/
theorem memberDefault_eq_ok {c : EnumClass} {endpoint field : Value}
    {given fallback : Option Value} (h : memberDefault c endpoint field given = .ok fallback) :
    ∀ w, fallback = some w → (∃ m, w = .member m ∧ c.find? m.value = some m) ∨ w = .null := by
  unfold memberDefault at h
  split at h
  · obtain rfl := Except.ok.inj h
    nofun
  · obtain rfl := Except.ok.inj h
    rintro w ⟨⟩
    exact .inr rfl
  next v _ =>
    split at h
    next m hm =>
      obtain rfl := Except.ok.inj h
      rintro w ⟨⟩
      obtain ⟨text, -, hfind⟩ := Option.bind_eq_some_iff.mp hm
      refine .inl ⟨m, rfl, ?_⟩
      rw [(EnumClass.find?_eq_some hfind).2.1]
      exact hfind
    next => split at h <;> cases h

/-- A parameter of a document is declared by the name of its type, with its default as it stands, or
it is an enumeration whose default was compared with its class. -/
theorem type_of_fieldOfEntries {endpoint name : Value} {fields : Values} {f : FieldDeclaration}
    (h : fieldOfEntries endpoint name fields = .ok f) :
    (∃ type, f.type = .plain type ∧ f.fallback = under? "default" fields) ∨ ∃ c,
      (f.type = .shape (.enumeration c) ∨ f.type = .shape (.union [.enumeration c, .null])) ∧
      memberDefault c endpoint name (under? "default" fields) = .ok f.fallback := by
  obtain ⟨m, -, h⟩ := Outcome.bind_eq_ok.mp h
  split at h
  · cases h
  dsimp only at h
  split at h
  · split at h
    · obtain ⟨c, -, h⟩ := Outcome.bind_eq_ok.mp h
      obtain ⟨fallback, hfallback, h⟩ := Outcome.bind_eq_ok.mp h
      obtain rfl := Except.ok.inj h
      refine .inr ⟨c, ?_, hfallback⟩
      dsimp only
      split
      · exact .inr rfl
      · exact .inl rfl
    · obtain rfl := Except.ok.inj h
      exact .inl ⟨_, rfl, rfl⟩
  · obtain rfl := Except.ok.inj h
    exact .inl ⟨_, rfl, rfl⟩

/-- An enumeration of a document has a class, and its default is a member of it or absent. -/
theorem hasClass_of_classify {endpoint name : Value} {fields : Values} {f : FieldDeclaration}
    {p : Parameter} (hf : fieldOfEntries endpoint name fields = .ok f) (hp : f.classify = .ok p) :
    p.HasClass := by
  intro henum
  unfold FieldDeclaration.classify at hp
  split at hp
  · cases hp
  obtain ⟨field, hfield, hp⟩ := Outcome.bind_eq_ok.mp hp
  obtain ⟨type, htype, hp⟩ := Outcome.bind_eq_ok.mp hp
  obtain ⟨fallback, hfallback, hp⟩ := Outcome.bind_eq_ok.mp hp
  obtain rfl := Except.ok.inj hp
  obtain rfl : type = .enum := henum
  have hkind : field.type = .enum := FieldDeclaration.type_of_typeIn htype
  rcases type_of_fieldOfEntries hf with ⟨plain, hplain, -⟩ | ⟨c, hshape, hdefault⟩
  · rw [hplain] at hfield
    exact absurd hkind (FieldType.type_ne_enum_of_plain hfield)
  · have hclass : field.valueType = .shape (.enumeration c) :=
      FieldType.valueType_of_enumeration hshape hfield
    refine ⟨⟨c, hclass⟩, fun w hw => ?_⟩
    obtain rfl : fallback = some w := hw
    rcases memberDefault_eq_ok hdefault w (FieldDeclaration.fallback_of_fallbackIn hfallback) with
      ⟨m, rfl, hm⟩ | rfl
    · exact .inl ⟨c, m, hclass, rfl, hm⟩
    · exact .inr rfl

/-- The fields of a declared endpoint were declared by entries. -/
theorem exists_fieldOfEntries {name endpoint : Value} {d : EndpointDeclaration}
    (h : endpointOf name endpoint = .ok d) {f : FieldDeclaration} (hf : f ∈ d.fields) :
    ∃ field fields, fieldOfEntries name field fields = .ok f := by
  cases hfields : endpoint.opened with
  | map fields =>
    obtain ⟨_, params, -, -, hdeclared, -⟩ := endpointOf_eq_ok hfields h
    obtain ⟨entry, -, hentry⟩ := exists_mem_of_forall₂ hdeclared hf
    rw [fieldOf_eq] at hentry
    split at hentry
    next inner _ => exact ⟨entry.1, inner, hentry⟩
    next => cases hentry
  | _ =>
    rw [endpointOf, hfields] at h
    cases h

/-- Every endpoint of a document was read from an entry. -/
theorem exists_endpointFrom {v : Value} {d : Document} (h : ofValue v = .ok d) {e : EndpointSchema}
    (he : e ∈ d.allEndpoints) : ∃ group entry, EndpointFrom group entry e := by
  obtain ⟨_, _, _, -, -, hgroups, hendpoints⟩ := ofValue_eq_ok h
  rcases List.mem_append.mp he with he | he
  · obtain ⟨g, hg, hmem⟩ := List.mem_flatMap.mp he
    obtain ⟨_, -, declared, key, hdeclared, hextract⟩ := exists_mem_of_forall₂ hgroups hg
    obtain ⟨_, inner, -, -, hinner, -, -⟩ := groupOf_eq_ok hdeclared
    obtain ⟨-, -, -, -, hmembers⟩ := GroupDeclaration.extract_eq_ok hextract
    obtain ⟨declaration, hdeclaration, hread⟩ := exists_mem_of_forall₂ hmembers hmem
    obtain ⟨entry, -, hentry⟩ := exists_mem_of_forall₂ hinner hdeclaration
    exact ⟨_, entry, declaration, hentry, hread⟩
  · obtain ⟨entry, -, hentry⟩ := exists_mem_of_forall₂ hendpoints he
    exact ⟨none, entry, hentry⟩

private theorem EndpointFrom.declared {group : Option GroupHeader} {entry : Value × Value}
    {e : EndpointSchema} (h : EndpointFrom group entry e) {p : Parameter} (hp : p ∈ e.parameters) :
    p.HasClass ∧ (p.role ≠ .query → p.fallback = none) := by
  obtain ⟨d, hd, he⟩ := h
  obtain ⟨f, hf, hclassify⟩ := EndpointDeclaration.exists_classify he hp
  obtain ⟨_, _, hentries⟩ := exists_fieldOfEntries hd hf
  exact ⟨hasClass_of_classify hentries hclassify,
    (EndpointDeclaration.fallback_of_extract he hp).2⟩

end Document

/-- What is read for an endpoint are the values of its parameters, stored under their names. -/
theorem EndpointSchema.decodeInput_eq_mergeKeys {e : EndpointSchema} {data : RequestData}
    {s : Serializer} {decoded : Values} (h : e.decodeInput data s = .ok decoded) :
    ∃ entries, List.Forall₂ (fun p entry => entry.1 = p.name ∧ p.valueIn data s = .ok entry.2)
      e.parameters entries ∧ decoded = mergeKeys entries := by
  unfold decodeInput at h
  unfold mergeKeys
  generalize e.parameters = parameters at h
  generalize ([] : Values) = start at h
  induction parameters generalizing start with
  | nil => exact ⟨[], .nil, (Except.ok.inj h).symm⟩
  | cons p rest ih =>
    rw [List.foldlM_cons] at h
    obtain ⟨next, hnext, h⟩ := Outcome.bind_eq_ok.mp h
    obtain ⟨v, hv, hstore⟩ := Outcome.bind_eq_ok.mp hnext
    obtain rfl := Except.ok.inj hstore
    obtain ⟨entries, hall, hdecoded⟩ := ih _ h
    exact ⟨(p.name, v) :: entries, .cons ⟨rfl, hv⟩ hall, hdecoded⟩

/-- What is read for an endpoint of a document is of the declared types, but for defaults that are
not. The result has a value for each parameter, stored under its name; the values stand there as
they are when no two names are one key. The value of a path or query field fits exactly when the
text sent for it is read or its default, if it has one, fits. A value that does not fit is the
default of a query field, and for an enumeration it is the absent value. -/
theorem Document.decodeInput_fits {v : Value} {d : Document} (h : Document.ofValue v = .ok d)
    {e : EndpointSchema} (he : e ∈ d.allEndpoints) {data : RequestData} {s : Serializer}
    {decoded : Values} (hread : e.decodeInput data s = .ok decoded) :
    ∃ entries, decoded = mergeKeys entries ∧
      (e.parameters.Pairwise (fun p q => p.name.sameKey q.name = false) → decoded = entries) ∧
      List.Forall₂ (fun p entry => entry.1 = p.name ∧ (p.role ≠ .body →
        (p.Fits entry.2 ↔ ∀ w, p.fallback = some w → p.IsRead data ∨ p.Fits w) ∧
        (¬p.Fits entry.2 → p.role = .query ∧ p.fallback = some entry.2 ∧
          (p.type = .enum → entry.2 = .null)))) e.parameters entries := by
  obtain ⟨group, entry, hfrom⟩ := exists_endpointFrom h he
  obtain ⟨entries, hall, hdecoded⟩ := EndpointSchema.decodeInput_eq_mergeKeys hread
  refine ⟨entries, hdecoded, fun hapart => ?_, ?_⟩
  · have hnames : List.Forall₂ (· = ·) (e.parameters.map (·.name)) (entries.map (·.1)) := by
      rw [List.forall₂_map_left_iff, List.forall₂_map_right_iff]
      exact hall.imp fun _ _ hentry => hentry.1.symm
    rw [List.forall₂_eq_eq_eq] at hnames
    have hkeys : (e.parameters.map (·.name)).Pairwise fun a b => a.sameKey b = false :=
      List.pairwise_map.mpr hapart
    rw [hnames, List.pairwise_map] at hkeys
    exact hdecoded.trans (mergeKeys_of_pairwise hkeys)
  · have hmem := (List.forall₂_and_left e.parameters entries).mpr
      ⟨fun (p : Parameter) (hp : p ∈ e.parameters) => hp, hall⟩
    refine hmem.imp ?_
    rintro p entry ⟨hp, hname, hvalue⟩
    refine ⟨hname, fun hrole => ?_⟩
    obtain ⟨hclass, hdefault⟩ := hfrom.declared hp
    obtain ⟨hiff, hnot⟩ := Parameter.fits_valueIn_iff hrole hclass hvalue
    refine ⟨hiff, fun hunfit => ?_⟩
    obtain ⟨hf, hnull⟩ := hnot hunfit
    refine ⟨?_, hf, hnull⟩
    by_contra hquery
    rw [hdefault hquery] at hf
    cases hf

/-- What a document says of a limit: it is a whole number, with a text as its default. -/
def limitFields : Values := [(.text "type", .text "integer"), (.text "default", .text "many")]

/-- What a document says of an endpoint for a list with a limit. -/
def listFields : Values :=
  [(.text "method", .text "GET"), (.text "path", .text "/list"),
    (.text "params", .map [(.text "limit", .map limitFields)])]

/-- A document with this endpoint. -/
def listDocument : Value := .map [(.text "endpoints", .map [(.text "List", .map listFields)])]

/-- The endpoint that it declares. -/
def listEndpoint : EndpointDeclaration :=
  ⟨.text "List", .text "GET", .text "/list",
    [⟨.text "limit", .plain (.text "integer"), [.query .null], some (.text "many")⟩],
    .plain .null, false, true, none⟩

/-- The parameter for the limit. -/
def limitParameter : Parameter :=
  ⟨.text "limit", .integer, .query, false, .text "limit", some (.text "many"), .plain .null⟩

/-- The extracted endpoint. -/
def listSchema : EndpointSchema :=
  ⟨.text "List", .get, "/list", [limitParameter], .plain .null, none, false, none⟩

private theorem extract_listEndpoint : listEndpoint.extract none = .ok listSchema := by
  have hmethod : Method.ofValue listEndpoint.method = .ok .get := by cbv
  have hpath : listEndpoint.ownPath = .ok "/list" := by cbv
  have hclassify : listEndpoint.fields.mapM (·.classify) = .ok [limitParameter] := rfl
  have hbodies : listEndpoint.checkBodies [limitParameter] = .ok () := by cbv
  have hwires : listEndpoint.checkWireNames [] [limitParameter] = .ok () := by cbv
  have hholes : listEndpoint.checkHoles "/list" [limitParameter] = .ok () := by cbv
  refine Outcome.bind_eq_ok.mpr ⟨_, hmethod, Outcome.bind_eq_ok.mpr ⟨_, hpath, ?_⟩⟩
  refine Outcome.bind_eq_ok.mpr ⟨_, hclassify, Outcome.bind_eq_ok.mpr ⟨_, hbodies, ?_⟩⟩
  exact Outcome.bind_eq_ok.mpr ⟨_, hwires, Outcome.bind_eq_ok.mpr ⟨_, hholes, rfl⟩⟩

/-- The document with this endpoint is accepted. -/
theorem Document.ofValue_listDocument : ofValue listDocument = .ok ⟨[], [listSchema]⟩ := by
  have hdeclared : endpointOf (.text "List") (.map listFields) = .ok listEndpoint := rfl
  have hendpoints : [(Value.text "List", Value.map listFields)].mapM (fun entry => do
      (← endpointOf entry.1 entry.2).extract none) = (.ok [listSchema] : Outcome _) := by
    rw [List.mapM_cons, List.mapM_nil, hdeclared]
    exact Outcome.bind_eq_ok.mpr ⟨_, extract_listEndpoint, rfl⟩
  refine Outcome.bind_eq_ok.mpr ⟨[], rfl, Outcome.bind_eq_ok.mpr ⟨[], rfl, ?_⟩⟩
  exact Outcome.bind_eq_ok.mpr ⟨_, rfl, Outcome.bind_eq_ok.mpr ⟨_, hendpoints, rfl⟩⟩

/-- A number that is sent for the limit is read as that. -/
theorem Document.fits_sent_limit :
    ofValue listDocument = .ok ⟨[], [listSchema]⟩ ∧
      listSchema ∈ (⟨[], [listSchema]⟩ : Document).allEndpoints ∧
      listSchema.decodeInput ⟨[], [(.text "limit", "7")], none⟩ .json =
        .ok [(.text "limit", .int 7)] ∧
      limitParameter.Fits (.int 7) := by
  have hmem : listSchema ∈ (⟨[], [listSchema]⟩ : Document).allEndpoints := List.mem_singleton_self _
  have hread : listSchema.decodeInput ⟨[], [(.text "limit", "7")], none⟩ .json =
      .ok [(.text "limit", .int 7)] := by cbv
  obtain ⟨entries, -, hsame, hall⟩ := decodeInput_fits ofValue_listDocument hmem hread
  obtain rfl := hsame (List.pairwise_singleton _ _)
  have hsent : limitParameter.IsRead ⟨[], [(.text "limit", "7")], none⟩ :=
    ⟨"7", .int 7, rfl, by cbv⟩
  have hrole : limitParameter.role ≠ .body := by decide
  obtain ⟨-, hfits⟩ := (List.forall₂_cons.mp hall).1
  exact ⟨ofValue_listDocument, hmem, hread, (hfits hrole).1.mpr fun _ _ => .inl hsent⟩

/-- Without a limit the text is read, although the limit is declared as a whole number and may not
be left out. -/
theorem Document.not_fits_left_out_limit :
    ofValue listDocument = .ok ⟨[], [listSchema]⟩ ∧
      listSchema.parameters = [limitParameter] ∧ limitParameter.role = .query ∧
      listSchema.decodeInput ⟨[], [], none⟩ .json = .ok [(.text "limit", .text "many")] ∧
      ¬limitParameter.Fits (.text "many") := by
  refine ⟨ofValue_listDocument, rfl, rfl, by cbv, ?_⟩
  rintro (⟨n, hn⟩ | ⟨hnull, -⟩)
  · cases hn
  · cases hnull

end RestContract
