import RestContract.Proofs.Endpoint.PathTexts
import RestContract.Proofs.Time.Iso

/-!
# Values that a client sends and a server reads

The text of a value on the wire is read as that value, when the value is of the type of its
parameter. The client stores the texts of path fields under their names and those of query
fields under their wire names, which are apart in an accepted endpoint, and the server
looks them up there. So the server has every value that the client was given.
-/

namespace RestContract

private theorem Value.plainText_text (s : String) : (Value.text s).plainText = .ok s := by
  simp [plainText, unplain?, unquoted?, unlessUnshown]

/-- A whole number with few enough digits has them as its plain text. -/
theorem Value.plainText_int {n : Int} (h : n.natAbs < 10 ^ Number.maxDigits) :
    (Value.int n).plainText = .ok (toString n) := by
  have hquoted : Value.quotedIn [] (.int n) = toString n := by
    rw [quotedIn]
  simp [plainText, unplain?, unquoted?, unlessUnshown, Number.isWritable, h, plain, quoted, hquoted]

namespace Parameter

/-- A value of the type of a path or query field. -/
def AdmitsText (p : Parameter) (v : Value) : Prop :=
  match p.type with
  | .string => ∃ s, v = .text s
  | .integer => ∃ n : Int, v = .int n ∧ n.natAbs < 10 ^ Number.maxDigits
  | .float => ∃ s, p.encode v = .ok s ∧ p.decode s = .ok v
  | .boolean => ∃ b, v = .bool b
  | .date => ∃ t : Moment, v = .moment t ∧ t.offset = some 0 ∧ t.micro = 0 ∧ 1000 ≤ t.date.year
  | .dateOnly => ∃ d, v = .date d
  | .enum => ∃ c m, p.valueType = .shape (.enumeration c) ∧ v = .member m ∧ c.find? m.value = some m
  | .json => False

/-- A value of the type of a parameter; that of a body is one which its payload is read as. -/
def Admits (s : Serializer) (p : Parameter) (v : Value) : Prop :=
  match p.role with
  | .body => v.isNull = false ∧ ∃ data, s.encode v = .ok data ∧ s.decode p.valueType data = .ok v
  | _ => p.AdmitsText v

/-- A value of the type of a parameter, or none where the parameter may be left out and has no
default. -/
def Takes (s : Serializer) (p : Parameter) (v : Value) : Prop :=
  p.Admits s v ∨ (v = .null ∧ p.optional = true ∧ p.fallback = none)

/-- A whole number with few enough digits is read back from its text. -/
theorem readInteger_toString {n : Int} (h : n.natAbs < 10 ^ Number.maxDigits) :
    readInteger (toString n) = .ok (.int n) := by
  obtain ⟨w, hw, hdigits, hvalue⟩ := Number.ofText?_toString n
  have hpos : 0 < Number.maxDigits := by decide
  have hlength : ¬w.digits.length > Number.maxDigits := by
    rw [hdigits]
    exact Nat.not_lt.mpr ((Nat.length_toDigits_le_iff (by decide) hpos).mpr h)
  rw [readInteger, hw]
  simp only [hlength, if_false, hvalue]

/-- A truth value is read back from its text. -/
theorem readBoolean_text (b : Bool) :
    readBoolean (if b then "true" else "false") = .ok (.bool b) := by
  cases b <;> rfl

private theorem isNull_of_readFloat {s : String} {v : Value} (h : readFloat s = .ok v) :
    v.isNull = false := by
  unfold readFloat at h
  split at h
  · cases h
  · rw [← Except.ok.inj h]
    rfl

/-- A value of the type of a path or query field is read back from its text. -/
theorem decode_encode {p : Parameter} {v : Value} (h : p.AdmitsText v) :
    v.isNull = false ∧ ∃ text, p.encode v = .ok text ∧ p.decode text = .ok v := by
  unfold AdmitsText at h
  cases ht : p.type <;> rw [ht] at h
  case string =>
    obtain ⟨s, rfl⟩ := h
    exact ⟨rfl, s, by simp only [encode, ht, Value.plainText_text], by simp only [decode, ht]⟩
  case integer =>
    obtain ⟨n, rfl, hn⟩ := h
    exact ⟨rfl, toString n, by simp only [encode, ht, Value.plainText_int hn],
      by simp only [decode, ht, readInteger_toString hn]⟩
  case float =>
    obtain ⟨s, hs, hd⟩ := h
    refine ⟨?_, s, hs, hd⟩
    simp only [decode, ht] at hd
    exact isNull_of_readFloat hd
  case boolean =>
    obtain ⟨b, rfl⟩ := h
    refine ⟨rfl, if b then "true" else "false", ?_, by simp only [decode, ht, readBoolean_text]⟩
    simp only [encode, ht]
    rfl
  case date =>
    obtain ⟨t, rfl, ho, hm, hy⟩ := h
    obtain ⟨s, hs, hr⟩ := Iso.readMoment_wireText ho hm hy
    exact ⟨rfl, s, by simp only [encode, ht, Value.momentText, hs],
      by simp only [decode, ht, hr]; rfl⟩
  case dateOnly =>
    obtain ⟨d, rfl⟩ := h
    refine ⟨rfl, d.text, by simp only [encode, ht, Value.dateText], ?_⟩
    simp only [decode, ht, Iso.readDate_text]
    rfl
  case enum =>
    obtain ⟨c, m, hc, rfl, hm⟩ := h
    exact ⟨rfl, m.value, by simp only [encode, ht], by simp only [decode, ht, hc, readMember, hm]⟩
  case json => exact h.elim

/-- The text that is sent for a value, none for an absent one. -/
def sentText? (p : Parameter) (v : Value) : Option String :=
  if v.isNull then none else (p.encode v).toOption

/-- For a value of its type, or for none, a path or query field has the text that is read as the
value. -/
theorem Takes.sentText? {s : Serializer} {p : Parameter} {v : Value} (h : p.Takes s v)
    (hr : p.role ≠ .body) :
    (∃ text, v.isNull = false ∧ p.encode v = .ok text ∧ p.sentText? v = some text ∧
      p.decode text = .ok v) ∨
      (v = .null ∧ p.optional = true ∧ p.fallback = none ∧ p.sentText? v = none) := by
  rcases h with h | ⟨rfl, ho, hf⟩
  · left
    have hadmits : p.AdmitsText v := by
      unfold Admits at h
      split at h
      · exact absurd ‹p.role = .body› hr
      · exact h
    obtain ⟨hn, text, he, hd⟩ := decode_encode hadmits
    exact ⟨text, hn, he, by rw [Parameter.sentText?, hn, he]; rfl, hd⟩
  · exact Or.inr ⟨rfl, ho, hf, rfl⟩

private theorem Takes.textValue {s : Serializer} {p : Parameter} {v : Value} (h : p.Takes s v)
    (hr : p.role ≠ .body) {key : Value} {texts : List (Value × String)}
    (hl : lookupKey key texts = p.sentText? v) :
    p.textValue key texts = .ok v := by
  unfold Parameter.textValue
  rcases h.sentText? hr with ⟨text, -, -, hs, hd⟩ | ⟨rfl, ho, hf, hs⟩
  · rw [hl, hs, Option.map_some, hd]
  · rw [hl, hs, Option.map_none, hf, ho]
    rfl

end Parameter

namespace EndpointSchema

variable {s : Serializer} {values : Values} {p : Parameter} {v : Value}

private theorem addPathText_eq (h : p.Takes s v) (hr : p.role ≠ .body)
    (hl : lookupKey p.name values = some v) (texts : PathTexts) :
    addPathText values texts p =
      .ok ((p.sentText? v).elim texts fun t => storeKey p.name t texts) := by
  rcases h.sentText? hr with ⟨text, hn, he, hs, -⟩ | ⟨rfl, ho, -, hs⟩
  · rw [hs, Option.elim_some, addPathText_eq_ok hl hn he]
  · rw [addPathText, hl, hs, ho]
    rfl

/-- The client adds the text of a query field, if it has one. -/
theorem addQueryText_eq (h : p.Takes s v) (hr : p.role ≠ .body)
    (hl : lookupKey p.name values = some v) (texts : QueryTexts) :
    addQueryText values texts p =
      .ok ((p.sentText? v).elim texts fun t => storeKey p.wireName t texts) := by
  unfold addQueryText
  rw [hl, Option.getD_some]
  rcases h.sentText? hr with ⟨text, hn, he, hs, -⟩ | ⟨rfl, ho, -, hs⟩
  · rw [hs, Option.elim_some]
    cases v with
    | null => cases hn
    | _ =>
      simp only [he]
      rfl
  · rw [hs, ho]
    rfl

end EndpointSchema

/-- The value that is given to a parameter, the absent one if there is none. -/
def Parameter.given (values : Values) (p : Parameter) : Value :=
  (lookupKey p.name values).getD .null

namespace EndpointSchema

variable {e : EndpointSchema}

/-- Every parameter is given a value that it takes. -/
def Given (s : Serializer) (e : EndpointSchema) (values : Values) : Prop :=
  ∀ p ∈ e.parameters, ∃ v, lookupKey p.name values = some v ∧ p.Takes s v

/-- A given value is found under the name of its parameter, which takes it. -/
theorem Given.takes (h : e.Given s values) (hp : p ∈ e.parameters) :
    lookupKey p.name values = some (p.given values) ∧ p.Takes s (p.given values) := by
  obtain ⟨v, hl, ht⟩ := h p hp
  have hv : p.given values = v := by rw [Parameter.given, hl, Option.getD_some]
  rw [hv]
  exact ⟨hl, ht⟩

private theorem pathTexts_eq_gather (h : e.Given s values)
    (hd : e.parameters.Pairwise fun p q => p.name.sameKey q.name = false) :
    ∃ path, e.pathTexts values = .ok path ∧
      path = gather (·.name) (fun p => p.sentText? (p.given values)) (e.ofRole .path) := by
  refine ⟨_, ?_, rfl⟩
  rw [pathTexts]
  refine foldlM_gather (fun p hp texts => ?_) (hd.filter _) (fun e he => by cases he)
  obtain ⟨hp, hr⟩ := List.mem_filter.mp hp
  obtain ⟨hl, ht⟩ := h.takes hp
  exact addPathText_eq ht (by rw [of_decide_eq_true hr]; decide) hl texts

/-- The client gathers the texts of the query fields under their names on the wire. -/
theorem queryTexts_eq_gather (h : e.Given s values)
    (hd : (e.ofRole .query).Pairwise fun p q => p.wireName.sameKey q.wireName = false) :
    ∃ query, e.queryTexts values = .ok query ∧ query.getD [] =
      gather (·.wireName) (fun p => p.sentText? (p.given values)) (e.ofRole .query) := by
  have hfold : (e.ofRole .query).foldlM (addQueryText values) [] =
      .ok ([] ++
        gather (·.wireName) (fun p => p.sentText? (p.given values)) (e.ofRole .query)) := by
    refine foldlM_gather (fun p hp texts => ?_) hd (fun e he => by cases he)
    obtain ⟨hp, hr⟩ := List.mem_filter.mp hp
    obtain ⟨hl, ht⟩ := h.takes hp
    exact addQueryText_eq ht (by rw [of_decide_eq_true hr]; decide) hl texts
  rw [List.nil_append] at hfold
  generalize gather _ _ _ = texts at hfold ⊢
  refine ⟨if texts.isEmpty then none else some texts, ?_, ?_⟩
  · rw [queryTexts, hfold]
    rfl
  · cases texts <;> rfl

/-- The body is the payload of its value, and is read as that. -/
theorem encodeBody_given (h : e.Given s values)
    (hone : ∀ p ∈ e.parameters, p.role = .body → ∀ q ∈ e.parameters, q.role = .body → p = q) :
    ∃ body, e.encodeBody values s = .ok body ∧
      ∀ p ∈ e.parameters, p.role = .body → p.bodyValue body s = .ok (p.given values) := by
  unfold encodeBody
  cases hb : e.bodyParameter? with
  | none =>
    refine ⟨none, rfl, fun p hp hr => ?_⟩
    have hnone := List.find?_eq_none.mp hb p hp
    exact absurd (decide_eq_true hr) hnone
  | some q =>
    have hq : q ∈ e.parameters := List.mem_of_find?_eq_some hb
    have hqr : q.role = .body := by simpa using List.find?_some hb
    obtain ⟨hl, ht⟩ := h.takes hq
    simp only [hl, Option.getD_some]
    rcases ht with ht | ⟨hnull, ho, -⟩
    · unfold Parameter.Admits at ht
      rw [hqr] at ht
      obtain ⟨hn, data, henc, hdec⟩ := ht
      refine ⟨some data, ?_, fun p hp hr => ?_⟩
      · cases hg : q.given values with
        | null =>
          rw [hg] at hn
          cases hn
        | _ =>
          rw [hg] at henc
          simp only [henc]
          rfl
      · rw [hone p hp hr q hq hqr]
        exact hdec
    · refine ⟨none, ?_, fun p hp hr => ?_⟩
      · rw [hnull, ho]
        rfl
      · rw [hone p hp hr q hq hqr, Parameter.bodyValue, ho, hnull]
        rfl

end EndpointSchema

section

variable {d : EndpointDeclaration} {group : Option GroupHeader} {e : EndpointSchema}
  {s : Serializer} {values : Values}

/-- The names of an accepted endpoint's parameters are apart when those of its fields are. -/
theorem EndpointDeclaration.pairwise_names (h : d.extract group = .ok e)
    (hd : d.fields.Pairwise fun f g => f.name.sameKey g.name = false) :
    e.parameters.Pairwise fun p q => p.name.sameKey q.name = false := by
  obtain ⟨_, _, parameters, -, -, hclassify, -, -, -, rfl⟩ := extract_eq_ok h
  have hnames := names_of_classify hclassify
  have hmap : (d.fields.map (·.name)).Pairwise fun a b => a.sameKey b = false :=
    List.pairwise_map.mpr hd
  rw [← hnames] at hmap
  exact List.pairwise_map.mp hmap

/-- Where keys are apart, a parameter is read as its value from the texts that were gathered. -/
theorem EndpointSchema.Given.valueIn (h : e.Given s values)
    (hnames : e.parameters.Pairwise fun p q => p.name.sameKey q.name = false)
    (hwire : (e.ofRole .query).Pairwise fun p q => p.wireName.sameKey q.wireName = false)
    (hk : ∀ p ∈ e.ofRole .query, p.wireName.sameKey p.wireName = true) (data : RequestData)
    (hpath : data.path = gather (·.name) (fun p => p.sentText? (p.given values)) (e.ofRole .path))
    (hquery : data.query =
      gather (·.wireName) (fun p => p.sentText? (p.given values)) (e.ofRole .query))
    (hbody : ∀ p ∈ e.parameters, p.role = .body → p.bodyValue data.body s = .ok (p.given values))
    {p : Parameter} (hp : p ∈ e.parameters) : p.valueIn data s = .ok (p.given values) := by
  obtain ⟨-, ht⟩ := h.takes hp
  unfold Parameter.valueIn
  cases hr : p.role with
  | path =>
    have hself := Value.sameKey_self_of_lookupKey (h.takes hp).1
    apply ht.textValue (by rw [hr]; decide)
    rw [hpath]
    exact lookupKey_gather (hnames.filter _) (List.mem_filter.mpr ⟨hp, decide_eq_true hr⟩) hself
  | query =>
    apply ht.textValue (by rw [hr]; decide)
    rw [hquery]
    have hmem : p ∈ e.ofRole .query := List.mem_filter.mpr ⟨hp, decide_eq_true hr⟩
    exact lookupKey_gather hwire hmem (hk p hmem)
  | body => exact hbody p hp hr

/-- The server reads every value that a client was given, in the order of the parameters, when the
names of the fields are apart and the names on the wire are keys that can be found again, as all
texts are. -/
theorem EndpointSchema.decodeInput_sent (h : d.extract group = .ok e)
    (hd : d.fields.Pairwise fun f g => f.name.sameKey g.name = false)
    (hk : ∀ p ∈ e.ofRole .query, p.wireName.sameKey p.wireName = true)
    (hv : e.Given s values) :
    ∃ path query body, e.pathTexts values = .ok path ∧ e.queryTexts values = .ok query ∧
      e.encodeBody values s = .ok body ∧
      e.decodeInput ⟨path, query.getD [], body⟩ s =
        .ok (e.parameters.map fun p => (p.name, p.given values)) := by
  have hnames := EndpointDeclaration.pairwise_names h hd
  have hone : ∀ p ∈ e.parameters, p.role = .body → ∀ q ∈ e.parameters, q.role = .body → p = q := by
    obtain ⟨_, _, _, -, -, -, hbodies, -, -, rfl⟩ := EndpointDeclaration.extract_eq_ok h
    exact fun p hp hpr q hq hqr => EndpointDeclaration.checkBodies_eq_ok hbodies hp hpr hq hqr
  have hwire : (e.ofRole .query).Pairwise fun p q => p.wireName.sameKey q.wireName = false := by
    obtain ⟨_, _, _, -, -, -, -, hwires, -, rfl⟩ := EndpointDeclaration.extract_eq_ok h
    exact (EndpointDeclaration.checkWireNames_eq_ok hwires).2
  obtain ⟨path, hpath, hp⟩ := pathTexts_eq_gather hv hnames
  obtain ⟨query, hquery, hq⟩ := queryTexts_eq_gather hv hwire
  obtain ⟨body, hbody, hb⟩ := encodeBody_given hv hone
  refine ⟨path, query, body, hpath, hquery, hbody, ?_⟩
  have hall : e.parameters.map (fun p => (p.name, p.given values)) =
      gather (·.name) (fun p => some (p.given values)) e.parameters := by
    simp [gather]
  rw [decodeInput, hall]
  refine foldlM_gather (fun p hm entries => ?_) hnames fun e he => by cases he
  have hvalue := hv.valueIn hnames hwire hk ⟨path, query.getD [], body⟩ hp hq hb hm
  rw [hvalue]
  rfl

end

/-- An endpoint with a field of every role, one of them left out by default. -/
def visitEndpoint : EndpointDeclaration :=
  ⟨.text "Visit", .text "post", .text "/rooms/:room",
    [⟨.text "room", .shape .integer, [.path], none⟩,
      ⟨.text "day", .shape .date, [.query (.text "on")], none⟩,
      ⟨.text "note", .shape (.union [.text, .null]), [], none⟩,
      ⟨.text "guest", .shape .text, [.body], none⟩],
    .plain .null, false, true, none⟩

/-- The extracted endpoint. -/
def visitSchema : EndpointSchema :=
  ⟨.text "Visit", .post, "/rooms/:room",
    [⟨.text "room", .integer, .path, false, .text "room", none, .shape .integer⟩,
      ⟨.text "day", .dateOnly, .query, false, .text "on", none, .shape .date⟩,
      ⟨.text "note", .string, .query, true, .text "note", none, .shape .text⟩,
      ⟨.text "guest", .json, .body, false, .text "guest", none, .shape .text⟩],
    .plain .null, none, false, none⟩

/-- Values for the endpoint. -/
def visitValues : Values :=
  [(.text "room", .int (-7)), (.text "day", .date ⟨2024, 2, 29, by decide⟩), (.text "note", .null),
    (.text "guest", .text "Ann")]

/-- A room, a day under another name and a guest in the body are read as they were sent, and no note
is none. -/
theorem visitSchema_decodeInput_sent :
    visitEndpoint.extract none = .ok visitSchema ∧
      ∃ path query body, visitSchema.pathTexts visitValues = .ok path ∧
        visitSchema.queryTexts visitValues = .ok query ∧
        visitSchema.encodeBody visitValues .json = .ok body ∧
        visitSchema.decodeInput ⟨path, query.getD [], body⟩ .json = .ok visitValues := by
  have hextract : visitEndpoint.extract none = .ok visitSchema := by cbv
  have hencode : Serializer.json.encode (.text "Ann") = .ok [0x22, 0x41, 0x6E, 0x6E, 0x22] := by cbv
  have hdecode : Serializer.json.decode (.shape .text) [0x22, 0x41, 0x6E, 0x6E, 0x22] =
      .ok (.text "Ann") := by cbv
  refine ⟨hextract, EndpointSchema.decodeInput_sent hextract ?_ ?_ ?_⟩
  · simp [visitEndpoint]
  · simp [visitSchema, EndpointSchema.ofRole]
  · intro p hp
    simp only [visitSchema, List.mem_cons, List.not_mem_nil, or_false] at hp
    rcases hp with rfl | rfl | rfl | rfl
    · have hdigits : (-7 : Int).natAbs < 10 ^ Number.maxDigits :=
        Nat.lt_of_lt_of_le (show 7 < 10 ^ 1 by decide)
          (Nat.pow_le_pow_right (by decide) (by decide))
      exact ⟨.int (-7), rfl, Or.inl ⟨-7, rfl, hdigits⟩⟩
    · exact ⟨_, rfl, Or.inl ⟨_, rfl⟩⟩
    · exact ⟨.null, rfl, Or.inr ⟨rfl, rfl, rfl⟩⟩
    · exact ⟨.text "Ann", rfl, Or.inl ⟨rfl, _, hencode, hdecode⟩⟩

end RestContract
