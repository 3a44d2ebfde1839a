import RestContract.Proofs.Endpoint.Reading
import RestContract.Proofs.PathRoundTrip
import RestContract.Proofs.Template.Matching

/-!
# Path fields that are left out

A path field that may be left out has a hole in the path all the same. When it is left out the
client has no text for the hole, so the path keeps the mark of the hole, or, if another given name
is the beginning of the field's, the text of that one and the rest of the name. The server takes
what it finds there for the text of the field. It reads the absent value exactly when that text
stands for no value of the field's type: always for the mark of a number, a truth value, a date or a
moment, and never for a text.
-/

namespace RestContract

open Template (FillsSegment IsName Segmented filled mark pieces spread tokens)

/-! ## What is read where a text stands for no value -/

namespace Parameter

variable {p : Parameter} {text : String}

/-- A text stands for no value of a field, and this can be told. -/
def IsVoid (p : Parameter) (text : String) : Prop :=
  ∃ fault, p.decode text = .error fault ∧ fault ≠ .unanswered

/-- No text stands for the absent value. -/
theorem decode_ne_null (p : Parameter) (text : String) : p.decode text ≠ .ok .null := by
  intro h
  unfold decode at h
  cases ht : p.type <;> simp only [ht] at h
  case string => cases h
  case integer =>
    unfold readInteger at h
    split at h
    · cases h
    · split at h <;> cases h
  case float =>
    unfold readFloat at h
    split at h <;> cases h
  case boolean =>
    unfold readBoolean at h
    split at h
    · cases h
    · split at h <;> cases h
  case date => cases hread : Iso.readMoment text.toList <;> rw [hread] at h <;> cases h
  case dateOnly => cases hread : Iso.readDate text.toList <;> rw [hread] at h <;> cases h
  case enum =>
    unfold readMember at h
    split at h
    · split at h <;> cases h
    · cases h
  case json => cases h

/-- A path field that may be left out is read as the absent value exactly when there is no text for
it, or a text that stands for no value. -/
theorem textValue_eq_null_iff {key : Value} {texts : List (Value × String)}
    (ho : p.optional = true) (hf : p.fallback = none) :
    p.textValue key texts = .ok .null ↔
      ∀ text, lookupKey key texts = some text → p.IsVoid text := by
  unfold textValue IsVoid
  cases lookupKey key texts with
  | none => simp [hf, ho]
  | some text =>
    rw [Option.map_some]
    simp only [Option.some.injEq, forall_eq']
    cases hd : p.decode text with
    | ok v =>
      have hnull : v ≠ .null := by
        rintro rfl
        exact p.decode_ne_null text hd
      simp [hnull]
    | error fault => cases fault <;> simp [hf, ho]

/-- What begins with a colon stands for a text, or for a member of a class, and for nothing else. -/
theorem isVoid_colon (cs : List Char) (hs : p.type ≠ .string) (he : p.type ≠ .enum) :
    p.IsVoid (String.ofList (':' :: cs)) := by
  have hcolon : Number.isDigit ':' = false := by decide
  have hsign : Number.takeSign (':' :: cs) = (false, ':' :: cs) := rfl
  unfold IsVoid decode
  cases ht : p.type <;> simp only
  case string => exact absurd ht hs
  case enum => exact absurd ht he
  case integer =>
    have hnone : Number.WholeNumeral.ofText? (':' :: cs) = none := by
      simp [Number.WholeNumeral.ofText?, hsign, hcolon]
    rw [readInteger, String.toList_ofList, hnone]
    exact ⟨_, rfl, by rintro ⟨⟩⟩
  case float =>
    have hnone : Number.DecimalNumeral.ofText? (':' :: cs) = none := by
      simp [Number.DecimalNumeral.ofText?, hsign, hcolon]
    rw [readFloat, String.toList_ofList, hnone]
    exact ⟨_, rfl, by rintro ⟨⟩⟩
  case boolean =>
    have hother : ∀ word : String, word.toList.head? ≠ some ':' →
        String.ofList (':' :: cs) ≠ word := by
      rintro _ hword rfl
      simp at hword
    rw [readBoolean, if_neg (hother "true" (by decide)), if_neg (hother "false" (by decide))]
    exact ⟨_, rfl, by rintro ⟨⟩⟩
  case date =>
    rw [String.toList_ofList, Iso.readMoment_colon]
    exact ⟨_, rfl, by rintro ⟨⟩⟩
  case dateOnly =>
    rw [String.toList_ofList, Iso.readDate_colon]
    exact ⟨_, rfl, by rintro ⟨⟩⟩
  case json => exact ⟨_, rfl, by rintro ⟨⟩⟩

end Parameter

/-! ## The texts of some path fields -/

namespace EndpointSchema

variable {e : EndpointSchema} {values : Values}

/-- The texts of path fields have names, which are those of fields that were given a value. -/
theorem exists_named_of_foldlM {parameters : List Parameter}
    (hr : ∀ p ∈ parameters, p.role = .path)
    (hn : ∀ p ∈ parameters, ∃ name, p.name.asText? = some name) {start texts : PathTexts}
    {named : List (String × String)} (hs : named? start = some named)
    (h : parameters.foldlM (addPathText values) start = .ok texts) :
    ∃ all, named? texts = some all ∧ ∀ name ∈ all.map (·.1), name ∈ named.map (·.1) ∨
      ∃ p ∈ parameters, p.name.asText? = some name ∧ p.given values ≠ .null := by
  induction parameters generalizing start named with
  | nil =>
    obtain rfl := Except.ok.inj h
    exact ⟨named, hs, fun name hname => .inl hname⟩
  | cons p rest ih =>
    have hr' := fun q hq => hr q (List.mem_cons_of_mem p hq)
    have hn' := fun q hq => hn q (List.mem_cons_of_mem p hq)
    rw [List.foldlM_cons, addPathText_eq_textFor (hr p List.mem_cons_self)] at h
    obtain ⟨next, hnext, h⟩ := Outcome.bind_eq_ok.mp h
    cases htext : p.textFor p.name (p.given values) with
    | error f =>
      rw [htext] at hnext
      cases hnext
    | ok text? =>
      rw [htext] at hnext
      obtain rfl := Except.ok.inj hnext
      cases text? with
      | none =>
        obtain ⟨all, hall, hnames⟩ := ih hr' hn' hs h
        refine ⟨all, hall, fun name hname => (hnames name hname).imp_right ?_⟩
        rintro ⟨q, hq, hname⟩
        exact ⟨q, List.mem_cons_of_mem _ hq, hname⟩
      | some text =>
        have hgiven : p.given values ≠ .null := by
          intro hnull
          rw [hnull] at htext
          cases (Parameter.textFor_null htext).2
        obtain ⟨own, hown⟩ := hn p List.mem_cons_self
        obtain ⟨all, hall, hnames⟩ := ih hr' hn' (storeKey_named hs hown text) h
        refine ⟨all, hall, fun name hname => ?_⟩
        rcases hnames name hname with hname | ⟨q, hq, hname⟩
        · rcases mem_map_storeName.mp hname with rfl | hname
          · exact .inr ⟨p, List.mem_cons_self, hown, hgiven⟩
          · exact .inl hname
        · exact .inr ⟨q, List.mem_cons_of_mem _ hq, hname⟩

/-- A path that was made from the texts of some fields has them in its holes, or what is left of the
holes. -/
theorem resolvePath_toList (hr : e.resolver = none) {texts : PathTexts}
    {named : List (String × String)} (hnamed : named? texts = some named)
    (hnames : ∀ v ∈ named, IsName v.1) {path : PathText} (h : e.resolvePath texts = .ok path) :
    path.text.toList = spread (filled named) (pieces e.pathTemplate.toList) := by
  obtain ⟨path', hpath', htext⟩ := resolvePath_eq_ok hr hnamed
  obtain rfl := Except.ok.inj (h.symm.trans hpath')
  rw [htext]
  by_cases hempty : named = []
  · subst hempty
    have hmark : ∀ name ∈ tokens e.pathTemplate, filled [] name = mark name := by
      intro name _
      exact Template.filled_of_not_prefix nofun
    rw [if_pos rfl, Template.spread_congr hmark, Template.spread_mark_pieces]
  · rw [if_neg hempty, Template.resolve_toList_filled hnames]

end EndpointSchema

/-! ## A path field that was left out -/

/-- The data of a request with the texts that a route found in its path. -/
def RequestData.matched (params : List (String × String)) (query : QueryTexts)
    (body : Option Bytes) : RequestData :=
  ⟨params.map fun t => (.text t.1, t.2), query, body⟩

section

variable {d : EndpointDeclaration} {group : Option GroupHeader} {e : EndpointSchema}
  {values : Values}

/-- What the hole of a name holds after the given texts were put into a template, if there is such a
hole, stands for no value of a field. -/
def Parameter.HasVoidHole (p : Parameter) (template : String) (named : List (String × String))
    (name : String) : Prop :=
  name ∈ tokens template → p.IsVoid (String.ofList (filled named name))

/-- The mark of a hole stands for no value of a field, unless that is a text or a member. -/
theorem Parameter.hasVoidHole_of_not_prefix {p : Parameter} {named : List (String × String)}
    {name : String} (hfree : ∀ v ∈ named, ¬v.1.toList <+: name.toList) (hs : p.type ≠ .string)
    (he : p.type ≠ .enum) (template : String) : p.HasVoidHole template named name := by
  intro _
  rw [Template.filled_of_not_prefix hfree]
  exact isVoid_colon _ hs he

/-- Whatever a hole holds stands for a text. -/
theorem Parameter.hasVoidHole_string_iff {p : Parameter} (hs : p.type = .string)
    {template : String} {named : List (String × String)} {name : String} :
    p.HasVoidHole template named name ↔ name ∉ tokens template := by
  have hread : ¬p.IsVoid (String.ofList (filled named name)) := by
    rintro ⟨fault, hfault, -⟩
    rw [decode, hs] at hfault
    cases hfault
  exact imp_congr_right fun _ => iff_of_false hread not_false

/-- The texts that the client has for the path of an accepted endpoint have the names of holes, and
none of them is the name of a field that was left out. -/
theorem EndpointDeclaration.exists_named_pathTexts (hd : d.extract group = .ok e)
    (hc : d.checkPath = true) (hr : d.resolver = none) {texts : PathTexts}
    (htexts : e.pathTexts values = .ok texts) :
    ∃ named, named? texts = some named ∧ (∀ v ∈ named, IsName v.1) ∧
      ∀ (p : Parameter) name, p.name.asText? = some name → p.given values = .null →
        named.lookup name = none := by
  obtain ⟨hin, hown⟩ := names_ofRole_path hd hc hr
  have hpaths : ∀ q ∈ e.ofRole .path, q.role = .path := fun q hq =>
    (EndpointSchema.mem_ofRole.mp hq).2
  obtain ⟨named, hnamed, hnames⟩ :=
    EndpointSchema.exists_named_of_foldlM hpaths hin named?_nil htexts
  refine ⟨named, hnamed, ?_, ?_⟩
  · intro v hv
    rcases hnames v.1 (List.mem_map_of_mem hv) with hnone | ⟨q, hq, hfield, -⟩
    · cases hnone
    · exact Template.isName_of_hole_mem (Template.mem_holes.mp ((hown v.1).mp ⟨q, hq, hfield⟩))
  · intro p name hname hnull
    rw [← Option.not_isSome_iff_eq_none, isSome_lookup_iff]
    intro hsent
    rcases hnames name hsent with hnone | ⟨q, -, hq, hgiven⟩
    · cases hnone
    · apply hgiven
      rw [← hnull, Parameter.given, Parameter.given, lookupKey_congr hq hname]

/-- What a route finds for a name in the path that was made of some texts is what the hole of that
name holds, if the whole template has one. -/
theorem EndpointSchema.lookup_params?_resolved (hr : e.resolver = none)
    (hs : Segmented (pieces e.pathTemplate.toList)) {texts : PathTexts}
    {named : List (String × String)} (hnamed : named? texts = some named)
    (hnames : ∀ v ∈ named, IsName v.1) (hfills : ∀ t ∈ texts, FillsSegment t.2.toList)
    {path : PathText} (hpath : e.resolvePath texts = .ok path) {m : Type → Type} {route : Route m}
    (ht : route.schema.pathTemplate = e.pathTemplate) {params : List (String × String)}
    (hm : route.params? (Template.normalize (String.ofList (Url.appended path.text))) =
      some params) (name : String) :
    params.lookup name = if name ∈ tokens e.pathTemplate then
      some (String.ofList (filled named name)) else none := by
  have hsegments : ∀ v ∈ named, FillsSegment v.2.toList := by
    intro v hv
    obtain ⟨t, htm, hsame⟩ := mem_of_named? hnamed hv
    exact hsame ▸ hfills t htm
  have hholes : ∀ other ∈ tokens e.pathTemplate, FillsSegment (filled named other) := by
    intro other hother
    have hname := Template.isName_of_hole_mem (Template.mem_holes.mp hother)
    exact Template.fills_filled hsegments hname
  have hspread := resolvePath_toList hr hnamed hnames hpath
  rw [Route.params?, Route.pattern, ht] at hm
  exact Template.lookup_params?_appended hspread hs hholes hm name

/-- What a route found under a name is the text of the path field that has it. -/
theorem RequestData.lookupKey_matched {key : Value} {name : String}
    (hname : key.asText? = some name) (params : List (String × String)) (query : QueryTexts)
    (body : Option Bytes) :
    lookupKey key (matched params query body).path = params.lookup name := by
  rw [matched, lookupKey_named (named?_text params), hname, Option.bind_some]

/-- A path field that may be left out is read as the absent value from what a route found exactly
when that stands for no value of it. -/
theorem Parameter.valueIn_matched_eq_null_iff {p : Parameter} (hrole : p.role = .path)
    (ho : p.optional = true) (hf : p.fallback = none) {name : String}
    (hname : p.name.asText? = some name) {params : List (String × String)} {query : QueryTexts}
    {body : Option Bytes} {s : Serializer} :
    p.valueIn (.matched params query body) s = .ok .null ↔
      ∀ text, params.lookup name = some text → p.IsVoid text := by
  unfold valueIn
  simp only [hrole]
  rw [textValue_eq_null_iff ho hf, RequestData.lookupKey_matched hname]

/-- A path field that may be left out, and was, is sent no text, and the server finds in its place
what its hole still holds: the mark of the hole, or the text of a given name that is the beginning
of its own and the rest of that. The field is read as the absent value exactly when that is no
value of its type, or there is no such hole in the whole template. So it always is where the mark
of a number, a truth value, a date or a moment was left, and never where there is a hole for a
text. -/
theorem EndpointSchema.read_omitted_path (hd : d.extract group = .ok e) (hc : d.checkPath = true)
    (hr : d.resolver = none) (hs : Segmented (pieces e.pathTemplate.toList)) {p : Parameter}
    (hp : p ∈ e.ofRole .path) (ho : p.optional = true) (hnull : p.given values = .null)
    {texts : PathTexts} (htexts : e.pathTexts values = .ok texts)
    (hfills : ∀ t ∈ texts, FillsSegment t.2.toList) {path : PathText}
    (hpath : e.resolvePath texts = .ok path) {m : Type → Type} {route : Route m}
    (ht : route.schema.pathTemplate = e.pathTemplate) {params : List (String × String)}
    (hm : route.params? (Template.normalize (String.ofList (Url.appended path.text))) =
      some params) :
    ∃ name named, p.name.asText? = some name ∧ named? texts = some named ∧
      named.lookup name = none ∧
      (params.lookup name = if name ∈ tokens e.pathTemplate then
        some (String.ofList (filled named name)) else none) ∧
      (∀ query body s, p.valueIn (.matched params query body) s = .ok .null ↔
        p.HasVoidHole e.pathTemplate named name) ∧
      ((d.fields.Pairwise fun f g => f.name.sameKey g.name = false) →
        ∀ query body s decoded, e.decodeInput (.matched params query body) s = .ok decoded →
          (lookupKey p.name decoded = some .null ↔ p.HasVoidHole e.pathTemplate named name)) ∧
      ((∀ v ∈ named, ¬v.1.toList <+: name.toList) → p.type ≠ .string → p.type ≠ .enum →
        p.HasVoidHole e.pathTemplate named name) ∧
      (p.type = .string →
        (p.HasVoidHole e.pathTemplate named name ↔ name ∉ tokens e.pathTemplate)) := by
  obtain ⟨hmem, hrole⟩ := mem_ofRole.mp hp
  obtain ⟨name, hname⟩ := (EndpointDeclaration.names_ofRole_path hd hc hr).1 p hp
  obtain ⟨named, hnamed, hnames, hunsent⟩ :=
    EndpointDeclaration.exists_named_pathTexts hd hc hr htexts
  have hres : e.resolver = none := by
    obtain ⟨_, _, _, -, -, -, -, -, -, rfl⟩ := EndpointDeclaration.extract_eq_ok hd
    exact hr
  have hlookup := lookup_params?_resolved hres hs hnamed hnames hfills hpath ht hm name
  have hfallback : p.fallback = none :=
    (EndpointDeclaration.fallback_of_extract hd hmem).2 (by rw [hrole]; decide)
  have hvalue : ∀ query body s, p.valueIn (.matched params query body) s = .ok .null ↔
      p.HasVoidHole e.pathTemplate named name := by
    intro query body s
    rw [Parameter.valueIn_matched_eq_null_iff hrole ho hfallback hname, hlookup]
    unfold Parameter.HasVoidHole
    by_cases htoken : name ∈ tokens e.pathTemplate <;> simp [htoken]
  refine ⟨name, named, hname, hnamed, hunsent p name hname hnull, hlookup, hvalue, ?_, ?_, ?_⟩
  · intro hapart query body s decoded hread
    have hself : p.name.sameKey p.name = true := (Value.sameKey_of_asText? hname).mpr hname
    obtain ⟨v, hv, hfound⟩ := lookupKey_decodeInput (EndpointDeclaration.pairwise_names hd hapart)
      hread hmem hself
    rw [← hvalue query body s, hfound, hv, Option.some.injEq, Except.ok.injEq]
  · intro hfree hstring henum
    exact Parameter.hasVoidHole_of_not_prefix hfree hstring henum _
  · intro hstring
    exact Parameter.hasVoidHole_string_iff hstring

end

/-- A path field of the endpoint below. -/
def rowsParameter (name : String) (type : ParamType) (optional : Bool) (shape : Shape) :
    Parameter :=
  ⟨.text name, type, .path, optional, .text name, none, .shape shape⟩

/-- An endpoint with three path fields that may be left out. -/
def rowsEndpoint : EndpointDeclaration :=
  ⟨.text "Rows", .text "GET", .text "/v1/:id/:id5/:name/:page",
    [⟨.text "id", .shape .text, [.path], none⟩,
      ⟨.text "id5", .shape (.union [.integer, .null]), [.path], none⟩,
      ⟨.text "name", .shape (.union [.text, .null]), [.path], none⟩,
      ⟨.text "page", .shape (.union [.integer, .null]), [.path], none⟩],
    .plain .null, false, true, none⟩

/-- The extracted endpoint. -/
def rowsSchema : EndpointSchema :=
  ⟨.text "Rows", .get, "/v1/:id/:id5/:name/:page",
    [rowsParameter "id" .string false .text, rowsParameter "id5" .integer true .integer,
      rowsParameter "name" .string true .text, rowsParameter "page" .integer true .integer],
    .plain .null, none, false, none⟩

/-- One value is given, and the others are left out. -/
def rowsValues : Values :=
  [(.text "id", .text "7"), (.text "id5", .null), (.text "name", .null), (.text "page", .null)]

/-- What the route finds in the path that is made of that. -/
def rowsParams : List (String × String) :=
  [("id", "7"), ("id5", "75"), ("name", ":name"), ("page", ":page")]

/-- The endpoint is accepted. -/
theorem extract_rowsEndpoint : rowsEndpoint.extract none = .ok rowsSchema := by cbv

/-- The client has one text. -/
theorem pathTexts_rowsValues : rowsSchema.pathTexts rowsValues = .ok [(.text "id", "7")] := rfl

/-- It puts that text into the path wherever a name begins with its own. -/
theorem resolvePath_rows :
    rowsSchema.resolvePath [(.text "id", "7")] = .ok "/v1/7/75/:name/:page" := by
  have hfilled : Template.resolve "/v1/:id/:id5/:name/:page" [("id", "7")] =
      "/v1/7/75/:name/:page" := by cbv
  exact congrArg (fun text : String => Except.ok (PathText.of text)) hfilled

/-- The route of the endpoint matches the path. -/
theorem params?_rows : (silentRoute rowsSchema).params?
    (Template.normalize (String.ofList (Url.appended "/v1/7/75/:name/:page"))) =
      some rowsParams := by decide +kernel

private theorem segmented_rows : Segmented (pieces rowsSchema.pathTemplate.toList) := by
  decide +kernel

/-- A number that was left out is read as the absent value where its mark was left. -/
theorem read_omitted_page :
    rowsEndpoint.extract none = .ok rowsSchema ∧
      rowsSchema.pathTexts rowsValues = .ok [(.text "id", "7")] ∧
      rowsSchema.resolvePath [(.text "id", "7")] = .ok "/v1/7/75/:name/:page" ∧
      ∀ query body s, (rowsParameter "page" .integer true .integer).valueIn
        (.matched rowsParams query body) s = .ok .null := by
  refine ⟨extract_rowsEndpoint, pathTexts_rowsValues, resolvePath_rows, fun query body s => ?_⟩
  have hmem : rowsParameter "page" .integer true .integer ∈ rowsSchema.ofRole .path := by
    simp [EndpointSchema.ofRole, rowsSchema, rowsParameter]
  obtain ⟨name, named, hname, hnamed, -, -, hvalue, -, hmark, -⟩ :=
    EndpointSchema.read_omitted_path extract_rowsEndpoint rfl rfl segmented_rows hmem rfl rfl
      pathTexts_rowsValues (by simp [FillsSegment]) resolvePath_rows rfl params?_rows
  obtain rfl : "page" = name := Option.some.inj hname
  obtain rfl : [("id", "7")] = named := Option.some.inj hnamed
  exact (hvalue query body s).mpr (hmark (by decide) (by rintro ⟨⟩) (by rintro ⟨⟩))

/-- What is read of what the route finds. -/
def rowsDecoded : Values :=
  [(.text "id", .text "7"), (.text "id5", .int 75), (.text "name", .text ":name"),
    (.text "page", .null)]

/-- A text that was left out is received as the mark of its hole, and a number whose name begins
with a given one as a number that nobody sent. -/
theorem not_omitted_rows :
    rowsEndpoint.extract none = .ok rowsSchema ∧
      Segmented (pieces rowsSchema.pathTemplate.toList) ∧
      rowsSchema.pathTexts rowsValues = .ok [(.text "id", "7")] ∧
      rowsSchema.resolvePath [(.text "id", "7")] = .ok "/v1/7/75/:name/:page" ∧
      (silentRoute rowsSchema).params?
        (Template.normalize (String.ofList (Url.appended "/v1/7/75/:name/:page"))) =
          some rowsParams ∧
      rowsSchema.decodeInput (.matched rowsParams [] none) .json = .ok rowsDecoded ∧
      lookupKey (.text "name") rowsDecoded = some (.text ":name") ∧
      lookupKey (.text "id5") rowsDecoded = some (.int 75) := by
  refine ⟨extract_rowsEndpoint, segmented_rows, pathTexts_rowsValues, resolvePath_rows,
    params?_rows, by cbv, rfl, rfl⟩

end RestContract
