import RestContract.Proofs.Endpoint.Reading
import RestContract.Proofs.Request.Form

/-!
# The query of a request

A request has a question mark behind its address when texts are sent for query fields, and only
then: neither a base address without one nor a coded path brings any. What stands behind it is read
back as the texts that were sent, in the order of the fields, each under the text that its name is
shown as. For a name that is a text, or bytes, this is the name itself. A member of a class of texts
is shown with its class instead, while the request tells the text that stands for it.
-/

namespace RestContract

/-! ## Names and texts in an address -/

/-- The text under which a name stands in the query of an address: bytes are the text that they
encode, everything else has its plain text. -/
def queryLabel : Value → String
  | .bytes b => (Utf8.decode? b).getD ""
  | v => v.plain

/-- The texts of a query under the texts that its names are shown as. -/
def shownQuery (texts : QueryTexts) : List (String × String) :=
  texts.map fun t => (queryLabel t.1, t.2)

/-- The texts of a query under the texts that its names are. -/
def toldQuery (texts : QueryTexts) : List (String × String) :=
  texts.map fun t => ((queryName? t.1).getD "", t.2)

/-- The query behind the first question mark of an address, if there is one, as it is read. -/
def Url.readQuery? (url : String) : Option (Option (List (String × String))) :=
  match Text.cut '?' url.toList with
  | (_, some query) => (Percent.readPairs? query).map some
  | (_, none) => some none

private theorem readField?_formName {name : Value} (h : (queryName? name).isSome = true) :
    Percent.readField? (EndpointSchema.formName name) = some (queryLabel name) := by
  cases name with
  | bytes b =>
    obtain ⟨text, htext⟩ := Option.isSome_iff_exists.mp h
    have hdecode : Utf8.decode? b = some text := htext
    rw [EndpointSchema.formName, Percent.readField?_formBytes, queryLabel, hdecode]
    rfl
  | _ => exact Percent.readField?_formField _

private theorem isFormChar_of_mem_formName {name : Value} {c : Char}
    (h : c ∈ EndpointSchema.formName name) : Percent.isFormChar c = true := by
  unfold EndpointSchema.formName at h
  split at h
  · exact Percent.isFormChar_of_mem_formBytes h
  · exact Percent.isFormChar_of_mem_formField h

private theorem queryLabel_eq_iff {name : Value} {n : String} (h : queryName? name = some n) :
    queryLabel name = n ↔ ∀ m, name = .member m → (Value.member m).plain = m.value := by
  unfold queryName? at h
  unfold queryLabel
  cases name <;> simp_all [Value.asText?, Value.plain]

private theorem shownQuery_eq_toldQuery_iff {texts : QueryTexts}
    (h : ∀ t ∈ texts, (queryName? t.1).isSome = true) :
    shownQuery texts = toldQuery texts ↔
      ∀ t ∈ texts, ∀ m, t.1 = .member m → (Value.member m).plain = m.value := by
  rw [shownQuery, toldQuery, List.map_inj_left]
  refine forall₂_congr fun t ht => ?_
  obtain ⟨n, hn⟩ := Option.isSome_iff_exists.mp (h t ht)
  rw [hn, Option.getD_some, ← queryLabel_eq_iff hn, Prod.mk.injEq]
  exact and_iff_left rfl

/-- Texts under names that are texts are shown as they are. -/
theorem eq_of_shownQuery {texts others : QueryTexts} (h : ∀ t ∈ texts, ∃ s, t.1 = .text s)
    (ho : ∀ t ∈ others, ∃ s, t.1 = .text s) (hsame : shownQuery texts = shownQuery others) :
    texts = others := by
  have hback : ∀ {texts : QueryTexts}, (∀ t ∈ texts, ∃ s, t.1 = .text s) →
      (shownQuery texts).map (fun t => (Value.text t.1, t.2)) = texts := by
    intro texts h
    rw [shownQuery, List.map_map]
    refine (List.map_congr_left fun t ht => ?_).trans (List.map_id texts)
    obtain ⟨s, hs⟩ := h t ht
    have hlabel : Value.text (queryLabel t.1) = t.1 := by
      rw [hs]
      rfl
    exact Prod.ext hlabel rfl
  rw [← hback h, ← hback ho, hsame]

namespace Url

private theorem questionMark_notMem_join {base path url : String} (h : '?' ∉ base.toList)
    (hjoin : join? base path = some url) : '?' ∉ url.toList := by
  rw [join?_eq] at hjoin
  obtain ⟨_, -, rfl⟩ := Option.map_eq_some_iff.mp hjoin
  rw [String.toList_ofList]
  intro hm
  rcases mem_or_isPlain_of_mem_append hm with hm | hm
  · exact h hm
  · exact absurd hm (by decide)

private theorem eq_of_join?_empty {base url : String} (h : join? base "" = some url) :
    url = base := by
  rw [join?_eq] at h
  obtain ⟨_, -, rfl⟩ := Option.map_eq_some_iff.mp h
  simp [trimmedBase, appended]

private theorem readQuery?_of_notMem {url : String} (h : '?' ∉ url.toList) :
    readQuery? url = some none := by
  rw [readQuery?, cut_of_notMem h]

private theorem readQuery?_append {url query : String} (h : '?' ∉ url.toList) :
    readQuery? (url ++ "?" ++ query) = (Percent.readPairs? query.toList).map some := by
  have hmark : (url ++ "?" ++ query).toList = url.toList ++ '?' :: query.toList := by simp
  have hcut : Text.cut '?' (url.toList ++ '?' :: query.toList) = (url.toList, some query.toList) :=
    Text.cut_eq_some_iff.mpr ⟨rfl, h⟩
  rw [readQuery?, hmark, hcut]

end Url

/-! ## Requests -/

namespace EndpointSchema

variable {e : EndpointSchema} {values : Values} {base : Value} {path : Option PathText}
  {request : Request} {b : PathText}

private theorem sublist_queryTexts {query : Option QueryTexts}
    (h : e.queryTexts values = .ok query) :
    ((query.getD []).map (·.1)).Sublist ((e.ofRole .query).map (·.wireName)) := by
  obtain ⟨texts, htexts, hquery⟩ := Outcome.bind_eq_ok.mp h
  have hgiven : query.getD [] = texts := by
    rw [← Except.ok.inj hquery]
    cases texts <;> rfl
  have hstep : ∀ p ∈ e.ofRole .query, ∀ texts, addQueryText values texts p = _ :=
    fun p hp texts => addQueryText_eq_textFor (mem_ofRole.mp hp).2 texts
  rw [hgiven]
  exact sublist_foldlM_store hstep htexts

private theorem queryTexts_ne_nil {texts : QueryTexts}
    (h : e.queryTexts values = .ok (some texts)) : texts ≠ [] := by
  obtain ⟨all, -, hquery⟩ := Outcome.bind_eq_ok.mp h
  rintro rfl
  have hsome := Except.ok.inj hquery
  split at hsome
  · cases hsome
  next hne =>
    obtain rfl := Option.some.inj hsome
    exact hne rfl

/-- The address of a path is made by joining; only where there is no path it is shown as the base
address is. -/
theorem address_eq_ok {path url : PathText} (hb : PathText.ofValue? base = some b)
    (h : address base path = .ok url) :
    Url.join? b.text path.text = some url.text ∧
      url.shown = if path.text = "" then b.shown else url.text := by
  simp only [address, hb] at h
  cases hjoin : Url.join? b.text path.text with
  | none =>
    rw [hjoin] at h
    cases h
  | some joined =>
    rw [hjoin] at h
    obtain rfl := Except.ok.inj h
    by_cases hpath : path.text = ""
    · have hempty : path.isEmpty = true := by rw [PathText.isEmpty, hpath]; rfl
      rw [hpath] at hjoin
      rw [if_pos hempty, if_pos hpath]
      exact ⟨congrArg some (Url.eq_of_join?_empty hjoin), rfl⟩
    · have hempty : ¬path.isEmpty = true := by simpa [PathText.isEmpty] using hpath
      rw [if_neg hempty, if_neg hpath]
      exact ⟨rfl, rfl⟩

/-- The steps of making a request that concern its query. -/
theorem query_of_buildRequest (h : e.buildRequest values base path = .ok request) :
    ∃ path url query, address base path = .ok url ∧ request.path = path.text ∧
      e.queryTexts values = .ok query ∧ withQuery url query = .ok request.url ∧
      namedQuery query = .ok request.query := by
  have hmade : ∃ path : PathText, (do
      let url ← address base path
      let query ← e.queryTexts values
      let whole ← withQuery url query
      let body ← e.encodeBody values
      pure ⟨e.method, whole, path.text, ← namedQuery query, body, e.requestHeaders body.isSome⟩ :
        Outcome Request) = .ok request := by
    cases path with
    | some path => exact ⟨path, h⟩
    | none =>
      obtain ⟨texts, -, h⟩ := Outcome.bind_eq_ok.mp h
      obtain ⟨path, -, h⟩ := Outcome.bind_eq_ok.mp h
      exact ⟨path, h⟩
  obtain ⟨path, h⟩ := hmade
  obtain ⟨url, hurl, h⟩ := Outcome.bind_eq_ok.mp h
  obtain ⟨query, hquery, h⟩ := Outcome.bind_eq_ok.mp h
  obtain ⟨whole, hwhole, h⟩ := Outcome.bind_eq_ok.mp h
  obtain ⟨body, -, h⟩ := Outcome.bind_eq_ok.mp h
  obtain ⟨named, hnamed, h⟩ := Outcome.bind_eq_ok.mp h
  obtain rfl := Except.ok.inj h
  exact ⟨path, url, query, hurl, rfl, hquery, hwhole, hnamed⟩

/-- A request tells its query when all names are texts. -/
theorem namedQuery_eq_ok {query : Option QueryTexts} {named : Option (List (String × String))}
    (h : namedQuery query = .ok named) :
    (∀ t ∈ query.getD [], (queryName? t.1).isSome = true) ∧ named = query.map toldQuery := by
  cases query with
  | none => exact ⟨nofun, (Except.ok.inj h).symm⟩
  | some texts =>
    simp only [namedQuery, queryNames] at h
    split at h
    next hbad =>
      refine ⟨fun t ht => ?_, (Except.ok.inj h).symm⟩
      have hfilter := List.filter_eq_nil_iff.mp (List.eq_nil_of_length_eq_zero hbad) t ht
      exact Option.isSome_iff_ne_none.mpr (by simpa using hfilter)
    next => cases h

/-- What stands behind an address is read as the texts under the texts that the names are shown
as. -/
theorem withQuery_some_eq_ok {url : PathText} {texts : QueryTexts} {whole : String}
    (hne : texts ≠ []) (hnames : ∀ t ∈ texts, (queryName? t.1).isSome = true)
    (h : withQuery url (some texts) = .ok whole) :
    ∃ query, whole = url.shown ++ "?" ++ query ∧
      (∀ c ∈ query.toList, Percent.isFormChar c = true ∨ c = '&' ∨ c = '=') ∧
      Percent.readPairs? query.toList = some (shownQuery texts) := by
  have hcoded : texts.map (fun t => (formName t.1, Percent.formField t.2.toList)) ≠ [] := by
    simpa using hne
  have hchars : ∀ p ∈ texts.map (fun t => (formName t.1, Percent.formField t.2.toList)),
      (∀ c ∈ p.1, Percent.isFormChar c = true) ∧ ∀ c ∈ p.2, Percent.isFormChar c = true := by
    intro p hp
    obtain ⟨t, -, rfl⟩ := List.mem_map.mp hp
    exact ⟨fun c hc => isFormChar_of_mem_formName hc,
      fun c hc => Percent.isFormChar_of_mem_formField hc⟩
  simp only [withQuery, unlessUnshown] at h
  split at h
  · refine ⟨_, (Except.ok.inj h).symm, fun c hc => Percent.mem_joinPairs hcoded hchars hc,
      Percent.readPairs?_joinPairs hcoded hchars ?_⟩
    rw [shownQuery, List.forall₂_map_left_iff, List.forall₂_map_right_iff, List.forall₂_same]
    exact fun t ht => ⟨readField?_formName (hnames t ht), Percent.readField?_formField t.2⟩
  · cases h

/-- How a request carries the query for some values behind a base address. -/
structure CarriesQuery (e : EndpointSchema) (values : Values) (b : PathText) (request : Request)
    (query : Option QueryTexts) : Prop where
  /-- The query has the texts for the values. -/
  texts : e.queryTexts values = .ok query
  /-- They come in the order in which the fields are declared. -/
  order : ((query.getD []).map (·.1)).Sublist ((e.ofRole .query).map (·.wireName))
  /-- Every name of a field that has one is a text, or bytes that encode one. -/
  names : ∀ t ∈ query.getD [], (queryName? t.1).isSome = true
  /-- The request tells the texts under these names. -/
  told : request.query = query.map toldQuery
  /-- Without texts the address is that of joining, and has no question mark. -/
  bare : query = none →
    Url.join? b.text request.path = some request.url ∧ '?' ∉ request.url.toList
  /-- Otherwise one question mark stands behind it, and a coded query, which holds no other and no
  number sign; a base address without a path stands there as it is shown. -/
  behind : ∀ texts, query = some texts → texts ≠ [] ∧ ∃ url coded,
    Url.join? b.text request.path = some url ∧ '?' ∉ url.toList ∧
      request.url = (if request.path = "" then b.shown else url) ++ "?" ++ coded ∧
      (∀ c ∈ coded.toList, Percent.isFormChar c = true ∨ c = '&' ∨ c = '=') ∧
      Percent.readPairs? coded.toList = some (shownQuery texts)

/-- Every request carries the query for its values. -/
theorem exists_carriesQuery (h : e.buildRequest values base path = .ok request)
    (hb : PathText.ofValue? base = some b) (htext : '?' ∉ b.text.toList) :
    ∃ query, e.CarriesQuery values b request query := by
  obtain ⟨path, url, query, hurl, hpath, hquery, hwhole, hnamed⟩ := query_of_buildRequest h
  obtain ⟨hjoin, hshown⟩ := address_eq_ok hb hurl
  obtain ⟨hnames, htold⟩ := namedQuery_eq_ok hnamed
  rw [← hpath] at hjoin hshown
  have hmark := Url.questionMark_notMem_join htext hjoin
  refine ⟨query, hquery, sublist_queryTexts hquery, hnames, htold, ?_, ?_⟩
  · rintro rfl
    obtain hsame : url.text = request.url := Except.ok.inj hwhole
    rw [← hsame]
    exact ⟨hjoin, hmark⟩
  · rintro texts rfl
    have hne := queryTexts_ne_nil hquery
    obtain ⟨coded, hcoded, hchars, hread⟩ := withQuery_some_eq_ok hne hnames hwhole
    exact ⟨hne, url.text, coded, hjoin, hmark, by rw [hcoded, hshown], hchars, hread⟩

/-- The query is read off the address of the request. -/
theorem CarriesQuery.readQuery? {query : Option QueryTexts}
    (h : e.CarriesQuery values b request query) (hshown : '?' ∉ b.shown.toList) :
    Url.readQuery? request.url = some (query.map shownQuery) := by
  cases query with
  | none => exact Url.readQuery?_of_notMem (h.bare rfl).2
  | some texts =>
    obtain ⟨-, url, coded, -, hmark, hurl, -, hread⟩ := h.behind texts rfl
    have hfront : '?' ∉ (if request.path = "" then b.shown else url).toList := by
      split
      · exact hshown
      · exact hmark
    rw [hurl, Url.readQuery?_append hfront, hread]
    rfl

/-- Every query field has a text as its name. -/
def HasTextNames (e : EndpointSchema) : Prop :=
  ∀ p ∈ e.ofRole .query, ∃ name, p.wireName = .text name

/-- Then so has every text that is sent. -/
theorem CarriesQuery.exists_name {query : Option QueryTexts}
    (h : e.CarriesQuery values b request query) (hnames : e.HasTextNames) :
    ∀ t ∈ query.getD [], ∃ name, t.1 = .text name := by
  intro t ht
  obtain ⟨p, hp, hname⟩ := List.mem_map.mp (h.order.subset (List.mem_map_of_mem ht))
  obtain ⟨name, htext⟩ := hnames p hp
  exact ⟨name, hname.symm.trans htext⟩

private theorem eq_of_map_shownQuery {query other : Option QueryTexts}
    (h : ∀ t ∈ query.getD [], ∃ name, t.1 = .text name)
    (ho : ∀ t ∈ other.getD [], ∃ name, t.1 = .text name)
    (hsame : query.map shownQuery = other.map shownQuery) : query = other := by
  cases query with
  | none => exact (Option.map_eq_none_iff.mp hsame.symm).symm
  | some texts =>
    cases other with
    | none => cases hsame
    | some others => exact congrArg some (eq_of_shownQuery h ho (Option.some.inj hsame))

end EndpointSchema

/-- A request carries its query without loss, but for the names that are members of a class of
texts. For every request made for any values behind a base address without a question mark, the
address has one exactly when a query field has a text, behind what joining gives; and what is read
there are all these texts in the order of the fields, each under the text that its name is shown as.
They are read as the request tells them exactly when no name with a text is a member shown
otherwise than the text that stands for it, so always when the names are texts. Two requests
with one address have queries that are shown alike, and the same queries if the names are texts. -/
theorem EndpointSchema.buildRequest_carries {e : EndpointSchema} {values : Values} {base : Value}
    {path : Option PathText} {request : Request}
    (h : e.buildRequest values base path = .ok request) {b : PathText}
    (hb : PathText.ofValue? base = some b) (htext : '?' ∉ b.text.toList)
    (hshown : '?' ∉ b.shown.toList) :
    ∃ query, e.CarriesQuery values b request query ∧
      Url.readQuery? request.url = some (query.map shownQuery) ∧
      (Url.readQuery? request.url = some request.query ↔
        ∀ t ∈ query.getD [], ∀ m, t.1 = .member m → (Value.member m).plain = m.value) ∧
      ∀ {e' : EndpointSchema} {values' : Values} {base' : Value} {path' : Option PathText}
        {request' : Request} {b' : PathText} {query' : Option QueryTexts},
        e'.buildRequest values' base' path' = .ok request' →
        PathText.ofValue? base' = some b' → '?' ∉ b'.text.toList → '?' ∉ b'.shown.toList →
        e'.queryTexts values' = .ok query' → request'.url = request.url →
        query'.map shownQuery = query.map shownQuery ∧
          (e.HasTextNames → e'.HasTextNames → query' = query) := by
  obtain ⟨query, hcarries⟩ := exists_carriesQuery h hb htext
  have hread := hcarries.readQuery? hshown
  refine ⟨query, hcarries, hread, ?_, ?_⟩
  · rw [hread, hcarries.told, Option.some.injEq]
    cases query with
    | none => simp
    | some texts =>
      rw [Option.map_some, Option.map_some, Option.some.injEq]
      exact shownQuery_eq_toldQuery_iff hcarries.names
  · intro e' values' base' path' request' b' query' h' hb' htext' hshown' hquery' hurl
    obtain ⟨query'', hcarries'⟩ := exists_carriesQuery h' hb' htext'
    obtain rfl := Except.ok.inj (hquery'.symm.trans hcarries'.texts)
    have hread' := hcarries'.readQuery? hshown'
    rw [hurl, hread] at hread'
    have hsame := (Option.some.inj hread').symm
    exact ⟨hsame, fun hnames hnames' => eq_of_map_shownQuery (hcarries'.exists_name hnames')
      (hcarries.exists_name hnames) hsame⟩

/-- An endpoint with two query fields whose names hold marks of queries and a letter outside
ASCII. -/
def sumSchema : EndpointSchema :=
  ⟨.text "Sum", .get, "/sum",
    [⟨.text "left", .string, .query, false, .text "a&b", none, .shape .text⟩,
      ⟨.text "right", .string, .query, true, .text "ü", none, .shape .text⟩],
    .plain .null, none, false, none⟩

/-- Values with marks of queries, and an empty one. -/
def sumValues : Values := [(.text "left", .text "1 + 1 = 2?"), (.text "right", .text "")]

/-- The request for them. -/
def sumRequest : Request :=
  ⟨.get, "http://h/sum?a%26b=1+%2B+1+%3D+2%3F&%C3%BC=", "/sum",
    some [("a&b", "1 + 1 = 2?"), ("ü", "")], none, []⟩

private theorem buildRequest_sumSchema :
    sumSchema.buildRequest sumValues (.text "http://h") none = .ok sumRequest := by cbv

/-- The address of this request carries the query as the request tells it. -/
theorem carries_sumRequest :
    sumSchema.buildRequest sumValues (.text "http://h") none = .ok sumRequest ∧
      Url.readQuery? sumRequest.url = some sumRequest.query := by
  have hmark : '?' ∉ "http://h".toList := by decide
  obtain ⟨query, hcarries, -, hiff, -⟩ :=
    EndpointSchema.buildRequest_carries buildRequest_sumSchema rfl hmark hmark
  have hnames : sumSchema.HasTextNames := by
    intro p hp
    simp only [sumSchema, EndpointSchema.ofRole, List.filter_cons, decide_true, if_true,
      List.filter_nil, List.mem_cons, List.not_mem_nil, or_false] at hp
    rcases hp with rfl | rfl
    · exact ⟨_, rfl⟩
    · exact ⟨_, rfl⟩
  refine ⟨buildRequest_sumSchema, hiff.mpr fun t ht m hm => ?_⟩
  obtain ⟨name, hname⟩ := hcarries.exists_name hnames t ht
  cases hname.symm.trans hm

/-- A member of a class of texts. -/
def ascendingMember : EnumMember := ⟨"Sort", "ASC", "asc", [], none⟩

/-- An endpoint with a query field that has the member as its name, and one that has the text which
the member is shown as. -/
def memberNamedEndpoint : EndpointDeclaration :=
  ⟨.text "A", .text "GET", .text "/a",
    [⟨.text "q", .plain (.text "string?"), [.query (.member ascendingMember)], none⟩,
      ⟨.text "r", .plain (.text "string?"), [.query (.text "Sort.ASC")], none⟩],
    .plain .null, false, true, none⟩

/-- The extracted endpoint. -/
def memberNamedSchema : EndpointSchema :=
  ⟨.text "A", .get, "/a",
    [⟨.text "q", .string, .query, true, .member ascendingMember, none, .plain .null⟩,
      ⟨.text "r", .string, .query, true, .text "Sort.ASC", none, .plain .null⟩],
    .plain .null, none, false, none⟩

/-- A text for the one and the same text for the other are different queries with one address, and
what is read there are not the texts that were sent for the first. -/
theorem not_carries_member_name :
    memberNamedEndpoint.extract none = .ok memberNamedSchema ∧
      ∃ first second,
        memberNamedSchema.buildRequest [(.text "q", .text "7")] (.text "http://h") none =
          .ok first ∧
        memberNamedSchema.buildRequest [(.text "r", .text "7")] (.text "http://h") none =
          .ok second ∧
        first.query = some [("asc", "7")] ∧ second.query = some [("Sort.ASC", "7")] ∧
        first.url = "http://h/a?Sort.ASC=7" ∧ second.url = first.url ∧
        Url.readQuery? first.url ≠ some first.query := by
  have hfirst : memberNamedSchema.buildRequest [(.text "q", .text "7")] (.text "http://h") none =
      .ok ⟨.get, "http://h/a?Sort.ASC=7", "/a", some [("asc", "7")], none, []⟩ := by cbv
  have hsecond : memberNamedSchema.buildRequest [(.text "r", .text "7")] (.text "http://h") none =
      .ok ⟨.get, "http://h/a?Sort.ASC=7", "/a", some [("Sort.ASC", "7")], none, []⟩ := by cbv
  have hread : Url.readQuery? "http://h/a?Sort.ASC=7" = some (some [("Sort.ASC", "7")]) := by cbv
  refine ⟨by cbv, _, _, hfirst, hsecond, rfl, rfl, rfl, rfl, ?_⟩
  rw [hread]
  decide

end RestContract
