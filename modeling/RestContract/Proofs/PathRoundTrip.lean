import RestContract.Proofs.Endpoint.PathTexts
import RestContract.Proofs.Request.Url
import RestContract.Proofs.Route.Table
import RestContract.Proofs.Template.Binding

/-!
# The path that a client sends and the route that reads it

The client puts texts into the holes of a template, codes the path and puts it behind a
base address. The server normalizes the path, matches it against the same template and
decodes the texts. The names that the client knows are the holes of the endpoint's own
path, so the route reads what was sent exactly when the whole template has these holes.
-/

namespace RestContract

open Template (FillsSegment IsName Segmented pieces spread tokens)

namespace Template

/-- A coded path that fills a template gives its texts to the names of the template. -/
theorem params?_appended_spread {template path : String} {value : String → List Char}
    (hp : path.toList = spread value (pieces template.toList))
    (hs : Segmented (pieces template.toList))
    (hl : Url.LiteralsSafe (pieces template.toList))
    (hv : ∀ name ∈ tokens template, FillsSegment (value name)) :
    ∃ params, params? (pattern template) (normalize (String.ofList (Url.appended path))) =
      some params ∧
      ∀ name, params.lookup name =
        if name ∈ tokens template then some (String.ofList (value name)) else none := by
  have hcoded :
    ∀ name ∈ tokens template, FillsSegment (Percent.escape Url.isPathSafe (value name)) :=
    fun name hm =>
      ⟨Percent.escape_ne_nil _ (hv name hm).1, Percent.slash_notMem_escape _ (hv name hm).2⟩
  have hfill :=
    fill?_spread (segmented_pattern hs) fun name hm => hcoded name (by rwa [holes_pattern] at hm)
  rw [← normalize_spread hcoded, ← Url.escape_spread hl, ← hp, ← Url.normalize_appended] at hfill
  refine ⟨_, by rw [params?, hfill, Option.map_some], fun name => ?_⟩
  rw [lookup_bind_map, Percent.unescape_escape Url.isPathSafe_percent, holes_pattern]

/-- A path that matches a template gives a text to each of its names and to no other name. -/
theorem isSome_lookup_params? {template path : String} {params : List (String × String)}
    (h : params? (pattern template) path = some params) (name : String) :
    (params.lookup name).isSome = true ↔ name ∈ tokens template := by
  obtain ⟨texts, hfill, rfl⟩ := Option.map_eq_some_iff.mp h
  rw [isSome_lookup_bind (length_of_fill? hfill), holes_pattern]

end Template

/-- A path made of texts for exactly the names of a template is read as these texts. -/
theorem SegmentTexts.params?_appended {template path : String} {named : List (String × String)}
    (h : SegmentTexts named)
    (hp : path = if named = [] then template else Template.resolve template named)
    (hs : Segmented (pieces template.toList))
    (hl : Url.LiteralsSafe (pieces template.toList))
    (hnames : ∀ name, name ∈ tokens template ↔ name ∈ named.map (·.1)) :
    ∃ params, Template.params? (Template.pattern template)
        (Template.normalize (String.ofList (Url.appended path))) = some params ∧
      ∀ name, params.lookup name = named.lookup name := by
  have hspread : path.toList = spread (textOf named) (pieces template.toList) := by
    rw [hp]
    apply resolved_toList h
    · exact fun name hm =>
        Template.isName_of_hole_mem (Template.mem_holes.mp ((hnames name).mpr hm))
    · exact fun name hm => (hnames name).mp hm
  obtain ⟨params, hmatch, hlookup⟩ := Template.params?_appended_spread hspread hs hl
    fun name hm => h.fills_textOf ((hnames name).mp hm)
  refine ⟨params, hmatch, fun name => ?_⟩
  rw [hlookup]
  by_cases hm : name ∈ named.map (·.1)
  · obtain ⟨t, ht, rfl⟩ := List.mem_map.mp hm
    rw [if_pos ((hnames t.1).mpr hm), h.textOf_eq ht, String.ofList_toList,
      lookup_of_mem h.nodup ht]
  · rw [if_neg fun hn => hm ((hnames name).mp hn)]
    exact (Option.not_isSome_iff_eq_none.mp fun hn => hm (isSome_lookup_iff.mp hn)).symm

section

variable {d : EndpointDeclaration} {group : Option GroupHeader} {e : EndpointSchema}

/-- With the check on, the names of the path fields are the holes of the own path. -/
theorem EndpointDeclaration.names_ofRole_path (hd : d.extract group = .ok e)
    (hc : d.checkPath = true) (hr : d.resolver = none) :
    (∀ p ∈ e.ofRole .path, ∃ name, p.name.asText? = some name) ∧
      ∀ name, (∃ p ∈ e.ofRole .path, p.name.asText? = some name) ↔
        name ∈ tokens e.ownPath.text := by
  obtain ⟨method, path, parameters, -, -, -, -, -, hholes, rfl⟩ := extract_eq_ok hd
  obtain ⟨hin, hout⟩ := checkHoles_eq_ok (hholes (by rw [hc, hr]; rfl))
  have hrole : ∀ p, p ∈ EndpointSchema.ofRole
      ⟨d.name, method, path, parameters, d.output, group, d.streaming, d.resolver⟩ .path ↔
        p ∈ parameters ∧ p.role = .path := fun p => by
    rw [EndpointSchema.ofRole, List.mem_filter, decide_eq_true_eq]
  constructor
  · intro p hp
    obtain ⟨name, -, hname⟩ := hin p ((hrole p).mp hp).1 ((hrole p).mp hp).2
    exact ⟨name, hname⟩
  · intro name
    constructor
    · rintro ⟨p, hp, hname⟩
      obtain ⟨other, ho, hother⟩ := hin p ((hrole p).mp hp).1 ((hrole p).mp hp).2
      rwa [← Option.some.inj (hother.symm.trans hname)]
    · intro hm
      obtain ⟨p, hp, hpr, hname⟩ := hout name hm
      exact ⟨p, (hrole p).mpr ⟨hp, hpr⟩, hname⟩

/-- Where paths stand inside longer texts as they are, the whole template has the holes of the own
path. -/
theorem EndpointDeclaration.tokens_pathTemplate (hd : d.extract group = .ok e)
    (hg : ∀ header, group = some header → ∃ (g : GroupDeclaration) (key : Nat) (s : GroupSchema),
      g.start key = .ok s ∧ s.header = header)
    (hown : e.ownPath.shown = e.ownPath.text)
    (hbase : ∀ header, group = some header → header.basePath.shown = header.basePath.text) :
    tokens e.pathTemplate = tokens e.ownPath.text := by
  obtain ⟨method, path, parameters, -, -, -, -, -, -, rfl⟩ := extract_eq_ok hd
  have hof : ∀ p : PathText, p.shown = p.text → p = .of p.text := fun p h => by
    cases p
    exact congrArg _ h
  have hempty : tokens (PathText.of "").text = [] := by
    simp [PathText.of, tokens, pieces, Template.holes]
  have key : ∀ base : PathText, base.shown = base.text → tokens base.text = [] →
      tokens (PathText.join base path).text = tokens path.text := fun base hshown hnone => by
    rw [hof base hshown, hof path hown, PathText.join_of]
    change tokens (Template.join base.text path.text) = tokens path.text
    rw [Template.tokens_join, hnone, List.nil_append]
  cases group with
  | none => exact key (.of "") rfl hempty
  | some header =>
    obtain ⟨g, k, s, hstart, rfl⟩ := hg header rfl
    exact key _ (hbase _ rfl) (GroupDeclaration.tokens_basePath hstart)

/-- The texts that a client sends in the path of an endpoint are those that a route
reads from it. -/
def Route.ReadsPath {m : Type → Type} (route : Route m) (e : EndpointSchema) (values : Values) :
    Prop :=
  ∃ texts path params, e.pathTexts values = .ok texts ∧ e.resolvePath texts = .ok path ∧
    route.params? (Template.normalize (String.ofList (Url.appended path.text))) = some params ∧
    SameMapping (params.map fun p => (Value.text p.1, p.2)) texts

/-- A client can send the path of every accepted endpoint whose path fields are given texts that
fill segments, and a route of its template reads these texts exactly when the whole template has the
holes of the own path. It has them when no path stands differently inside a longer text. -/
theorem Route.readsPath_iff (hd : d.extract group = .ok e) (hc : d.checkPath = true)
    (hr : d.resolver = none)
    (hg : ∀ header, group = some header → ∃ (g : GroupDeclaration) (key : Nat) (s : GroupSchema),
      g.start key = .ok s ∧ s.header = header)
    (hs : Segmented (pieces e.pathTemplate.toList))
    (hl : Url.LiteralsSafe (pieces e.pathTemplate.toList))
    {values : Values} (hv : ∀ p ∈ e.ofRole .path, GivesSegment values p)
    {m : Type → Type} {route : Route m} (ht : route.schema.pathTemplate = e.pathTemplate) :
    (∃ texts path, e.pathTexts values = .ok texts ∧ e.resolvePath texts = .ok path ∧
      ∀ base, Url.join? base path.text = (Url.join? base "").map fun _ =>
        String.ofList (Url.trimmedBase base path.text ++ Url.appended path.text)) ∧
    (route.ReadsPath e values ↔ ∀ name, name ∈ tokens e.pathTemplate ↔
      name ∈ tokens e.ownPath.text) ∧
    (e.ownPath.shown = e.ownPath.text →
      (∀ header, group = some header → header.basePath.shown = header.basePath.text) →
      route.ReadsPath e values) := by
  obtain ⟨hin, hown⟩ := EndpointDeclaration.names_ofRole_path hd hc hr
  obtain ⟨texts, named, htexts, hnamed, hfit, hmem⟩ := EndpointSchema.pathTexts_eq_ok hin hv
  have hres : e.resolver = none := by
    obtain ⟨_, _, _, -, -, -, -, -, -, rfl⟩ := EndpointDeclaration.extract_eq_ok hd
    exact hr
  obtain ⟨path, hpath, hptext⟩ := EndpointSchema.resolvePath_eq_ok hres hnamed
  have hnames : ∀ name, name ∈ named.map (·.1) ↔ name ∈ tokens e.ownPath.text := fun name =>
    (hmem name).trans (hown name)
  have hreads : route.ReadsPath e values ↔
      ∃ params, Template.params? (Template.pattern e.pathTemplate)
          (Template.normalize (String.ofList (Url.appended path.text))) = some params ∧
        ∀ name, params.lookup name = named.lookup name := by
    rw [← ht]
    constructor
    · rintro ⟨texts', path', params, htexts', hpath', hmatch, hsame⟩
      obtain rfl := Except.ok.inj (htexts.symm.trans htexts')
      obtain rfl := Except.ok.inj (hpath.symm.trans hpath')
      exact ⟨params, hmatch, (sameMapping_iff_of_named (named?_text params) hnamed).mp hsame⟩
    · rintro ⟨params, hmatch, hsame⟩
      exact ⟨texts, path, params, htexts, hpath, hmatch,
        (sameMapping_iff_of_named (named?_text params) hnamed).mpr hsame⟩
  have hiff : route.ReadsPath e values ↔
      ∀ name, name ∈ tokens e.pathTemplate ↔ name ∈ tokens e.ownPath.text := by
    rw [hreads]
    constructor
    · rintro ⟨params, hmatch, hsame⟩ name
      rw [← Template.isSome_lookup_params? hmatch, hsame, isSome_lookup_iff, hnames]
    · intro hsame
      exact hfit.params?_appended hptext hs hl fun name => (hsame name).trans (hnames name).symm
  refine ⟨⟨texts, path, htexts, hpath, fun base => Url.join?_eq base path.text⟩, hiff,
    fun ho hb => ?_⟩
  rw [hiff, EndpointDeclaration.tokens_pathTemplate hd hg ho hb]
  exact fun name => Iff.rfl

end

/-- An endpoint for reading, with a path and fields for texts in it. -/
def readingEndpoint (path : Value) (names : List String) : EndpointDeclaration :=
  ⟨.text "Read", .text "GET", path, names.map fun name => ⟨.text name, .shape .text, [.path], none⟩,
    .plain .null, false, true, none⟩

/-- A group for the first version. -/
def firstVersion : GroupDeclaration := ⟨.text "First", .text "/v1", .text "required", []⟩

/-- What the endpoints of the first version have in common. -/
def firstVersionHeader : GroupHeader := ⟨0, .text "First", "/v1", .required⟩

/-- The endpoint for reading in the first version. -/
def readingSchema (path : PathText) (names : List String) : EndpointSchema :=
  ⟨.text "Read", .get, path, names.map fun name =>
    ⟨.text name, .string, .path, false, .text name, none, .shape .text⟩, .plain .null,
      some firstVersionHeader,
    false, none⟩

/-- The group for the first version can be started. -/
theorem firstVersion_start : firstVersion.start 0 = .ok ⟨firstVersionHeader, []⟩ := by cbv

/-- Texts with escapes, blanks, a hole's text and a letter outside ASCII are read as
they were sent. -/
theorem Route.readsPath_marks :
    (readingEndpoint (.text ":id/of/:id2/:id") ["id2", "id"]).extract (some firstVersionHeader) =
        .ok (readingSchema ":id/of/:id2/:id" ["id2", "id"]) ∧
      (silentRoute (readingSchema ":id/of/:id2/:id" ["id2", "id"])).ReadsPath
        (readingSchema ":id/of/:id2/:id" ["id2", "id"])
        [(.text "id", .text ":id2?%2F #"), (.text "id2", .text "é\n%")] := by
  have hd : (readingEndpoint (.text ":id/of/:id2/:id") ["id2", "id"]).extract
    (some firstVersionHeader) =
      .ok (readingSchema ":id/of/:id2/:id" ["id2", "id"]) := by cbv
  refine ⟨hd, (Route.readsPath_iff hd rfl rfl ?_ (by decide +kernel) (by decide +kernel) ?_ rfl).2.2
    rfl ?_⟩
  · rintro header ⟨⟩
    exact ⟨firstVersion, 0, _, firstVersion_start, rfl⟩
  · intro p hm
    have hm : p = ⟨.text "id2", .string, .path, false, .text "id2", none, .shape .text⟩ ∨
        p = ⟨.text "id", .string, .path, false, .text "id", none, .shape .text⟩ := by
      simpa [EndpointSchema.ofRole, readingSchema] using hm
    rcases hm with rfl | rfl
    · exact ⟨_, "é\n%", rfl, rfl, rfl, by decide, by decide⟩
    · exact ⟨_, ":id2?%2F #", rfl, rfl, rfl, by decide, by decide⟩
  · rintro header ⟨⟩
    rfl

/-- The member of a class of paths that stands for one hole. -/
def holePath : EnumMember := ⟨"P", "ID", ":id", [], none⟩

/-- An own path that a member stands for is checked by its text, but the whole template has the
plain text of the member, so the text that is sent is not read. -/
theorem Route.not_readsPath_member :
    (readingEndpoint (.member holePath) ["id"]).extract (some firstVersionHeader) =
        .ok (readingSchema ⟨":id", "P.ID"⟩ ["id"]) ∧
      firstVersion.start 0 = .ok ⟨firstVersionHeader, []⟩ ∧
      Segmented (pieces (readingSchema ⟨":id", "P.ID"⟩ ["id"]).pathTemplate.toList) ∧
      Url.LiteralsSafe (pieces (readingSchema ⟨":id", "P.ID"⟩ ["id"]).pathTemplate.toList) ∧
      (∀ p ∈ (readingSchema ⟨":id", "P.ID"⟩ ["id"]).ofRole .path,
        GivesSegment [(.text "id", .text "7")] p) ∧
      ¬(silentRoute (readingSchema ⟨":id", "P.ID"⟩ ["id"])).ReadsPath
        (readingSchema ⟨":id", "P.ID"⟩ ["id"]) [(.text "id", .text "7")] := by
  refine ⟨by cbv, firstVersion_start, by decide +kernel, by decide +kernel, ?_, ?_⟩
  · intro p hm
    have hm : p = ⟨.text "id", .string, .path, false, .text "id", none, .shape .text⟩ := by
      simpa [EndpointSchema.ofRole, readingSchema] using hm
    subst hm
    exact ⟨_, "7", rfl, rfl, rfl, by decide, by decide⟩
  · rintro ⟨texts, path, params, htexts, -, hmatch, hsame⟩
    obtain rfl : [(Value.text "id", "7")] = texts := Except.ok.inj htexts
    have hnone : Template.tokens (readingSchema ⟨":id", "P.ID"⟩ ["id"]).pathTemplate = [] := by
      decide +kernel
    have hfound :=
      (sameMapping_iff_of_named (named?_text params) (named?_text [("id", "7")])).mp hsame "id"
    have hread := (Template.isSome_lookup_params? hmatch "id").mp (by rw [hfound]; rfl)
    exact absurd hread (by rw [silentRoute, hnone]; exact List.not_mem_nil)

end RestContract
