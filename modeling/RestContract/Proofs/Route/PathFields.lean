import RestContract.Proofs.OmittedPath

/-!
# What a route finds for the path fields

The holes of an endpoint's own path are checked against its path fields when it is declared; a route
matches the template of the whole path. Putting a base path in front and taking slashes off the ends
makes no hole and loses none, so a route finds a text for every path field and for nothing else, and
reading fails on a path field only because of its text. An own path that stands differently inside a
longer text is the exception: the check sees its text, and the template has what stands for it.
-/

namespace RestContract

open Template (holes tokens)

namespace PathText

variable {base own : PathText}

/-- Behind a base path without holes an own path keeps its holes: one of the two is the whole path,
or their texts are, or what stands for them there has the same holes. -/
def KeepsHoles (base own : PathText) : Prop :=
  own.isEmpty = true ∨ base.isEmpty = true ∨ own.isRooted = true ∨
    tokens base.shown ++ tokens own.shown = tokens own.text

/-- The holes of a joined path. -/
theorem tokens_join (base own : PathText) : tokens (join base own).text =
    if own.isEmpty then tokens base.text
    else if base.isEmpty then tokens own.text
    else if own.isRooted then tokens base.text ++ tokens own.text
    else tokens base.shown ++ tokens own.shown := by
  unfold join
  split
  · rfl
  split
  · rfl
  split
  next hrooted => exact Template.tokens_append_rooted (of_decide_eq_true hrooted) base.text
  next => exact Template.tokens_append_slash base.shown own.shown

/-- Behind a base path without holes exactly these own paths keep theirs. -/
theorem tokens_join_eq_iff (h : tokens base.text = []) :
    tokens (join base own).text = tokens own.text ↔ KeepsHoles base own := by
  rw [tokens_join, KeepsHoles, h, List.nil_append]
  by_cases ho : own.isEmpty = true
  · have hempty : own.text = "" := by simpa [isEmpty] using ho
    have hnone : tokens own.text = [] := by simp [hempty, tokens, Template.pieces, holes]
    simp [ho, hnone]
  · by_cases hb : base.isEmpty = true
    · simp [ho, hb]
    · by_cases hr : own.isRooted = true <;> simp [ho, hb, hr]

private theorem keepsHoles_of_shown (h : tokens base.text = []) (hb : base.shown = base.text)
    (ho : own.shown = own.text) : KeepsHoles base own := by
  have hkept : tokens base.shown ++ tokens own.shown = tokens own.text := by
    rw [hb, ho, h, List.nil_append]
  exact Or.inr (Or.inr (Or.inr hkept))

end PathText

private theorem Parameter.decode_eq_error_of_textValue {p : Parameter} {key : Value}
    {texts : List (Value × String)} {text : String} {f : Failure}
    (ht : lookupKey key texts = some text) (h : p.textValue key texts = .error f) :
    ∃ fault, p.decode text = .error fault := by
  cases hdecode : p.decode text with
  | error fault => exact ⟨fault, rfl⟩
  | ok v =>
    unfold textValue at h
    rw [ht, Option.map_some, hdecode] at h
    cases h

namespace EndpointSchema

variable {d : EndpointDeclaration} {group : Option GroupHeader} {e : EndpointSchema}

/-- The base path of the endpoint's group, empty where it has none. -/
def basePath (e : EndpointSchema) : PathText := (e.group.map (·.basePath)).getD (.of "")

private theorem tokens_basePath (hd : d.extract group = .ok e)
    (hg : ∀ header, group = some header → ∃ (g : GroupDeclaration) (key : Nat) (s : GroupSchema),
      g.start key = .ok s ∧ s.header = header) : tokens e.basePath.text = [] := by
  obtain ⟨method, path, parameters, -, -, -, -, -, -, rfl⟩ := EndpointDeclaration.extract_eq_ok hd
  cases group with
  | none => simp [basePath, PathText.of, tokens, Template.pieces, holes]
  | some header =>
    obtain ⟨g, key, s, hstart, rfl⟩ := hg header rfl
    exact GroupDeclaration.tokens_basePath hstart

/-- Where a route finds a text for every path field, reading stops at the first parameter that
fails, and if that is a path field then because of the text that was found for it. -/
theorem decodeInput_matched_eq_error {params : List (String × String)} {query : QueryTexts}
    {body : Option Bytes} {s : Serializer} {f : Failure}
    (hfound : ∀ p ∈ e.ofRole .path, ∃ name text, p.name.asText? = some name ∧
      params.lookup name = some text)
    (h : e.decodeInput (.matched params query body) s = .error f) :
    ∃ before p after, e.parameters = before ++ p :: after ∧
      (∀ q ∈ before, ∃ v, q.valueIn (.matched params query body) s = .ok v) ∧
      p.valueIn (.matched params query body) s = .error f ∧
      (p.role = .path → ∃ name text fault, p.name.asText? = some name ∧
        params.lookup name = some text ∧ p.decode text = .error fault) := by
  obtain ⟨before, p, after, hsplit, hbefore, hp⟩ := decodeInput_eq_error_iff.mp h
  refine ⟨before, p, after, hsplit, hbefore, hp, fun hrole => ?_⟩
  have hmem : p ∈ e.parameters := by
    rw [hsplit]
    exact List.mem_append_right _ List.mem_cons_self
  obtain ⟨name, text, hname, htext⟩ := hfound p (mem_ofRole.mpr ⟨hmem, hrole⟩)
  have hkey := (RequestData.lookupKey_matched hname params query body).trans htext
  unfold Parameter.valueIn at hp
  simp only [hrole] at hp
  obtain ⟨fault, hfault⟩ := Parameter.decode_eq_error_of_textValue hkey hp
  exact ⟨name, text, fault, hname, htext, hfault⟩

end EndpointSchema

/-- The holes of an accepted endpoint's own path are its path fields. The template that a route
matches has the same holes in the same order exactly when the own path keeps its holes, which it
does if no path stands differently inside a longer text. Every match then gives texts to the path
fields and to nothing else, so that reading fails on a path field only because its text cannot be
decoded. -/
theorem Route.finds_path_fields {d : EndpointDeclaration} {group : Option GroupHeader}
    {e : EndpointSchema} (hd : d.extract group = .ok e) (hc : d.checkPath = true)
    (hr : d.resolver = none)
    (hg : ∀ header, group = some header → ∃ (g : GroupDeclaration) (key : Nat) (s : GroupSchema),
      g.start key = .ok s ∧ s.header = header)
    {m : Type → Type} {route : Route m} (ht : route.schema.pathTemplate = e.pathTemplate) :
    (∀ p ∈ e.ofRole .path, ∃ name, p.name.asText? = some name) ∧
    (∀ name, name ∈ tokens e.ownPath.text ↔
      ∃ p ∈ e.ofRole .path, p.name.asText? = some name) ∧
    (holes route.pattern = tokens e.ownPath.text ↔ e.basePath.KeepsHoles e.ownPath) ∧
    (e.basePath.shown = e.basePath.text → e.ownPath.shown = e.ownPath.text →
      e.basePath.KeepsHoles e.ownPath) ∧
    (e.basePath.KeepsHoles e.ownPath → ∀ path params, route.params? path = some params →
      (∀ name, name ∈ params.map (·.1) ↔ ∃ p ∈ e.ofRole .path, p.name.asText? = some name) ∧
      ∀ query body s f, e.decodeInput (.matched params query body) s = .error f →
        ∃ before p after, e.parameters = before ++ p :: after ∧
          (∀ q ∈ before, ∃ v, q.valueIn (.matched params query body) s = .ok v) ∧
          p.valueIn (.matched params query body) s = .error f ∧
          (p.role = .path → ∃ name text fault, p.name.asText? = some name ∧
            params.lookup name = some text ∧ p.decode text = .error fault)) := by
  obtain ⟨htexts, hown⟩ := EndpointDeclaration.names_ofRole_path hd hc hr
  have hbase := EndpointSchema.tokens_basePath hd hg
  have hpattern : holes route.pattern = tokens (PathText.join e.basePath e.ownPath).text := by
    rw [Route.pattern, Template.holes_pattern, ht]
    rfl
  have hholes : holes route.pattern = tokens e.ownPath.text ↔ e.basePath.KeepsHoles e.ownPath := by
    rw [hpattern]
    exact PathText.tokens_join_eq_iff hbase
  refine ⟨htexts, fun name => (hown name).symm, hholes, PathText.keepsHoles_of_shown hbase,
    fun hkeeps path params hmatch => ?_⟩
  have hnames : ∀ name, (params.lookup name).isSome = true ↔
      ∃ p ∈ e.ofRole .path, p.name.asText? = some name := by
    intro name
    rw [Template.isSome_lookup_params? hmatch, hown, ← hholes.mpr hkeeps, Route.pattern,
      Template.holes_pattern]
  refine ⟨fun name => isSome_lookup_iff.symm.trans (hnames name), fun query body s f h => ?_⟩
  refine EndpointSchema.decodeInput_matched_eq_error (fun p hp => ?_) h
  obtain ⟨name, hname⟩ := htexts p hp
  obtain ⟨text, htext⟩ := Option.isSome_iff_exists.mp ((hnames name).mpr ⟨p, hp, hname⟩)
  exact ⟨name, text, hname, htext⟩

/-- An endpoint for a page of something, with marks that are no holes in its path. -/
def pageEndpoint : EndpointDeclaration :=
  ⟨.text "Page", .text "GET", .text ":/:id/of:/:page/",
    [⟨.text "id", .shape .text, [.path], none⟩, ⟨.text "page", .shape .integer, [.path], none⟩],
    .plain .null, false, true, none⟩

/-- The endpoint for a page in the first version. -/
def pageSchema : EndpointSchema :=
  ⟨.text "Page", .get, ":/:id/of:/:page/",
    [⟨.text "id", .string, .path, false, .text "id", none, .shape .text⟩,
      ⟨.text "page", .integer, .path, false, .text "page", none, .shape .integer⟩],
    .plain .null, some firstVersionHeader, false, none⟩

/-- Marks that are no holes stay none behind the path of a group; a text that is no number is why a
page cannot be read. -/
theorem Route.finds_path_fields_of_page :
    pageEndpoint.extract (some firstVersionHeader) = .ok pageSchema ∧
      holes (silentRoute pageSchema).pattern = ["id", "page"] ∧
      (silentRoute pageSchema).params? "/v1/:/7/of:/x" = some [("id", "7"), ("page", "x")] ∧
      ∃ before p after, pageSchema.parameters = before ++ p :: after ∧
        p.valueIn (.matched [("id", "7"), ("page", "x")] [] none) .json =
          .error (.missingParameter (.text "page") "path") ∧
        (p.role = .path → ∃ name text fault, p.name.asText? = some name ∧
          [("id", "7"), ("page", "x")].lookup name = some text ∧ p.decode text = .error fault) := by
  have hd : pageEndpoint.extract (some firstVersionHeader) = .ok pageSchema := by cbv
  have hg : ∀ header, some firstVersionHeader = some header →
      ∃ (g : GroupDeclaration) (key : Nat) (s : GroupSchema),
        g.start key = .ok s ∧ s.header = header := by
    rintro header ⟨⟩
    exact ⟨firstVersion, 0, _, firstVersion_start, rfl⟩
  have hmatch : (silentRoute pageSchema).params? "/v1/:/7/of:/x" =
      some [("id", "7"), ("page", "x")] := by decide +kernel
  have hread : pageSchema.decodeInput (.matched [("id", "7"), ("page", "x")] [] none) .json =
      .error (.missingParameter (.text "page") "path") := by cbv
  have hroute : (silentRoute pageSchema).schema.pathTemplate = pageSchema.pathTemplate := rfl
  obtain ⟨-, -, hholes, hshown, hfound⟩ := Route.finds_path_fields hd rfl rfl hg hroute
  have hkeeps := hshown rfl rfl
  obtain ⟨before, p, after, hsplit, -, hp, htext⟩ :=
    (hfound hkeeps _ _ hmatch).2 [] none .json _ hread
  refine ⟨hd, ?_, hmatch, before, p, after, hsplit, hp, htext⟩
  rw [hholes.mpr hkeeps]
  decide +kernel

/-- An own path that a member stands for is checked by its text, and a route of the endpoint has no
hole for it: its path is matched without a text for the field, which is reported as missing. -/
theorem Route.not_finds_path_field_of_member :
    (readingEndpoint (.member holePath) ["id"]).extract (some firstVersionHeader) =
        .ok (readingSchema ⟨":id", "P.ID"⟩ ["id"]) ∧
      firstVersion.start 0 = .ok ⟨firstVersionHeader, []⟩ ∧
      tokens (readingSchema ⟨":id", "P.ID"⟩ ["id"]).ownPath.text = ["id"] ∧
      holes (silentRoute (readingSchema ⟨":id", "P.ID"⟩ ["id"])).pattern = [] ∧
      (silentRoute (readingSchema ⟨":id", "P.ID"⟩ ["id"])).params? "/v1/P.ID" = some [] ∧
      (readingSchema ⟨":id", "P.ID"⟩ ["id"]).decodeInput (.matched [] [] none) .json =
        .error (.missingParameter (.text "id") "path") := by
  refine ⟨by cbv, firstVersion_start, by decide +kernel, by decide +kernel, by decide +kernel, ?_⟩
  cbv

end RestContract
