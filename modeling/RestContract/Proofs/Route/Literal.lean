import RestContract.Proofs.OmittedPath
import RestContract.Proofs.Request.Address
import RestContract.Proofs.Route.Table
import RestContract.Proofs.Template.Language

/-!
# Templates without holes

The client codes the whole of a path, and the server compares the literal text of a template with
the path as it was coded. So a request for an endpoint without holes finds its route exactly when
coding changes no character of the template.
-/

namespace RestContract

open Percent (escape escapeChar)
open Template (holes pieces tokens)
open Url (isPathSafe isPlain)

namespace Template

private theorem eq_map_char_of_holes_eq_nil {ps : List Piece} (h : holes ps = [])
    (value : String → List Char) : ps = (spread value ps).map .char := by
  induction ps with
  | nil => rfl
  | cons p ps ih =>
    cases p with
    | char c => exact congrArg (Piece.char c :: ·) (ih h)
    | hole name => cases h

private theorem pattern_of_tokens_eq_nil {template : String} (h : tokens template = []) :
    pattern template = (normalize template).toList.map .char := by
  have hholes : holes (pieces (normalize template).toList) = [] := (holes_pattern template).trans h
  conv_lhs => rw [pattern, eq_map_char_of_holes_eq_nil hholes mark, spread_mark_pieces]

private theorem isSome_fill?_of_tokens_eq_nil {template : String} (h : tokens template = [])
    {path : List Char} :
    (fill? (pattern template) path).isSome = true ↔
      ∃ tail, isTail tail = true ∧ path = (normalize template).toList ++ tail := by
  simp only [isSome_fill?, pattern_of_tokens_eq_nil h, ← List.map_append, spells_chars]

/-- A normalized text has a slash at its end only when it is a single slash. -/
theorem eq_nil_of_normalize_eq {path : String} {front : List Char}
    (h : (normalize path).toList = front ++ ['/']) : front = [] := by
  rw [normalize, String.toList_ofList] at h
  cases front with
  | nil => rfl
  | cons c front =>
    have htrim : Text.trim (· = '/') path.toList = front ++ ['/'] := (List.cons.inj h).2
    have hne : Text.trim (· = '/') path.toList ≠ [] := by simp [htrim]
    have hlast := List.rdropWhile_last_not _ _ hne
    have hslash : (Text.trim (· = '/') path.toList).getLast? = some '/' := by
      rw [htrim, List.getLast?_append_cons, List.getLast?_singleton]
    rw [List.getLast?_eq_some_getLast hne] at hslash
    exact absurd (decide_eq_true (Option.some.inj hslash)) hlast

end Template

namespace Url

private theorem length_le_escape (cs : List Char) : cs.length ≤ (escape isPathSafe cs).length := by
  have hone : ∀ n ∈ cs.map fun c => (escapeChar isPathSafe c).length, 1 ≤ n := by
    intro n hn
    obtain ⟨c, -, rfl⟩ := List.mem_map.mp hn
    exact List.length_pos_of_ne_nil (Percent.escapeChar_ne_nil _ c)
  rw [escape, List.length_flatMap]
  simpa using List.length_le_sum_of_one_le _ hone

/-- Coding a text changes nothing exactly when every character of it stands for itself. -/
theorem escape_eq_self {cs : List Char} :
    escape isPathSafe cs = cs ↔ ∀ c ∈ cs, isPathSafe c = true := by
  induction cs with
  | nil => simp [escape]
  | cons c cs ih =>
    rw [List.forall_mem_cons, escape, List.flatMap_cons, ← escape]
    by_cases hc : isPathSafe c = true
    · rw [Percent.escapeChar_safe hc, List.singleton_append, List.cons_inj_right]
      exact ih.trans (and_iff_right hc).symm
    · refine iff_of_false (fun he => ?_) fun hall => hc hall.1
      obtain ⟨first, second, rest, hcode⟩ := Template.escapeChar_eq_cons (Bool.not_eq_true _ ▸ hc)
      have hlen := congrArg List.length he
      have hmore := length_le_escape cs
      rw [hcode, List.length_append] at hlen
      simp only [List.length_cons] at hlen
      omega

/-- A coded path is normalized like its template exactly when every character of the template stands
for itself. -/
theorem normalize_escape_eq {template : String} :
    Template.normalize (String.ofList (escape isPathSafe template.toList)) =
        Template.normalize template ↔ ∀ c ∈ template.toList, isPathSafe c = true := by
  obtain ⟨front, back, hsplit, hfront, hback⟩ :=
    Template.exists_append_trimBoth (fun c => decide (c = '/')) template.toList
  have hslash : ∀ c, decide (c = '/') = true → isPathSafe c = true := by
    intro c hc
    rw [of_decide_eq_true hc]
    exact isPathSafe_slash
  rw [Template.normalize, Template.normalize, String.toList_ofList, trim_escape, ← escape,
    ← String.toList_inj, String.toList_ofList, String.toList_ofList, List.cons_inj_right, Text.trim]
  change escape isPathSafe (Template.trimBoth (fun c => decide (c = '/')) template.toList) =
    Template.trimBoth (fun c => decide (c = '/')) template.toList ↔ _
  rw [escape_eq_self]
  constructor
  · intro h c hc
    rw [hsplit, List.mem_append, List.mem_append] at hc
    rcases hc with (hc | hc) | hc
    · exact hslash c (hfront c hc)
    · exact h c hc
    · exact hslash c (hback c hc)
  · intro h c hc
    exact h c (by rw [hsplit]; simp [hc])

end Url

private theorem Template.feed_notMem_normalize_escape (cs : List Char) :
    '\n' ∉ (normalize (String.ofList (escape isPathSafe cs))).toList := by
  rw [normalize, String.toList_ofList, String.toList_ofList, List.mem_cons, not_or]
  refine ⟨by decide, fun hm => feed_notMem_escape cs ?_⟩
  exact (List.dropWhile_sublist _).subset ((List.rdropWhile_prefix _ _).subset hm)

/-- A coded path is matched by a template without holes when it is normalized like it. -/
theorem Template.params?_appended_of_tokens_eq_nil {template : String} (h : tokens template = [])
    (path : String) :
    params? (pattern template) (normalize (String.ofList (Url.appended path))) =
      if normalize (String.ofList (escape isPathSafe path.toList)) = normalize template then some []
      else none := by
  rw [Url.normalize_appended, params?, holes_pattern, h]
  split
  next he =>
    have hsome : (fill? (pattern template) (normalize template).toList).isSome = true :=
      (isSome_fill?_of_tokens_eq_nil h).mpr ⟨[], rfl, (List.append_nil _).symm⟩
    obtain ⟨texts, htexts⟩ := Option.isSome_iff_exists.mp hsome
    have hlen := length_of_fill? htexts
    rw [holes_pattern, h, List.length_nil] at hlen
    rw [he, htexts, List.eq_nil_of_length_eq_zero hlen]
    rfl
  next hne =>
    rw [Option.map_eq_none_iff, ← Option.not_isSome_iff_eq_none, isSome_fill?_of_tokens_eq_nil h]
    rintro ⟨tail, htail, he⟩
    have hfeed := feed_notMem_normalize_escape path.toList
    simp only [isTail, Bool.or_eq_true, decide_eq_true_eq] at htail
    rcases htail with ((rfl | rfl) | rfl) | rfl
    · rw [List.append_nil] at he
      exact hne (String.toList_inj.mp he)
    · have hnil := eq_nil_of_normalize_eq he
      rw [normalize, String.toList_ofList] at hnil
      cases hnil
    · exact hfeed (by rw [he]; simp)
    · exact hfeed (by rw [he]; simp)

section

variable {d : EndpointDeclaration} {group : Option GroupHeader} {e : EndpointSchema}

/-- The address of a path behind a text is that of joining the two. -/
theorem EndpointSchema.address_text (base : String) (path : PathText) :
    address (.text base) path = match Url.join? base path.text with
      | none => .error (.contract (.invalidUrl path.shown))
      | some url => .ok (.of url) := by
  have hbase : PathText.ofValue? (.text base) = some (.of base) := rfl
  have htext : (PathText.of base).text = base := rfl
  simp only [address, hbase, htext]
  cases hjoin : Url.join? base path.text with
  | none => rfl
  | some joined =>
    simp only
    by_cases hpath : path.isEmpty = true
    · have hnone : path.text = "" := by simpa [PathText.isEmpty] using hpath
      have hsame : joined = base := by
        obtain ⟨_, -, hjoined⟩ := Option.map_eq_some_iff.mp ((Url.join?_eq base _).symm.trans hjoin)
        rw [← hjoined, hnone]
        simp [Url.trimmedBase, Url.appended]
      rw [if_pos hpath, hsame]
    · rw [if_neg hpath]

/-- A query stands behind an address and a question mark. -/
theorem EndpointSchema.withQuery_eq_ok {url : PathText} {query : Option QueryTexts} {whole : String}
    (h : withQuery url query = .ok whole) :
    (query = none ∧ whole = url.text) ∨ ∃ coded, whole = url.shown ++ "?" ++ coded := by
  cases query with
  | none => exact .inl ⟨rfl, (Except.ok.inj h).symm⟩
  | some texts =>
    right
    simp only [withQuery, unlessUnshown] at h
    split at h
    · exact ⟨_, (Except.ok.inj h).symm⟩
    · cases h

/-- What the steps of making a request for a base address that is a text have made. -/
theorem EndpointSchema.buildRequest_eq_ok {values : Values} {base : String} {request : Request}
    (h : e.buildRequest values (.text base) none = .ok request) :
    ∃ texts path url, e.pathTexts values = .ok texts ∧ e.resolvePath texts = .ok path ∧
      Url.join? base path.text = some url ∧ request.path = path.text ∧
      (request.url = url ∨ ∃ query, request.url = url ++ "?" ++ query) := by
  obtain ⟨texts, htexts, h⟩ := Outcome.bind_eq_ok.mp h
  obtain ⟨path, hpath, h⟩ := Outcome.bind_eq_ok.mp h
  obtain ⟨url, hurl, h⟩ := Outcome.bind_eq_ok.mp h
  obtain ⟨query, -, h⟩ := Outcome.bind_eq_ok.mp h
  obtain ⟨whole, hwhole, h⟩ := Outcome.bind_eq_ok.mp h
  obtain ⟨body, -, h⟩ := Outcome.bind_eq_ok.mp h
  obtain ⟨named, -, h⟩ := Outcome.bind_eq_ok.mp h
  obtain rfl := Except.ok.inj h
  rw [address_text] at hurl
  split at hurl
  · cases hurl
  next joined hjoin =>
    obtain rfl := Except.ok.inj hurl
    exact ⟨texts, path, joined, htexts, hpath, hjoin, rfl,
      (withQuery_eq_ok hwhole).imp And.right id⟩

/-- The path of the address of a request for a plain base address without a path is the coded path
of the request. -/
theorem EndpointSchema.split?_buildRequest {values : Values} {base : String} {request : Request}
    (h : e.buildRequest values (.text base) none = .ok request)
    (hplain : ∀ c ∈ base.toList, isPlain c = true) {b : Url.Parts}
    (hbase : Url.split? base = some b) (hempty : b.path = []) :
    ∃ parts, Url.split? request.url = some parts ∧ parts.path = Url.appended request.path := by
  obtain ⟨_, path, url, -, -, hjoin, hsent, hurl⟩ := buildRequest_eq_ok h
  obtain ⟨b', url', hb', hjoin', hwhole, hplain'⟩ :=
    Url.exists_split?_join? hplain (Option.isSome_of_eq_some hjoin) path.text
  obtain rfl := Option.some.inj (hbase.symm.trans hb')
  obtain rfl := Option.some.inj (hjoin.symm.trans hjoin')
  have hpath : (if path.text.isEmpty then b.path else Text.trimEnd (· = '/') b.path) ++
      Url.appended path.text = Url.appended request.path := by
    rw [hempty, hsent]
    split <;> rfl
  rcases hurl with hurl | ⟨query, hurl⟩
  · rw [hurl]
    exact ⟨_, ((Url.split?_eq_some hplain').mpr hwhole).1, hpath⟩
  · obtain ⟨parts, hsplit, -, -, hsame⟩ := hwhole.split?_query hplain' query
    rw [hurl]
    exact ⟨parts, hsplit, hsame.trans hpath⟩

/-- A request for an endpoint without fields and without a resolver is made for its template. -/
theorem EndpointSchema.buildRequest_of_parameters_eq_nil (hfields : e.parameters = [])
    (hr : e.resolver = none) {base url : String} (hjoin : Url.join? base e.pathTemplate = some url)
    (values : Values) :
    e.buildRequest values (.text base) none =
      .ok ⟨e.method, url, e.pathTemplate, none, none, e.requestHeaders false⟩ := by
  have htexts : e.pathTexts values = .ok [] := by
    rw [pathTexts, ofRole, hfields]
    rfl
  have hpath : e.resolvePath [] = .ok e.path := by
    rw [resolvePath, hr]
    rfl
  have hquery : e.queryTexts values = .ok none := by
    rw [queryTexts, ofRole, hfields]
    rfl
  have hbody : e.encodeBody values = .ok none := by
    rw [encodeBody, bodyParameter?, hfields]
    rfl
  have haddress : address (.text base) e.path = .ok (.of url) := by
    rw [address_text, ← pathTemplate, hjoin]
  refine Outcome.bind_eq_ok.mpr ⟨[], htexts, Outcome.bind_eq_ok.mpr ⟨e.path, hpath, ?_⟩⟩
  refine Outcome.bind_eq_ok.mpr ⟨.of url, haddress, Outcome.bind_eq_ok.mpr ⟨none, hquery, ?_⟩⟩
  exact Outcome.bind_eq_ok.mpr ⟨url, rfl, Outcome.bind_eq_ok.mpr ⟨none, hbody, rfl⟩⟩

/-- With the check on, the path of an endpoint without holes is its template. -/
theorem EndpointDeclaration.resolvePath_of_tokens_eq_nil (hd : d.extract group = .ok e)
    (hc : d.checkPath = true) (hr : d.resolver = none) (hnone : tokens e.pathTemplate = [])
    {values : Values} {texts : PathTexts} (htexts : e.pathTexts values = .ok texts)
    {path : PathText} (hpath : e.resolvePath texts = .ok path) : path.text = e.pathTemplate := by
  obtain ⟨named, hnamed, hnames, -⟩ := exists_named_pathTexts hd hc hr htexts
  have hres : e.resolver = none := by
    obtain ⟨_, _, _, -, -, -, -, -, -, rfl⟩ := extract_eq_ok hd
    exact hr
  have hspread := EndpointSchema.resolvePath_toList hres hnamed hnames hpath
  have hsame : ∀ name ∈ tokens e.pathTemplate, Template.filled named name = Template.mark name := by
    rw [hnone]
    exact nofun
  rw [Template.spread_congr hsame, Template.spread_mark_pieces] at hspread
  exact String.toList_inj.mp hspread

end

/-- Looking up a path in the table of one route. -/
theorem Router.lookup_run_single {m : Type → Type} (v : Option (Verifier m))
    (serializer : Serializer) (route : Route m) (path : String) :
    ((empty v serializer).run [route]).lookup route.schema.method path =
      match route.params? (Template.normalize path) with
      | some params => .ok (route, params)
      | none => .error (.http (.saying .notFound
          ("No route for " ++ route.schema.method.name ++ " " ++ Template.normalize path))) := by
  have hroutes : ((empty v serializer).run [route]).routes = [route] := rfl
  rw [lookup, route?, hroutes, List.findSome?_cons, if_pos rfl, List.findSome?_nil]
  cases route.params? (Template.normalize path) <;> rfl

/-- A request for an endpoint without holes finds the route of the endpoint exactly when coding its
path changes no more than slashes at its ends. For every accepted endpoint of which the whole
template has no holes, and every request made for it, the path that is put behind the base address
leads to the route of the endpoint, alone in a table, when it is normalized like the template, and
is not found otherwise. It is the path of the address of the request when the base address is plain
and has no path. With the check on and no resolver the path is the template, and the condition is
that every character of it stands for itself. -/
theorem Router.lookup_literal {d : EndpointDeclaration} {group : Option GroupHeader}
    {e : EndpointSchema} (hd : d.extract group = .ok e) (hnone : tokens e.pathTemplate = [])
    {m : Type → Type} (v : Option (Verifier m)) (serializer : Serializer) {route : Route m}
    (hroute : route.schema = e)
    {base : String} {values : Values} {request : Request}
    (hrequest : e.buildRequest values (.text base) none = .ok request) :
    ((empty v serializer).run [route]).lookup e.method (String.ofList (Url.appended request.path)) =
        (if Template.normalize (String.ofList (escape isPathSafe request.path.toList)) =
            Template.normalize e.pathTemplate then .ok (route, [])
        else .error (.http (.saying .notFound ("No route for " ++ e.method.name ++ " " ++
          Template.normalize (String.ofList (Url.appended request.path)))))) ∧
      (∀ b, (∀ c ∈ base.toList, isPlain c = true) → Url.split? base = some b → b.path = [] →
        ∃ parts, Url.split? request.url = some parts ∧ parts.path = Url.appended request.path) ∧
      (d.checkPath = true → d.resolver = none → request.path = e.pathTemplate ∧
        (Template.normalize (String.ofList (escape isPathSafe request.path.toList)) =
            Template.normalize e.pathTemplate ↔
          ∀ c ∈ e.pathTemplate.toList, isPathSafe c = true)) := by
  subst hroute
  refine ⟨?_, fun b hplain hbase hempty =>
    EndpointSchema.split?_buildRequest hrequest hplain hbase hempty, fun hc hr => ?_⟩
  · rw [lookup_run_single, Route.params?, Route.pattern,
      Template.params?_appended_of_tokens_eq_nil hnone]
    by_cases hsame : Template.normalize (String.ofList (escape isPathSafe request.path.toList)) =
        Template.normalize route.schema.pathTemplate
    · rw [if_pos hsame, if_pos hsame]
    · rw [if_neg hsame, if_neg hsame]
  · obtain ⟨texts, path, -, htexts, hpath, -, hsent, -⟩ :=
      EndpointSchema.buildRequest_eq_ok hrequest
    have hsame : request.path = route.schema.pathTemplate :=
      hsent.trans (EndpointDeclaration.resolvePath_of_tokens_eq_nil hd hc hr hnone htexts hpath)
    rw [hsame]
    exact ⟨rfl, Url.normalize_escape_eq⟩

/-- An endpoint for notes at a path. -/
def notesEndpoint (path : String) : EndpointDeclaration :=
  ⟨.text "Notes", .text "GET", .text path, [], .plain .null, false, true, none⟩

/-- The extracted endpoint for notes at a path. -/
def notesSchema (path : String) : EndpointSchema :=
  ⟨.text "Notes", .get, path, [], .plain .null, none, false, none⟩

/-- A request for the notes of all is found. -/
theorem Router.lookup_notes_of_all :
    (notesEndpoint "/notes/@all/").extract none = .ok (notesSchema "/notes/@all/") ∧
      tokens (notesSchema "/notes/@all/").pathTemplate = [] ∧
      (∀ c ∈ "http://h".toList, isPlain c = true) ∧
      Url.split? "http://h" = some ⟨"http".toList, "h".toList, [], [], []⟩ ∧
      (notesSchema "/notes/@all/").buildRequest [] (.text "http://h") none =
        .ok ⟨.get, "http://h/notes/@all/", "/notes/@all/", none, none, []⟩ ∧
      ∃ parts, Url.split? "http://h/notes/@all/" = some parts ∧
        ((empty none).run [silentRoute (notesSchema "/notes/@all/")]).lookup .get
          (String.ofList parts.path) = .ok (silentRoute (notesSchema "/notes/@all/"), []) := by
  have hd : (notesEndpoint "/notes/@all/").extract none = .ok (notesSchema "/notes/@all/") := by cbv
  have hnone : tokens (notesSchema "/notes/@all/").pathTemplate = [] := by decide +kernel
  have hplain : ∀ c ∈ "http://h".toList, isPlain c = true := List.all_eq_true.mp (by cbv)
  have hbase : Url.split? "http://h" = some ⟨"http".toList, "h".toList, [], [], []⟩ := by cbv
  have hjoin : Url.join? "http://h" (notesSchema "/notes/@all/").pathTemplate =
      some "http://h/notes/@all/" := by decide
  have hrequest := EndpointSchema.buildRequest_of_parameters_eq_nil rfl rfl hjoin []
  have hroute :
      (silentRoute (notesSchema "/notes/@all/")).schema = notesSchema "/notes/@all/" := rfl
  obtain ⟨hlookup, hparts, hsafe⟩ := lookup_literal hd hnone none .json hroute hrequest
  obtain ⟨parts, hsplit, hpath⟩ := hparts _ hplain hbase rfl
  have hall : ∀ c ∈ (notesSchema "/notes/@all/").pathTemplate.toList, isPathSafe c = true :=
    List.all_eq_true.mp (by decide)
  rw [if_pos ((hsafe rfl rfl).2.mpr hall), ← hpath] at hlookup
  exact ⟨hd, hnone, hplain, hbase, hrequest, parts, hsplit, hlookup⟩

/-- A request for a path with a space in it is made, but its own endpoint is not found. -/
theorem Router.not_lookup_my_notes :
    (notesEndpoint "/my notes").extract none = .ok (notesSchema "/my notes") ∧
      tokens (notesSchema "/my notes").pathTemplate = [] ∧
      (notesSchema "/my notes").buildRequest [] (.text "http://h") none =
        .ok ⟨.get, "http://h/my%20notes", "/my notes", none, none, []⟩ ∧
      Url.split? "http://h/my%20notes" =
        some ⟨"http".toList, "h".toList, "/my%20notes".toList, [], []⟩ ∧
      ((empty none).run [silentRoute (notesSchema "/my notes")]).lookup .get "/my%20notes" =
        .error (.http (.saying .notFound "No route for GET /my%20notes")) := by
  have hjoin : Url.join? "http://h" (notesSchema "/my notes").pathTemplate =
      some "http://h/my%20notes" := by decide
  have hnone : (silentRoute (notesSchema "/my notes")).params? (Template.normalize "/my%20notes") =
      none := by decide +kernel
  have hlookup := lookup_run_single none .json (silentRoute (notesSchema "/my notes")) "/my%20notes"
  rw [hnone] at hlookup
  exact ⟨by cbv, by decide +kernel,
    EndpointSchema.buildRequest_of_parameters_eq_nil rfl rfl hjoin [], by decide, hlookup⟩

end RestContract
