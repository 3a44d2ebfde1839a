import RestContract.Proofs.Route.Table
import RestContract.Proofs.Template.Language

/-!
# Routes for some of the paths of another one

The table asks routes with fewer holes first, then those with more literal characters. A route for
some of the paths of another one has no fewer pieces than that one. So with no more holes it has
more literal characters, or else the same holes and characters and therefore the same paths: it is
asked first. That it has no more holes is certain only when its holes are in different segments.
With more holes it is asked behind the other one, which takes every path that it would match.
-/

namespace RestContract

open Template (holes skeleton staticLength SingleHoled)

variable {m : Type → Type}

/-- Every path that matches one route matches another one, and some path matches that one only. -/
def Route.NarrowerThan (a b : Route m) : Prop :=
  (∀ path, (a.params? path).isSome = true → (b.params? path).isSome = true) ∧
    ∃ path, (b.params? path).isSome = true ∧ a.params? path = none

/-- A path matches a route when it matches its pattern. -/
theorem Route.isSome_params? (r : Route m) (path : String) :
    (r.params? path).isSome = (Template.fill? r.pattern path.toList).isSome := by
  rw [params?, Template.params?, Option.isSome_map]

/-- The pattern of a narrower route lies within that of the other one. -/
theorem Route.NarrowerThan.within {a b : Route m} (h : a.NarrowerThan b) :
    Template.Within a.pattern b.pattern := by
  intro cs hcs
  have hb := h.1 (String.ofList cs)
  rw [Route.isSome_params?, Route.isSome_params?, String.toList_ofList] at hb
  exact hb hcs

/-- A route whose pattern lies within that of another one is narrower when some path matches the
other one only. -/
theorem Route.narrowerThan_of_within {a b : Route m} (h : Template.Within a.pattern b.pattern)
    (path : String) (hb : (b.params? path).isSome = true) (ha : a.params? path = none) :
    a.NarrowerThan b := by
  refine ⟨fun other hother => ?_, path, hb, ha⟩
  rw [isSome_params?] at hother ⊢
  exact h _ hother

private theorem Route.NarrowerThan.skeleton_ne {a b : Route m} (h : a.NarrowerThan b) :
    skeleton a.pattern ≠ skeleton b.pattern := by
  intro he
  obtain ⟨path, hb, ha⟩ := h.2
  rw [Route.isSome_params?] at hb
  have hmatch := Template.within_of_skeleton_eq he.symm _ hb
  rw [← Route.isSome_params?, ha] at hmatch
  cases hmatch

/-- A narrower route with no more holes has to stand before the other one. -/
theorem Route.NarrowerThan.keyLe_eq_false {a b : Route m} (h : a.NarrowerThan b)
    (hholes : (holes a.pattern).length ≤ (holes b.pattern).length) :
    keyLe b.key a.key = false := by
  rw [Bool.eq_false_iff, ne_eq, keyLe_iff]
  have hlen := h.within.length_le
  have ha := Template.staticLength_add_holes a.pattern
  have hb := Template.staticLength_add_holes b.pattern
  have hne : a.pattern.length = b.pattern.length →
      ¬(holes b.pattern).length ≤ (holes a.pattern).length :=
    fun he hle => h.skeleton_ne (h.within.skeleton_eq he hle)
  simp only [key]
  rintro (hlt | ⟨heq, hlt | ⟨hstatic, -⟩⟩)
  · omega
  · omega
  · exact hne (by omega) (by omega)

namespace Router

/-- The route that is found is for the method and matches the path, and no route for the method
before it does. -/
theorem lookup_eq_ok {t : Router m} {method : Method} {path : String} {r : Route m}
    {params : List (String × String)} (h : t.lookup method path = .ok (r, params)) :
    ∃ front back, t.routes = front ++ r :: back ∧ r.schema.method = method ∧
      r.params? (Template.normalize path) = some params ∧
      ∀ q ∈ front, q.schema.method = method → q.params? (Template.normalize path) = none := by
  unfold lookup at h
  cases hroute : t.route? method (Template.normalize path) with
  | none => simp [hroute] at h
  | some found =>
    rw [hroute] at h
    obtain rfl := Except.ok.inj h
    obtain ⟨front, first, back, hsplit, hfirst, hfront⟩ := List.findSome?_eq_some_iff.mp hroute
    split at hfirst
    next hmethod =>
      obtain ⟨texts, htexts, he⟩ := Option.map_eq_some_iff.mp hfirst
      obtain ⟨rfl, rfl⟩ := Prod.mk.inj he
      refine ⟨front, back, hsplit, hmethod, htexts, fun q hq hm => ?_⟩
      have hnone := hfront q hq
      rwa [if_pos hm, Option.map_eq_none_iff] at hnone
    next => cases hfirst

/-- A path that matches some route of a table leads to that route or to one before it. -/
theorem WellOrdered.exists_lookup_le {t : Router m} (h : t.WellOrdered) {r : Route m}
    (hr : r ∈ t.routes) {path : String} (hp : (r.params? (Template.normalize path)).isSome = true) :
    ∃ found params, t.lookup r.schema.method path = .ok (found, params) ∧
      keyLe found.key r.key = true := by
  have hsome : (t.route? r.schema.method (Template.normalize path)).isSome = true := by
    rw [route?, List.findSome?_isSome_iff]
    exact ⟨r, hr, by rwa [if_pos rfl, Option.isSome_map]⟩
  obtain ⟨⟨found, params⟩, hroute⟩ := Option.isSome_iff_exists.mp hsome
  have hfound : t.lookup r.schema.method path = .ok (found, params) := by rw [lookup, hroute]
  obtain ⟨front, back, hsplit, -, -, hfront⟩ := lookup_eq_ok hfound
  refine ⟨found, params, hfound, ?_⟩
  have hsorted := h.sorted
  rw [hsplit] at hr hsorted
  rcases List.mem_append.mp hr with hr | hr
  · rw [hfront r hr rfl] at hp
    cases hp
  · rcases List.mem_cons.mp hr with rfl | hr
    · exact (keyLe_total r.key r.key).elim id id
    · exact List.rel_of_pairwise_cons (List.pairwise_append.mp hsorted).2.1 hr

/-- Of two routes of a table for one method, the narrower one is preferred as far as it has no more
holes. Then no path that matches it leads to the other one. It never has more when its holes are in
different segments; and when it has more, no path leads to it at all. -/
theorem lookup_narrower {news : List (Route m)} {v : Option (Verifier m)}
    {serializer : Serializer} {a b : Route m} (ha : a ∈ ((empty v serializer).run news).routes)
    (hb : b ∈ ((empty v serializer).run news).routes)
    (hmethod : a.schema.method = b.schema.method) (h : a.NarrowerThan b) :
    ((holes a.pattern).length ≤ (holes b.pattern).length → ∀ path,
        (a.params? (Template.normalize path)).isSome = true → ∀ params,
          ((empty v serializer).run news).lookup a.schema.method path ≠ .ok (b, params)) ∧
      (SingleHoled a.pattern → (holes a.pattern).length ≤ (holes b.pattern).length) ∧
      ((holes b.pattern).length < (holes a.pattern).length → ∀ path params,
        ((empty v serializer).run news).lookup a.schema.method path ≠ .ok (a, params)) := by
  have hwell := (wellOrdered_empty v serializer).run news
  refine ⟨fun hle path hpath params hfound => ?_, h.within.holes_le,
    fun hlt path params hfound => ?_⟩
  · obtain ⟨found, texts, hlookup, hkey⟩ := hwell.exists_lookup_le ha hpath
    obtain ⟨rfl, -⟩ := Prod.mk.inj (Except.ok.inj (hlookup.symm.trans hfound))
    rw [h.keyLe_eq_false hle] at hkey
    cases hkey
  · obtain ⟨-, -, -, -, hparams, -⟩ := lookup_eq_ok hfound
    have hpath := h.1 _ (Option.isSome_of_eq_some hparams)
    obtain ⟨found, texts, hlookup, hkey⟩ := hwell.exists_lookup_le hb hpath
    rw [← hmethod] at hlookup
    obtain ⟨rfl, -⟩ := Prod.mk.inj (Except.ok.inj (hlookup.symm.trans hfound))
    rw [keyLe_iff] at hkey
    simp only [Route.key] at hkey
    omega

/-- An endpoint for reading at a path, with fields for the holes of the path. -/
def fieldsEndpoint (name path : String) (fields : List String) : EndpointDeclaration :=
  ⟨.text name, .text "GET", .text path,
    fields.map fun field => ⟨.text field, .shape .text, [.path], none⟩,
    .plain .null, false, true, none⟩

/-- A route for reading at a path, with fields for the holes of the path. -/
def fieldsRoute (name path : String) (fields : List String) : Route Id :=
  silentRoute ⟨.text name, .get, path,
    fields.map fun field => ⟨.text field, .string, .path, false, .text field, none, .shape .text⟩,
    .plain .null, none, false, none⟩

/-- A route for whatever a section has by some name. -/
def entryRoute : Route Id := fieldsRoute "Entry" "/:section/:name" ["section", "name"]

/-- A route for the releases by their names. -/
def namedRoute : Route Id := fieldsRoute "Named" "/releases/:name" ["name"]

/-- A route for the releases by the three numbers of a version. -/
def releaseRoute : Route Id :=
  fieldsRoute "Release" "/releases/:major.:minor.:patch" ["major", "minor", "patch"]

/-- The pieces of a path for whatever a section has. -/
def sectionPieces (behind : List Piece) : List Piece :=
  [.char '/', .hole "section", .char '/'] ++ behind

/-- The pieces of a path for releases. -/
def releasePieces (behind : List Piece) : List Piece :=
  [.char '/'] ++ "releases".toList.map .char ++ .char '/' :: behind

/-- The releases are a section. -/
theorem within_section (behind : List Piece) :
    Template.Within (releasePieces behind) (sectionPieces behind) :=
  Template.within_hole [.char '/'] (.char '/' :: behind) "section" (by decide) (by decide)

/-- An entry is whatever a section has. -/
theorem pattern_entryRoute : entryRoute.pattern = sectionPieces [.hole "name"] := by
  decide +kernel

private theorem namedRoute_narrowerThan : namedRoute.NarrowerThan entryRoute := by
  have hnamed : namedRoute.pattern = releasePieces [.hole "name"] := by decide +kernel
  have hwithin : Template.Within namedRoute.pattern entryRoute.pattern := by
    rw [hnamed, pattern_entryRoute]
    exact within_section _
  exact Route.narrowerThan_of_within hwithin "/users/7" (by decide +kernel)
    (by decide +kernel)

/-- The releases by the numbers of their versions are some entries. -/
theorem releaseRoute_narrowerThan : releaseRoute.NarrowerThan entryRoute := by
  have hrelease : releaseRoute.pattern = releasePieces
      [.hole "major", .char '.', .hole "minor", .char '.', .hole "patch"] := by decide +kernel
  have hversion : Template.Within
      (sectionPieces ([.hole "major", .char '.', .hole "minor", .char '.', .hole "patch"] ++ []))
      (sectionPieces [.hole "name"]) := by
    rw [sectionPieces, ← List.append_assoc]
    exact Template.within_hole _ [] "name" (by decide) (by decide)
  have hwithin : Template.Within releaseRoute.pattern entryRoute.pattern := by
    rw [hrelease, pattern_entryRoute]
    exact (within_section _).trans hversion
  exact Route.narrowerThan_of_within hwithin "/users/7" (by decide +kernel)
    (by decide +kernel)

/-- The path of a release by its name leads to it, and not to the entry of that name. -/
theorem lookup_named :
    namedRoute ∈ ((empty none).run [entryRoute, namedRoute]).routes ∧
      entryRoute ∈ ((empty none).run [entryRoute, namedRoute]).routes ∧
      namedRoute.NarrowerThan entryRoute ∧ SingleHoled namedRoute.pattern ∧
      (namedRoute.params? (Template.normalize "/releases/1.2.3")).isSome = true ∧
      ∀ params, ((empty none).run [entryRoute, namedRoute]).lookup .get "/releases/1.2.3" ≠
        .ok (entryRoute, params) := by
  have hclash : entryRoute.clashes namedRoute = false := by decide +kernel
  have haccepted : ¬(empty none).Refuses [entryRoute, namedRoute] := by
    refine not_refuses_iff.mpr ⟨(fun old ho => nomatch ho), ?_⟩
    simp [hclash]
  have hmem : ∀ r, r ∈ ((empty none).run [entryRoute, namedRoute]).routes ↔
      r ∈ [entryRoute, namedRoute] := fun r => (perm_run haccepted).mem_iff
  have hnamed := (hmem namedRoute).mpr (by simp)
  have hentry := (hmem entryRoute).mpr (by simp)
  have hsingle : SingleHoled namedRoute.pattern := by decide +kernel
  have hpath : (namedRoute.params? (Template.normalize "/releases/1.2.3")).isSome = true := by
    decide +kernel
  obtain ⟨hfirst, hholes, -⟩ := lookup_narrower hnamed hentry rfl namedRoute_narrowerThan
  exact ⟨hnamed, hentry, namedRoute_narrowerThan, hsingle, hpath, hfirst (hholes hsingle) _ hpath⟩

/-- A narrower route with three holes in one segment is shadowed: the path of a release by the
numbers of its version leads to the entry of that name. -/
theorem lookup_release :
    (fieldsEndpoint "Release" "/releases/:major.:minor.:patch" ["major", "minor", "patch"]).extract
        none = .ok releaseRoute.schema ∧
      (fieldsEndpoint "Entry" "/:section/:name" ["section", "name"]).extract none =
        .ok entryRoute.schema ∧
      ((empty none).run [releaseRoute, entryRoute]).routes = [entryRoute, releaseRoute] ∧
      releaseRoute.schema.method = entryRoute.schema.method ∧
      releaseRoute.NarrowerThan entryRoute ∧
      (releaseRoute.params? (Template.normalize "/releases/1.2.3")).isSome = true ∧
      ((empty none).run [releaseRoute, entryRoute]).lookup .get "/releases/1.2.3" =
        .ok (entryRoute, [("section", "releases"), ("name", "1.2.3")]) := by
  have hclash : releaseRoute.clashes entryRoute = false := by decide +kernel
  have hkey : keyLe releaseRoute.key entryRoute.key = false := by decide +kernel
  have hroutes : ((empty none).run [releaseRoute, entryRoute]).routes =
      [entryRoute, releaseRoute] := by
    simp [run, attempt, register, empty, insertRoute, hclash, hkey]
  have hfound : entryRoute.params? (Template.normalize "/releases/1.2.3") =
      some [("section", "releases"), ("name", "1.2.3")] := by decide +kernel
  have hmethod : entryRoute.schema.method = .get := rfl
  refine ⟨by cbv, by cbv, hroutes, rfl, releaseRoute_narrowerThan, by decide +kernel, ?_⟩
  rw [lookup, route?, hroutes, List.findSome?_cons, if_pos hmethod, hfound]
  rfl

end Router

end RestContract
