import RestContract.Proofs.Route.Table
import RestContract.Proofs.Template.Overlap

/-!
# Every route is found

A path that fills a template with long texts leads to the route of that template: any other
route that it matches has more holes or fewer literal characters, and stands behind.
-/

namespace RestContract

open Template (FillsSegment Segmented filler holes pieces spread skeleton tokens)

variable {m : Type → Type}

/-- The path that fills the template of a route with long texts. -/
def Route.filledPath (k : Nat) (r : Route m) : String :=
  String.ofList (spread (fun _ => filler k) (pieces r.schema.pathTemplate.toList))

/-- Normalizing the filled path of a route fills its pattern. -/
theorem Route.normalize_filledPath {k : Nat} (hk : 0 < k) (r : Route m) :
    (Template.normalize (r.filledPath k)).toList = spread (fun _ => filler k) r.pattern :=
  Template.normalize_spread fun _ _ => Template.filler_fillsSegment hk

/-- A route matches its filled path. -/
theorem Route.params?_filledPath {k : Nat} (hk : 0 < k) {r : Route m}
    (h : Segmented (pieces r.schema.pathTemplate.toList)) :
    ∃ params, r.params? (Template.normalize (r.filledPath k)) = some params := by
  have hfill := Template.fill?_spread (Template.segmented_pattern h)
    fun name _ => (Template.filler_fillsSegment hk : FillsSegment ((fun _ => filler k) name))
  rw [params?, Template.params?, normalize_filledPath hk, pattern, hfill]
  exact ⟨_, rfl⟩

/-- A route before another one that stands over it is one for the same paths. -/
theorem Route.clashes_of_standsOver {q r : Route m} (hm : q.schema.method = r.schema.method)
    (hle : keyLe q.key r.key = true) (h : Template.StandsOver q.pattern r.pattern) :
    q.clashes r = true := by
  rw [keyLe_iff] at hle
  rcases h with hlt | ⟨tail, htail, he⟩
  · simp only [key] at hle
    omega
  · have hnone : (tail.map some).filter Option.isNone = [] := by simp
    have hsome : (tail.map some).filter Option.isSome = tail.map some := by simp
    have hholes : (holes r.pattern).length = (holes q.pattern).length := by
      rw [Template.length_holes, Template.length_holes, he, List.filter_append, hnone,
        List.append_nil]
    have hstatic : Template.staticLength r.pattern =
        Template.staticLength q.pattern + tail.length := by
      rw [Template.staticLength_eq, Template.staticLength_eq, he, List.filter_append, hsome,
        List.length_append, List.length_map]
    have hempty : tail = [] := by
      simp only [key] at hle
      apply List.eq_nil_of_length_eq_zero
      omega
    rw [clashes_iff, he, hempty]
    exact ⟨hm, by simp⟩

/-- Some number is greater than the lengths of all patterns of a table. -/
theorem exists_length_lt (routes : List (Route m)) :
    ∃ k, 0 < k ∧ ∀ q ∈ routes, q.pattern.length < k := by
  induction routes with
  | nil => exact ⟨1, Nat.one_pos, fun q hq => nomatch hq⟩
  | cons r rest ih =>
    obtain ⟨k, hk, hrest⟩ := ih
    refine ⟨k + r.pattern.length + 1, by omega, fun q hq => ?_⟩
    rcases List.mem_cons.mp hq with rfl | hq
    · omega
    · have := hrest q hq
      omega

namespace Router

/-- In a table whose holes fill segments, the filled path of a route leads to that route. -/
theorem WellOrdered.lookup_filledPath {t : Router m} (h : t.WellOrdered)
    (hs : ∀ q ∈ t.routes, Segmented (pieces q.schema.pathTemplate.toList)) {k : Nat} (hk : 0 < k)
    (hlong : ∀ q ∈ t.routes, q.pattern.length < k) {r : Route m} (hr : r ∈ t.routes) :
    ∃ params, t.lookup r.schema.method (r.filledPath k) = .ok (r, params) := by
  obtain ⟨params, hparams⟩ := Route.params?_filledPath hk (hs r hr)
  obtain ⟨front, back, hsplit⟩ := List.append_of_mem hr
  -- No route before `r` matches: it would stand over `r`, and then clash with it.
  have hfront : ∀ q ∈ front, q.schema.method = r.schema.method →
      q.params? (Template.normalize (r.filledPath k)) = none := by
    intro q hq hm
    have hqt : q ∈ t.routes := hsplit ▸ List.mem_append_left _ hq
    apply Option.eq_none_iff_forall_ne_some.mpr
    intro found hfound
    have hfill : (Template.fill? q.pattern
        (spread (fun _ => filler k) r.pattern)).isSome = true := by
      rw [Route.params?, Template.params?, Route.normalize_filledPath hk] at hfound
      obtain ⟨texts, ht, -⟩ := Option.map_eq_some_iff.mp hfound
      rw [ht]
      rfl
    have hover := Template.standsOver_of_fill? (Template.segmented_pattern (hs q hqt))
      (Template.segmented_pattern (hs r hr)) (hlong q hqt) hfill
    have hle : keyLe q.key r.key = true := by
      have hsorted := h.sorted
      rw [hsplit] at hsorted
      exact (List.pairwise_append.mp hsorted).2.2 q hq r List.mem_cons_self
    have hapart : q.clashes r = false := by
      have hpairs := h.apart
      rw [hsplit] at hpairs
      exact (List.pairwise_append.mp hpairs).2.2 q hq r List.mem_cons_self
    rw [Route.clashes_of_standsOver hm hle hover] at hapart
    cases hapart
  refine ⟨params, ?_⟩
  have hfound : t.route? r.schema.method (Template.normalize (r.filledPath k)) =
      some (r, params) := by
    rw [route?, hsplit, List.findSome?_append, List.findSome?_eq_none_iff.mpr, Option.none_or,
      List.findSome?_cons, if_pos rfl, hparams]
    · rfl
    · intro q hq
      by_cases hm : q.schema.method = r.schema.method
      · rw [if_pos hm, hfront q hq hm]
        rfl
      · rw [if_neg hm]
  rw [lookup, hfound]

/-- No route is dead: in every table made by registering routes whose holes fill segments, some path
leads to each route of the table. -/
theorem exists_lookup_eq {news : List (Route m)}
    (hs : ∀ new ∈ news, Segmented (pieces new.schema.pathTemplate.toList)) (v : Option (Verifier m))
    (serializer : Serializer) {r : Route m} (hr : r ∈ ((empty v serializer).run news).routes) :
    ∃ path params,
      ((empty v serializer).run news).lookup r.schema.method path = .ok (r, params) := by
  have hmem : ∀ q ∈ ((empty v serializer).run news).routes, q ∈ news := fun q hq =>
    (mem_run hq).resolve_left fun h => nomatch h
  obtain ⟨k, hk, hlong⟩ := exists_length_lt ((empty v serializer).run news).routes
  obtain ⟨params, hparams⟩ := ((wellOrdered_empty v serializer).run news).lookup_filledPath
    (fun q hq => hs q (hmem q hq)) hk hlong hr
  exact ⟨r.filledPath k, params, hparams⟩

/-- A route with a hole is found although a literal segment in its place stands before it. -/
theorem exists_lookup_hole :
    ∃ path params,
      ((empty none).run
        [silentRoute (plainSchema "/users/me"), silentRoute (plainSchema "/users/:id")]).lookup
        .get path = .ok (silentRoute (plainSchema "/users/:id"), params) := by
  have hclash : (silentRoute (plainSchema "/users/me")).clashes
      (silentRoute (plainSchema "/users/:id")) = false := by decide +kernel
  have haccepted : ¬(empty none).Refuses
      [silentRoute (plainSchema "/users/me"), silentRoute (plainSchema "/users/:id")] := by
    refine not_refuses_iff.mpr ⟨(fun old ho => nomatch ho), ?_⟩
    simp [hclash]
  have hmem : silentRoute (plainSchema "/users/:id") ∈ ((empty none).run
      [silentRoute (plainSchema "/users/me"), silentRoute (plainSchema "/users/:id")]).routes := by
    rw [(perm_run haccepted).mem_iff]
    simp [empty]
  refine exists_lookup_eq ?_ none .json hmem
  intro new hnew
  simp only [List.mem_cons, List.not_mem_nil, or_false] at hnew
  rcases hnew with rfl | rfl
  · decide +kernel
  · decide +kernel

end Router

end RestContract
