import Mathlib
import RestContract.Route.Table

/-!
# Tables made by registering

A registration is refused exactly when the table has a route for the same paths, and
otherwise puts the route in its place. So a table is always in the order of its keys, and
no two of its routes are for the same paths. Within a method only one order of the routes
has both properties, and looking a path up asks only the routes of one method. Therefore
neither what is refused nor what is found depends on the order of the registrations.
-/

namespace RestContract

/-- One of two keys may stand before the other one. -/
theorem keyLe_total (a b : Nat × Nat × String) : keyLe a b = true ∨ keyLe b a = true := by
  have hstring := String.le_total a.2.2 b.2.2
  unfold keyLe
  split
  next hne =>
    have hne' : b.1 ≠ a.1 := Ne.symm hne
    simp only [hne', ne_eq, not_false_eq_true, if_true, decide_eq_true_eq]
    omega
  next heq =>
    have heq : a.1 = b.1 := not_not.mp heq
    by_cases hs : a.2.1 = b.2.1
    · simpa [heq, hs] using hstring
    · have hs' : b.2.1 ≠ a.2.1 := Ne.symm hs
      simp only [heq, hs, hs', ne_eq, not_true_eq_false, not_false_eq_true, if_true, if_false,
        decide_eq_true_eq]
      omega

/-- What a key says when it may stand before another one. -/
theorem keyLe_iff {a b : Nat × Nat × String} :
    keyLe a b = true ↔ a.1 < b.1 ∨ a.1 = b.1 ∧ (b.2.1 < a.2.1 ∨ a.2.1 = b.2.1 ∧ a.2.2 ≤ b.2.2) := by
  unfold keyLe
  by_cases hh : a.1 = b.1
  · by_cases hs : a.2.1 = b.2.1
    · simp [hh, hs]
    · simp [hh, hs]
  · simp [hh]

/-- A key that may stand before a second one may stand before what follows that. -/
theorem keyLe_trans {a b c : Nat × Nat × String} (hab : keyLe a b = true) (hbc : keyLe b c = true) :
    keyLe a c = true := by
  rw [keyLe_iff] at *
  rcases hab with hab | ⟨hab, hab' | ⟨hab', hab''⟩⟩
  · left
    omega
  · rcases hbc with hbc | ⟨hbc, hbc' | ⟨hbc', -⟩⟩
    · left
      omega
    · right
      omega
    · right
      omega
  · rcases hbc with hbc | ⟨hbc, hbc' | ⟨hbc', hbc''⟩⟩
    · left
      omega
    · right
      omega
    · exact Or.inr ⟨hab.trans hbc, Or.inr ⟨hab'.trans hbc', String.le_trans hab'' hbc''⟩⟩

/-- Two keys of which each may stand before the other one are equal. -/
theorem keyLe_antisymm {a b : Nat × Nat × String} (hab : keyLe a b = true)
    (hba : keyLe b a = true) : a = b := by
  rw [keyLe_iff] at *
  have hholes : a.1 = b.1 := by omega
  have hstatic : a.2.1 = b.2.1 := by omega
  have htext : a.2.2 = b.2.2 := by
    apply String.le_antisymm
    · rcases hab with h | ⟨-, h | ⟨-, h⟩⟩
      · omega
      · omega
      · exact h
    · rcases hba with h | ⟨-, h | ⟨-, h⟩⟩
      · omega
      · omega
      · exact h
  exact Prod.ext hholes (Prod.ext hstatic htext)

section

variable {m : Type → Type}

/-- Routes clash when they are of one method and their templates differ in names only. -/
theorem Route.clashes_iff {r s : Route m} : r.clashes s = true ↔
    r.schema.method = s.schema.method ∧
      Template.skeleton r.pattern = Template.skeleton s.pattern := by
  rw [clashes, Bool.and_eq_true, decide_eq_true_eq, decide_eq_true_eq]

/-- Two routes clash in either order. -/
theorem Route.clashes_comm (r s : Route m) : r.clashes s = s.clashes r := by
  rw [Bool.eq_iff_iff, clashes_iff, clashes_iff]
  exact and_congr eq_comm eq_comm

/-- Two routes of one method and of one template clash. -/
theorem Route.clashes_of_template {r s : Route m} (hm : r.schema.method = s.schema.method)
    (ht : r.template = s.template) : r.clashes s = true := by
  have hp : r.pattern = s.pattern := by
    rw [pattern, pattern, Template.pattern, Template.pattern]
    exact congrArg (fun t => Template.pieces t.toList) ht
  rw [clashes_iff, hp]
  exact ⟨hm, rfl⟩

/-- Putting a route in its place adds that route. -/
theorem insertRoute_perm (new : Route m) (routes : List (Route m)) :
    (insertRoute new routes).Perm (new :: routes) := by
  induction routes with
  | nil => exact List.Perm.refl _
  | cons r rest ih =>
    rw [insertRoute]
    split
    · exact (ih.cons r).trans (List.Perm.swap new r rest)
    · exact List.Perm.refl _

/-- Putting a route in its place keeps the order. -/
theorem pairwise_insertRoute {new : Route m} {routes : List (Route m)}
    (h : routes.Pairwise fun a b => keyLe a.key b.key = true) :
    (insertRoute new routes).Pairwise fun a b => keyLe a.key b.key = true := by
  induction routes with
  | nil => simp [insertRoute]
  | cons r rest ih =>
    obtain ⟨hfirst, hrest⟩ := List.pairwise_cons.mp h
    rw [insertRoute]
    split
    next hle =>
      refine List.pairwise_cons.mpr ⟨fun s hs => ?_, ih hrest⟩
      rcases List.mem_cons.mp ((insertRoute_perm new rest).mem_iff.mp hs) with rfl | hs
      · exact hle
      · exact hfirst s hs
    next hnot =>
      have hle : keyLe new.key r.key = true := (keyLe_total new.key r.key).resolve_right hnot
      refine List.pairwise_cons.mpr ⟨fun s hs => ?_, h⟩
      rcases List.mem_cons.mp hs with rfl | hs
      · exact hle
      · exact keyLe_trans hle (hfirst s hs)

namespace Router

/-- What comes of a registration: a refused one leaves the table as it is. -/
def attempt (r : Router m) (new : Route m) : Router m :=
  match r.register new with
  | .ok r' => r'
  | .error _ => r

/-- What comes of some registrations one after the other. -/
def run (r : Router m) (news : List (Route m)) : Router m := news.foldl attempt r

/-- One of some registrations is refused. -/
def Refuses : Router m → List (Route m) → Prop
  | _, [] => False
  | r, new :: rest => (∃ f, r.register new = .error f) ∨ (r.attempt new).Refuses rest

/-- A route that clashes with none of a table is put in its place. -/
theorem register_of_fits {r : Router m} {new : Route m}
    (h : ∀ old ∈ r.routes, old.clashes new = false) :
    r.register new = .ok { r with routes := insertRoute new r.routes } := by
  have hnone : r.routes.find? (fun old => old.clashes new) = none :=
    List.find?_eq_none.mpr fun old ho => by simp [h old ho]
  rw [register, hnone]

/-- A route that clashes with one of a table is refused. -/
theorem register_of_clash {r : Router m} {new old : Route m} (ho : old ∈ r.routes)
    (h : old.clashes new = true) : ∃ f, r.register new = .error f := by
  unfold register
  cases hf : r.routes.find? fun old => old.clashes new with
  | none => exact absurd h (List.find?_eq_none.mp hf old ho)
  | some other => exact ⟨_, rfl⟩

/-- A table as registering makes it: in order, and no two routes for the same paths. -/
structure WellOrdered (r : Router m) : Prop where
  /-- The routes are in the order of their keys. -/
  sorted : r.routes.Pairwise fun a b => keyLe a.key b.key = true
  /-- No two routes clash. -/
  apart : r.routes.Pairwise fun a b => a.clashes b = false

/-- Routes of a table that clash are one route. -/
theorem WellOrdered.eq_of_clashes {r : Router m} (h : r.WellOrdered) {a b : Route m}
    (ha : a ∈ r.routes) (hb : b ∈ r.routes) (hclash : a.clashes b = true) : a = b := by
  by_contra hne
  have hsymm : Std.Symm fun a b : Route m => a.clashes b = false :=
    ⟨fun a b hab => (b.clashes_comm a).trans hab⟩
  exact absurd (hclash.symm.trans (h.apart.forall ha hb hne)) Bool.true_eq_false.mp

/-- The empty table is in order. -/
theorem wellOrdered_empty (v : Option (Verifier m)) (serializer : Serializer) :
    (empty v serializer).WellOrdered :=
  ⟨List.Pairwise.nil, List.Pairwise.nil⟩

/-- A registration leaves the table as it is, or puts a route that clashes with none in
its place. -/
theorem attempt_cases (r : Router m) (new : Route m) :
    ((∃ f, r.register new = .error f) ∧ r.attempt new = r) ∨
      ((∀ old ∈ r.routes, old.clashes new = false) ∧
        r.register new = .ok (r.attempt new) ∧
          (r.attempt new).routes = insertRoute new r.routes) := by
  by_cases h : ∀ old ∈ r.routes, old.clashes new = false
  · right
    have hreg := register_of_fits h
    rw [attempt, hreg]
    exact ⟨h, rfl, rfl⟩
  · left
    simp only [not_forall, Bool.not_eq_false] at h
    obtain ⟨old, ho, hclash⟩ := h
    obtain ⟨f, hf⟩ := register_of_clash ho hclash
    rw [attempt, hf]
    exact ⟨⟨f, rfl⟩, rfl⟩

/-- A registration keeps a table in order. -/
theorem WellOrdered.attempt {r : Router m} (h : r.WellOrdered) (new : Route m) :
    (r.attempt new).WellOrdered := by
  rcases r.attempt_cases new with ⟨-, he⟩ | ⟨hfits, -, he⟩
  · rwa [he]
  · refine ⟨?_, ?_⟩
    · rw [he]
      exact pairwise_insertRoute h.sorted
    · rw [he, (insertRoute_perm new r.routes).pairwise_iff fun {a b} hab =>
        (b.clashes_comm a).trans hab]
      exact List.pairwise_cons.mpr
        ⟨fun old ho => (new.clashes_comm old).trans (hfits old ho), h.apart⟩

/-- Registrations keep a table in order. -/
theorem WellOrdered.run {r : Router m} (h : r.WellOrdered) (news : List (Route m)) :
    (r.run news).WellOrdered := by
  induction news generalizing r with
  | nil => exact h
  | cons new rest ih => exact ih (h.attempt new)

/-- Every route of a table was there or was registered. -/
theorem mem_run {r : Router m} {news : List (Route m)} {s : Route m} (h : s ∈ (r.run news).routes) :
    s ∈ r.routes ∨ s ∈ news := by
  induction news generalizing r with
  | nil => exact Or.inl h
  | cons new rest ih =>
    rcases ih h with h | h
    · rcases r.attempt_cases new with ⟨-, he⟩ | ⟨-, -, he⟩
      · exact Or.inl (he ▸ h)
      · rw [he, (insertRoute_perm new r.routes).mem_iff, List.mem_cons] at h
        rcases h with rfl | h
        · exact Or.inr List.mem_cons_self
        · exact Or.inl h
    · exact Or.inr (List.mem_cons_of_mem _ h)

/-- Registrations are all accepted exactly when their routes clash neither with one another nor with
the table. -/
theorem not_refuses_iff {r : Router m} {news : List (Route m)} :
    ¬r.Refuses news ↔ (∀ old ∈ r.routes, ∀ new ∈ news, old.clashes new = false) ∧
      news.Pairwise fun a b => a.clashes b = false := by
  induction news generalizing r with
  | nil => simp [Refuses]
  | cons new rest ih =>
    rw [Refuses, not_or, ih]
    rcases r.attempt_cases new with ⟨hrefused, he⟩ | ⟨hfits, hreg, he⟩
    · refine iff_of_false (fun h => h.1 hrefused) ?_
      rintro ⟨hold, -⟩
      obtain ⟨f, hf⟩ := hrefused
      rw [register_of_fits fun old ho => hold old ho new List.mem_cons_self] at hf
      cases hf
    · have haccepted : ¬∃ f, r.register new = .error f := by
        rintro ⟨f, hf⟩
        rw [hreg] at hf
        cases hf
      have hmem : ∀ old, old ∈ (r.attempt new).routes ↔ old = new ∨ old ∈ r.routes := fun old => by
        rw [he, (insertRoute_perm new r.routes).mem_iff, List.mem_cons]
      constructor
      · rintro ⟨-, hold, hrest⟩
        refine ⟨fun old ho s hs => ?_, List.pairwise_cons.mpr ⟨fun s hs => ?_, hrest⟩⟩
        · rcases List.mem_cons.mp hs with rfl | hs
          · exact hfits old ho
          · exact hold old ((hmem old).mpr (Or.inr ho)) s hs
        · exact hold new ((hmem new).mpr (Or.inl rfl)) s hs
      · rintro ⟨hold, hpair⟩
        obtain ⟨hfirst, hrest⟩ := List.pairwise_cons.mp hpair
        refine ⟨haccepted, fun old ho s hs => ?_, hrest⟩
        rcases (hmem old).mp ho with rfl | ho
        · exact hfirst s hs
        · exact hold old ho s (List.mem_cons_of_mem _ hs)

/-- When all registrations are accepted their routes join those of the table. -/
theorem perm_run {r : Router m} {news : List (Route m)} (h : ¬r.Refuses news) :
    (r.run news).routes.Perm (r.routes ++ news) := by
  induction news generalizing r with
  | nil =>
    rw [List.append_nil]
    exact List.Perm.refl _
  | cons new rest ih =>
    obtain ⟨hnew, hrest⟩ := not_or.mp h
    rcases r.attempt_cases new with ⟨hrefused, -⟩ | ⟨-, -, he⟩
    · exact absurd hrefused hnew
    · refine (ih hrest).trans ?_
      rw [he]
      exact ((insertRoute_perm new r.routes).append_right rest).trans List.perm_middle.symm

/-- Within a method a table has its routes in the only order that it can have. -/
theorem WellOrdered.filter_eq {r s : Router m} (hr : r.WellOrdered) (hs : s.WellOrdered)
    (h : r.routes.Perm s.routes) (method : Method) :
    r.routes.filter (fun route => route.schema.method = method) =
      s.routes.filter fun route => route.schema.method = method := by
  apply List.Perm.eq_of_pairwise ?_ (hr.sorted.filter _) (hs.sorted.filter _) (h.filter _)
  intro a b ha hb hab hba
  obtain ⟨ha, ham⟩ := List.mem_filter.mp ha
  obtain ⟨hb, hbm⟩ := List.mem_filter.mp hb
  have hkey : a.key = b.key := keyLe_antisymm hab hba
  have hmethod : a.schema.method = b.schema.method :=
    (of_decide_eq_true ham).trans (of_decide_eq_true hbm).symm
  exact hr.eq_of_clashes ha (h.mem_iff.mpr hb)
    (Route.clashes_of_template hmethod (congrArg (·.2.2) hkey))

/-- A path is looked up among the routes of one method. -/
theorem route?_eq (r : Router m) (method : Method) (path : String) :
    r.route? method path =
      (r.routes.filter fun route => route.schema.method = method).findSome? fun route =>
        (route.params? path).map fun params => (route, params) := by
  rw [route?]
  induction r.routes with
  | nil => rfl
  | cons route rest ih =>
    by_cases hm : route.schema.method = method
    · rw [List.filter_cons, if_pos (decide_eq_true hm), List.findSome?_cons, List.findSome?_cons,
        if_pos hm, ih]
    · rw [List.filter_cons, if_neg (by simpa using hm), List.findSome?_cons, if_neg hm, ih]

/-- The order of registrations does not matter: some registration is refused in one order exactly
when some is in the other one, and when none is, every path leads to the same route with the same
texts. -/
theorem lookup_run_perm {news others : List (Route m)} (h : news.Perm others)
    (v : Option (Verifier m)) (serializer : Serializer) :
    ((empty v serializer).Refuses news ↔ (empty v serializer).Refuses others) ∧
      (¬(empty v serializer).Refuses news → ∀ method path,
        ((empty v serializer).run news).lookup method path =
          ((empty v serializer).run others).lookup method path) := by
  have hrefuses : (empty v serializer).Refuses news ↔ (empty v serializer).Refuses others := by
    have hnone : ∀ news : List (Route m), ¬(empty v serializer).Refuses news ↔
        news.Pairwise fun a b => a.clashes b = false := fun news =>
      not_refuses_iff.trans (and_iff_right fun old ho => nomatch ho)
    rw [← not_iff_not, hnone, hnone, h.pairwise_iff fun {a b} hab => (b.clashes_comm a).trans hab]
  refine ⟨hrefuses, fun hn method path => ?_⟩
  have hperm : ((empty v serializer).run news).routes.Perm
      ((empty v serializer).run others).routes :=
    (perm_run hn).trans (h.trans (perm_run (mt hrefuses.mpr hn)).symm)
  have hempty := wellOrdered_empty v serializer
  have hroutes := (hempty.run news).filter_eq (hempty.run others) hperm method
  rw [lookup, lookup, route?_eq, route?_eq, hroutes]

end Router

end

/-- An endpoint for reading at a path, with no fields. -/
def plainSchema (path : String) : EndpointSchema :=
  ⟨.text "Read", .get, path, [], .plain .null, none, false, none⟩

/-- A route for an endpoint, with a function that answers nothing. -/
def silentRoute (e : EndpointSchema) : Route Id := ⟨e, .endpoint, fun _ _ => .ok (.value .null)⟩

/-- A literal segment and a hole in its place may be registered in either order. -/
theorem Router.lookup_run_swap :
    ¬(Router.empty none).Refuses
      [silentRoute (plainSchema "/users/:id"), silentRoute (plainSchema "/users/me")] ∧
      ∀ method path,
        ((Router.empty none).run
            [silentRoute (plainSchema "/users/:id"), silentRoute (plainSchema "/users/me")]).lookup
              method path =
          ((Router.empty none).run
            [silentRoute (plainSchema "/users/me"), silentRoute (plainSchema "/users/:id")]).lookup
              method path := by
  have hclash : (silentRoute (plainSchema "/users/:id")).clashes
      (silentRoute (plainSchema "/users/me")) = false := by decide +kernel
  have haccepted : ¬(Router.empty none).Refuses
      [silentRoute (plainSchema "/users/:id"), silentRoute (plainSchema "/users/me")] := by
    refine Router.not_refuses_iff.mpr ⟨(fun old ho => nomatch ho), ?_⟩
    simp [hclash]
  exact ⟨haccepted, (Router.lookup_run_perm (List.Perm.swap _ _ []) none .json).2 haccepted⟩

end RestContract
