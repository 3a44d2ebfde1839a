import RestContract.Endpoint.Extraction
import RestContract.Proofs.Keys

/-!
# What an accepted declaration gives

An endpoint is extracted only when every check passes, and then it is exactly what was
declared. Its path fields are the holes of its own path, and the base path of a group has
no holes. A group starts without members, and no two of them have the same name.
-/

namespace RestContract

/-- A step followed by another one succeeds exactly when both do. -/
theorem Outcome.bind_eq_ok {x : Outcome α} {f : α → Outcome β} {b : β} :
    (x >>= f) = .ok b ↔ ∃ a, x = .ok a ∧ f a = .ok b := by
  cases x with
  | error e => exact iff_of_false (fun h => nomatch h) (by rintro ⟨a, h, -⟩; cases h)
  | ok a =>
    constructor
    · exact fun h => ⟨a, rfl, h⟩
    · rintro ⟨_, h, hf⟩
      rwa [← Except.ok.inj h] at hf

/-- A step taken for every item succeeds only when it does for each of them. -/
theorem Outcome.forall₂_of_mapM {f : α → Outcome β} {as : List α} {bs : List β}
    (h : as.mapM f = .ok bs) : List.Forall₂ (fun a b => f a = .ok b) as bs := by
  induction as generalizing bs with
  | nil =>
    rw [List.mapM_nil] at h
    obtain rfl := Except.ok.inj h
    exact .nil
  | cons a rest ih =>
    rw [List.mapM_cons] at h
    obtain ⟨b, hb, h⟩ := Outcome.bind_eq_ok.mp h
    obtain ⟨others, ho, h⟩ := Outcome.bind_eq_ok.mp h
    obtain rfl := Except.ok.inj h
    exact .cons hb (ih ho)

/-- Every item of the second of two related lists is related to one of the first. -/
theorem exists_mem_of_forall₂ {R : α → β → Prop} {as : List α} {bs : List β}
    (h : List.Forall₂ R as bs) {b : β} (hb : b ∈ bs) : ∃ a ∈ as, R a b := by
  obtain ⟨i, hi, rfl⟩ := List.getElem_of_mem hb
  have hi' : i < as.length := h.length_eq ▸ hi
  exact ⟨_, List.getElem_mem hi', h.get hi' hi⟩

namespace EndpointDeclaration

variable {d : EndpointDeclaration} {group : Option GroupHeader} {e : EndpointSchema}

/-- The steps that an extraction took. -/
theorem extract_eq_ok (h : d.extract group = .ok e) :
    ∃ method path parameters, Method.ofValue d.method = .ok method ∧ d.ownPath = .ok path ∧
      d.fields.mapM (·.classify) = .ok parameters ∧ d.checkBodies parameters = .ok () ∧
      d.checkWireNames [] parameters = .ok () ∧
      ((d.checkPath && d.resolver.isNone) = true → d.checkHoles path parameters = .ok ()) ∧
      e = ⟨d.name, method, path, parameters, d.output, group, d.streaming, d.resolver⟩ := by
  obtain ⟨method, hm, h⟩ := Outcome.bind_eq_ok.mp h
  obtain ⟨path, hp, h⟩ := Outcome.bind_eq_ok.mp h
  obtain ⟨parameters, hf, h⟩ := Outcome.bind_eq_ok.mp h
  obtain ⟨_, hb, h⟩ := Outcome.bind_eq_ok.mp h
  obtain ⟨_, hw, h⟩ := Outcome.bind_eq_ok.mp h
  refine ⟨method, path, parameters, hm, hp, hf, hb, hw, ?_⟩
  by_cases hc : (d.checkPath && d.resolver.isNone) = true
  · rw [if_pos hc] at h
    obtain ⟨_, hh, h⟩ := Outcome.bind_eq_ok.mp h
    exact ⟨fun _ => hh, (Except.ok.inj h).symm⟩
  · rw [if_neg hc] at h
    exact ⟨fun hc' => absurd hc' hc, (Except.ok.inj h).symm⟩

private theorem leastOf_eq_none {values : List Value} (h : leastOf values = .ok none) :
    values = [] := by
  cases values with
  | nil => rfl
  | cons v rest =>
    rw [leastOf] at h
    cases hl : Value.leastFrom? v rest <;> simp [hl] at h

/-- Holes that pass the check are exactly the path fields. -/
theorem checkHoles_eq_ok {path : PathText} {parameters : List Parameter}
    (h : d.checkHoles path parameters = .ok ()) :
    (∀ p ∈ parameters, p.role = .path →
      ∃ name ∈ Template.tokens path.text, p.name.asText? = some name) ∧
      ∀ name ∈ Template.tokens path.text, ∃ p ∈ parameters, p.role = .path ∧
        p.name.asText? = some name := by
  unfold checkHoles at h
  dsimp only at h
  split at h
  · cases h
  obtain ⟨field?, hfield, h⟩ := Outcome.bind_eq_ok.mp h
  cases field? with
  | some field => cases h
  | none =>
    obtain ⟨hole?, hhole, h⟩ := Outcome.bind_eq_ok.mp h
    cases hole? with
    | some hole => cases h
    | none =>
      have hin := List.filter_eq_nil_iff.mp (leastOf_eq_none hfield)
      have hout := List.filter_eq_nil_iff.mp (leastOf_eq_none hhole)
      have hnamed : ∀ p ∈ parameters, p.role = .path →
          ∃ name ∈ Template.tokens path.text, p.name.asText? = some name := by
        intro p hp hr
        have hany := hin p.name (List.mem_map.mpr ⟨p, by simp [hp, hr], rfl⟩)
        simpa [Value.sameKey_text_iff] using hany
      refine ⟨hnamed, fun name hname => ?_⟩
      have hany := hout (.text name) (List.mem_map.mpr ⟨name, hname, rfl⟩)
      simp only [Bool.not_eq_true', Bool.not_eq_false, List.any_eq_true, List.mem_map,
        List.mem_filter,
        decide_eq_true_eq] at hany
      obtain ⟨-, ⟨p, ⟨hp, hr⟩, rfl⟩, hsame⟩ := hany
      obtain ⟨other, -, hother⟩ := hnamed p hp hr
      rw [Value.sameKey_of_asText? hother] at hsame
      exact ⟨p, hp, hr, hother.trans hsame.symm⟩

/-- A classified field keeps its name. -/
theorem name_of_classify {f : FieldDeclaration} {p : Parameter} (h : f.classify = .ok p) :
    p.name = f.name := by
  unfold FieldDeclaration.classify at h
  split at h
  · cases h
  · obtain ⟨field, -, h⟩ := Outcome.bind_eq_ok.mp h
    obtain ⟨type, -, h⟩ := Outcome.bind_eq_ok.mp h
    obtain ⟨fallback, -, h⟩ := Outcome.bind_eq_ok.mp h
    rw [← Except.ok.inj h]

/-- Classified fields keep their names in order. -/
theorem names_of_classify {fields : List FieldDeclaration} {parameters : List Parameter}
    (h : fields.mapM (·.classify) = .ok parameters) :
    parameters.map (·.name) = fields.map (·.name) := by
  have hfields := Outcome.forall₂_of_mapM h
  clear h
  induction hfields with
  | nil => rfl
  | cons hp _ ih => rw [List.map_cons, List.map_cons, name_of_classify hp, ih]

/-- Among parameters that pass the check there is one body at most. -/
theorem checkBodies_eq_ok {parameters : List Parameter} (h : d.checkBodies parameters = .ok ())
    {p q : Parameter} (hp : p ∈ parameters) (hpr : p.role = .body) (hq : q ∈ parameters)
    (hqr : q.role = .body) : p = q := by
  have hpm : p ∈ parameters.filter fun p => p.role = .body :=
    List.mem_filter.mpr ⟨hp, decide_eq_true hpr⟩
  have hqm : q ∈ parameters.filter fun p => p.role = .body :=
    List.mem_filter.mpr ⟨hq, decide_eq_true hqr⟩
  unfold checkBodies at h
  dsimp only at h
  rw [List.length_map] at h
  generalize parameters.filter _ = bodies at h hpm hqm
  split at h
  next hlength =>
    cases bodies with
    | nil => cases hpm
    | cons b rest =>
      obtain rfl : rest = [] := List.eq_nil_of_length_eq_zero (by simpa using hlength)
      rw [List.mem_singleton] at hpm hqm
      rw [hpm, hqm]
  next => split at h <;> cases h

/-- Wire names that pass the check are apart from one another and from those already seen. -/
theorem checkWireNames_eq_ok {parameters : List Parameter} {seen : List Value}
    (h : d.checkWireNames seen parameters = .ok ()) :
    (∀ p ∈ parameters, p.role = .query → ∀ name ∈ seen, name.sameKey p.wireName = false) ∧
      (parameters.filter fun p => p.role = .query).Pairwise fun p q =>
        p.wireName.sameKey q.wireName = false := by
  induction parameters generalizing seen with
  | nil => simp
  | cons p rest ih =>
    unfold checkWireNames at h
    by_cases hq : p.role = .query
    · rw [if_neg (not_not_intro hq)] at h
      split at h
      · cases h
      split at h
      · cases h
      next hfresh =>
        obtain ⟨hrest, hpair⟩ := ih h
        constructor
        · intro q hqm hqq name hname
          rcases List.mem_cons.mp hqm with rfl | hqm
          · simpa using fun hs => hfresh (List.any_eq_true.mpr ⟨name, hname, hs⟩)
          · exact hrest q hqm hqq name (List.mem_append_left _ hname)
        · rw [List.filter_cons_of_pos (by simp [hq])]
          refine List.pairwise_cons.mpr ⟨fun q hqm => ?_, hpair⟩
          obtain ⟨hqm, hqq⟩ := List.mem_filter.mp hqm
          exact hrest q hqm (of_decide_eq_true hqq) p.wireName (by simp)
    · rw [if_pos hq] at h
      obtain ⟨hrest, hpair⟩ := ih h
      constructor
      · intro q hqm hqq
        rcases List.mem_cons.mp hqm with rfl | hqm
        · exact absurd hqq hq
        · exact hrest q hqm hqq
      · rwa [List.filter_cons_of_neg (by simp [hq])]

end EndpointDeclaration

/-- What a group that could be started is: its base path has no holes, it requires what its
declaration says, it is known by the given key, and it has no members yet. -/
theorem GroupDeclaration.start_eq_ok {d : GroupDeclaration} {key : Nat} {g : GroupSchema}
    (h : d.start key = .ok g) :
    Template.tokens g.header.basePath.text = [] ∧ Auth.ofValue d.auth = .ok g.header.auth ∧
      g.header.key = key ∧ g.members = [] := by
  unfold start at h
  split at h
  · cases h
  · split at h
    · cases h
    · split at h
      · cases h
      next path _ hholes =>
        obtain ⟨auth, hauth, h⟩ := Outcome.bind_eq_ok.mp h
        rw [← Except.ok.inj h]
        exact ⟨by simpa using hholes, hauth, rfl, rfl⟩

/-- The base path of a group that could be started has no holes. -/
theorem GroupDeclaration.tokens_basePath {d : GroupDeclaration} {key : Nat} {g : GroupSchema}
    (h : d.start key = .ok g) : Template.tokens g.header.basePath.text = [] := (start_eq_ok h).1

/-- An endpoint that could be added has a new name and is the last member. -/
theorem GroupSchema.add_eq_ok {g g' : GroupSchema} {e : EndpointSchema} (h : g.add e = .ok g') :
    g.member? e.name = none ∧ g' = { g with members := g.members ++ [e] } := by
  unfold add at h
  split at h
  · cases h
  · split at h
    · cases h
    next hnew => exact ⟨by simpa using hnew, (Except.ok.inj h).symm⟩

end RestContract
