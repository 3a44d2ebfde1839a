import RestContract.Proofs.Document.Entries
import RestContract.Proofs.Endpoint.Acceptance

/-!
# Flaws of a document

Most of what can be wrong with a document is looked for and refused as a declaration. Some flaws
are not: a section that is no map, texts of which no class can be made or whose class cannot be
asked for a default, a name on the wire that can be no key, several bodies of which one has no text
as its name, and path fields without an order. No document with such a flaw is accepted.
-/

namespace RestContract.EnumClass

end RestContract.EnumClass

namespace RestContract.Document

/-! ## Where something stands -/

/-- The parts of a document that are described by a map. -/
inductive Part where
  /-- The document itself. -/
  | document
  /-- A group. -/
  | group
  /-- An endpoint of a name. -/
  | endpoint (name : Value)

/-- The sections of a part. -/
def Part.sections : Part → List String
  | .document => ["groups", "endpoints"]
  | .group => ["endpoints"]
  | .endpoint _ => ["params"]

/-- An entry stands in a section. -/
def Lists (name : String) (fields : Values) (entry : Value × Value) : Prop :=
  ∃ w inner, under? name fields = some w ∧ w.opened = .map inner ∧ entry ∈ inner

/-- A part of a document is described by a map. -/
inductive Describes (v : Value) : Part → Values → Prop where
  /-- The document by the value itself. -/
  | document {fields : Values} : v.opened = .map fields → Describes v .document fields
  /-- A group by an entry of the groups. -/
  | group {entry : Value × Value} {outer fields : Values} : Describes v .document outer →
      Lists "groups" outer entry → entry.2.opened = .map fields → Describes v .group fields
  /-- An endpoint outside every group by an entry of the endpoints. -/
  | lone {entry : Value × Value} {outer fields : Values} : Describes v .document outer →
      Lists "endpoints" outer entry → entry.2.opened = .map fields →
      Describes v (.endpoint entry.1) fields
  /-- A member of a group by an entry of its endpoints. -/
  | member {entry : Value × Value} {outer fields : Values} : Describes v .group outer →
      Lists "endpoints" outer entry → entry.2.opened = .map fields →
      Describes v (.endpoint entry.1) fields

/-- The entries of a parameter; a text alone is the name of its type. -/
def entriesOf? (parameter : Value) : Option Values :=
  match parameter.opened with
  | .map fields => some fields
  | v => v.asText?.map fun _ => [(.text "type", v)]

/-- The role that entries give a parameter. -/
def roleText? (fields : Values) : Option String :=
  ((under? "role" fields).getD (.text "query")).asText?

/-- The name on the wire that entries give a parameter, absent unless they do. -/
def wireNameOf (fields : Values) : Value := (under? "name" fields).getD .null

/-- The names of the parameters in a role, in their order. -/
def namesIn (role : Role) (params : Values) : List Value :=
  (params.filter fun p => (entriesOf? p.2).bind roleText? = some role.name).map (·.1)

/-- The entries of a parameter say that it takes one of some texts. -/
def IsChoice (fields : Values) : Prop :=
  ∃ type typeName, under? "type" fields = some type ∧ type.asText? = some typeName ∧
    isEnumName typeName = true

/-- The path of an endpoint is checked against its path fields. -/
def ChecksPath (fields : Values) : Prop :=
  ((under? "check_path" fields).getD (.bool true)).isTruthy = true

/-- The text of the path of an endpoint. -/
def pathText (fields : Values) : String := (((under? "path" fields).bind (·.asText?)).getD "")

/-! ## Flaws -/

/-- A parameter was read from an entry: it has the name and the role of the entry, and the name on
the wire that it gives. -/
structure Reads (entry : Value × Value) (fields : Values) (p : Parameter) : Prop where
  /-- The entries of the parameter. -/
  entries : entriesOf? entry.2 = some fields
  /-- The name is the key. -/
  name : p.name = entry.1
  /-- The role is the one that is given. -/
  role : roleText? fields = some p.role.name
  /-- So is the name on the wire in the query, if one is given. -/
  wireName : p.wireName =
    if p.role = .query ∧ (wireNameOf fields).isTruthy = true then wireNameOf fields else entry.1

/-- A parameter is declared by its entries. -/
theorem fieldOf_eq (endpoint name parameter : Value) :
    fieldOf endpoint name parameter =
      match entriesOf? parameter with
      | some fields => fieldOfEntries endpoint name fields
      | none => .error (.refuse (.parameterShape endpoint name)) := by
  unfold fieldOf entriesOf?
  cases parameter.opened <;> rfl

/-- The mark of a role says it. -/
theorem markerOf_eq_ok {endpoint name : Value} {fields : Values} {m : Marker}
    (h : markerOf endpoint name ((under? "role" fields).getD (.text "query")) fields = .ok m) :
    ∃ role, m.role? = some role ∧ roleText? fields = some role.name ∧
      ∀ v, m = .query v → v = wireNameOf fields := by
  unfold markerOf at h
  split at h
  next hrole =>
    obtain rfl := Except.ok.inj h
    exact ⟨.path, rfl, hrole, by rintro _ ⟨⟩⟩
  next =>
    split at h
    next hrole =>
      obtain rfl := Except.ok.inj h
      exact ⟨.body, rfl, hrole, by rintro _ ⟨⟩⟩
    next =>
      split at h
      next hrole =>
        obtain rfl := Except.ok.inj h
        exact ⟨.query, rfl, hrole, by rintro _ ⟨⟩; rfl⟩
      next => cases h

/-- The declaration of a parameter: its name, and one mark, that of its role. -/
theorem fieldOfEntries_eq_ok {endpoint name : Value} {fields : Values} {f : FieldDeclaration}
    (h : fieldOfEntries endpoint name fields = .ok f) :
    f.name = name ∧ ∃ m, f.markers = [m] ∧
      markerOf endpoint name ((under? "role" fields).getD (.text "query")) fields = .ok m := by
  obtain ⟨m, hm, h⟩ := Outcome.bind_eq_ok.mp h
  split at h
  · cases h
  dsimp only at h
  split at h
  · split at h
    · obtain ⟨c, -, h⟩ := Outcome.bind_eq_ok.mp h
      obtain ⟨fallback, -, h⟩ := Outcome.bind_eq_ok.mp h
      obtain rfl := Except.ok.inj h
      exact ⟨rfl, m, rfl, hm⟩
    · obtain rfl := Except.ok.inj h
      exact ⟨rfl, m, rfl, hm⟩
  · obtain rfl := Except.ok.inj h
    exact ⟨rfl, m, rfl, hm⟩

/-- A classified parameter was read from its entry. -/
theorem reads_of_classify {endpoint : Value} {entry : Value × Value} {f : FieldDeclaration}
    {p : Parameter} (hf : fieldOf endpoint entry.1 entry.2 = .ok f) (hp : f.classify = .ok p) :
    ∃ fields, Reads entry fields p := by
  rw [fieldOf_eq] at hf
  cases hentries : entriesOf? entry.2 with
  | none =>
    rw [hentries] at hf
    cases hf
  | some fields =>
    rw [hentries] at hf
    obtain ⟨hname, m, hmarkers, hm⟩ := fieldOfEntries_eq_ok hf
    obtain ⟨role, hmark, hrole, hwire⟩ := markerOf_eq_ok hm
    have hdeclares := FieldDeclaration.declares_of_classify hp
    have hroles : f.role = role := by
      rw [FieldDeclaration.role, FieldDeclaration.roles, hmarkers]
      simp [hmark, List.eraseDups_cons]
    refine ⟨fields, hentries, hdeclares.name.trans hname, ?_, ?_⟩
    · rw [hdeclares.role, hroles, hrole]
    · rw [hdeclares.wireName, hdeclares.role, hroles, FieldDeclaration.wireName,
        FieldDeclaration.wireName?, hmarkers, hname]
      cases m with
      | query v =>
        obtain rfl := hwire v rfl
        obtain rfl := Option.some.inj hmark
        by_cases htruthy : (wireNameOf fields).isTruthy = true <;> simp [htruthy]
      | path =>
        obtain rfl := Option.some.inj hmark
        rfl
      | body =>
        obtain rfl := Option.some.inj hmark
        rfl
      | other => cases hmark

/-- Parameters were read from entries, one after the other. -/
def ReadAll (params : Values) (parameters : List Parameter) : Prop :=
  List.Forall₂ (fun entry p => ∃ fields, Reads entry fields p) params parameters

/-- Classified parameters were read from their entries. -/
theorem readAll_of_mapM {endpoint : Value} {params : Values} {declarations : List FieldDeclaration}
    {parameters : List Parameter}
    (hf : List.Forall₂ (fun p f => fieldOf endpoint p.1 p.2 = .ok f) params declarations)
    (hp : declarations.mapM (·.classify) = (.ok parameters : Outcome _)) :
    ReadAll params parameters := by
  have hclassified := Outcome.forall₂_of_mapM hp
  clear hp
  induction hf generalizing parameters with
  | nil =>
    cases hclassified
    exact .nil
  | cons hf _ ih =>
    cases hclassified with
    | cons hp hrest => exact .cons (reads_of_classify hf hp) (ih hrest)

/-- The names of the parameters in a role are those of the entries. -/
theorem ReadAll.names {params : Values} {parameters : List Parameter}
    (h : ReadAll params parameters) (role : Role) :
    (parameters.filter fun p => p.role = role).map (·.name) = namesIn role params := by
  have hinj : ∀ r s : Role, r.name = s.name ↔ r = s := by
    intro r s
    cases r <;> cases s <;> decide
  unfold namesIn
  induction h with
  | nil => rfl
  | @cons entry p params parameters hp _ ih =>
    obtain ⟨fields, hread⟩ := hp
    have hrole : ((entriesOf? entry.2).bind roleText? = some role.name) ↔ p.role = role := by
      rw [hread.entries, Option.bind_some, hread.role, Option.some.injEq, hinj]
    by_cases hp : p.role = role
    · rw [List.filter_cons_of_pos (by simpa using hp),
        List.filter_cons_of_pos (by simpa using hrole.mpr hp), List.map_cons, List.map_cons, ih,
        hread.name]
    · rw [List.filter_cons_of_neg (by simpa using hp),
        List.filter_cons_of_neg (by simpa using fun h => hp (hrole.mp h)), ih]

/-! ## Accepted documents have no flaws -/

/-- The declaration of an endpoint that is described by a map. -/
theorem endpointOf_eq_ok {name endpoint : Value} {fields : Values} {d : EndpointDeclaration}
    (hfields : endpoint.opened = .map fields) (h : endpointOf name endpoint = .ok d) :
    ∃ method params,
      under? "method" fields = some method ∧ section? "params" fields = .ok params ∧
      List.Forall₂ (fun p f => fieldOf name p.1 p.2 = .ok f) params d.fields ∧
      d = {
        name := name
        method := method
        path := (under? "path" fields).getD (.text "")
        fields := d.fields
        output := .plain ((under? "output" fields).getD .null)
        streaming := ((under? "stream" fields).getD (.bool false)).isTruthy
        checkPath := ((under? "check_path" fields).getD (.bool true)).isTruthy
        resolver := none } := by
  rw [endpointOf, hfields] at h
  dsimp only at h
  split at h
  · cases h
  next method hmethod =>
    obtain ⟨params, hparams, h⟩ := Outcome.bind_eq_ok.mp h
    obtain ⟨declared, hdeclared, h⟩ := Outcome.bind_eq_ok.mp h
    obtain rfl := Except.ok.inj h
    exact ⟨method, params, hmethod, hparams, Outcome.forall₂_of_mapM hdeclared, rfl⟩

/-- An endpoint that was read from a map passed all checks. -/
structure Passed (name : Value) (fields params : Values) (parameters : List Parameter) :
    Prop where
  /-- Its parameters stand in a section. -/
  part : section? "params" fields = .ok params
  /-- Each of them could be declared. -/
  declared : ∀ p ∈ params, ∃ f, fieldOf name p.1 p.2 = .ok f
  /-- And was read. -/
  read : ReadAll params parameters
  /-- There is one body at most. -/
  bodies : (namesIn .body params).length ≤ 1
  /-- Names on the wire can be keys. -/
  wireNames : ∀ p ∈ parameters, p.role = .query → p.wireName.isKey = true
  /-- The path fields without holes have an order. -/
  ordered : ChecksPath fields → ∃ least?, EndpointDeclaration.leastOf
    ((namesIn .path params).filter fun n => !(Template.tokens (pathText fields)).any fun t =>
      (Value.text t).sameKey n) = .ok least?

/-- An endpoint that was read passed all checks. -/
theorem EndpointFrom.passed {group : Option GroupHeader} {entry : Value × Value}
    {e : EndpointSchema} {fields : Values} (h : EndpointFrom group entry e)
    (hfields : entry.2.opened = .map fields) :
    ∃ params, Passed entry.1 fields params e.parameters := by
  obtain ⟨d, hd, he⟩ := h
  obtain ⟨method, params, -, hparams, hdeclared, hdecl⟩ := endpointOf_eq_ok hfields hd
  obtain ⟨_, path, parameters, -, hpath, hclassify, hbodies, hwires, hholes, rfl⟩ :=
    EndpointDeclaration.extract_eq_ok he
  have hread := readAll_of_mapM hdeclared hclassify
  refine ⟨params, hparams, fun p hp => ?_, hread, ?_, fun p hp hr => ?_, fun hchecks => ?_⟩
  · obtain ⟨f, -, hf⟩ := exists_mem_of_forall₂ hdeclared.flip hp
    exact ⟨f, hf⟩
  · rw [← hread.names]
    unfold EndpointDeclaration.checkBodies at hbodies
    dsimp only at hbodies
    split at hbodies
    next hlength => exact hlength
    next => split at hbodies <;> cases hbodies
  · exact EndpointDeclaration.isKey_of_checkWireNames hwires hp hr
  · have htext : path.text = pathText fields := by
      rw [EndpointDeclaration.text_ownPath hpath, hdecl, pathText]
      cases under? "path" fields <;> rfl
    have hchecked : (d.checkPath && d.resolver.isNone) = true := by
      rw [hdecl]
      exact Bool.and_eq_true_iff.mpr ⟨hchecks, rfl⟩
    have hall := hholes hchecked
    unfold EndpointDeclaration.checkHoles at hall
    dsimp only at hall
    split at hall
    · cases hall
    obtain ⟨least?, hleast, -⟩ := Outcome.bind_eq_ok.mp hall
    rw [hread.names, htext] at hleast
    simp only [List.any_map] at hleast
    exact ⟨least?, hleast⟩

/-- A part of an accepted document was read from the map that describes it. -/
def Part.Accepted (fields : Values) : Part → Prop
  | .document => ∃ groups endpoints, Document.section? "groups" fields = .ok groups ∧
      Document.section? "endpoints" fields = .ok endpoints
  | .group => ∃ entry g, entry.2.opened = .map fields ∧ GroupFrom entry g
  | .endpoint name => ∃ params parameters, Passed name fields params parameters

/-- An accepted part has a map in each of its sections, or nothing that counts as true. -/
theorem Part.Accepted.section? {part : Part} {fields : Values} (h : part.Accepted fields)
    {name : String} (hname : name ∈ part.sections) :
    ∃ inner, Document.section? name fields = .ok inner := by
  cases part with
  | document =>
    obtain ⟨groups, endpoints, hgroups, hendpoints⟩ := h
    simp only [Part.sections, List.mem_cons, List.not_mem_nil, or_false] at hname
    rcases hname with rfl | rfl
    · exact ⟨groups, hgroups⟩
    · exact ⟨endpoints, hendpoints⟩
  | group =>
    obtain ⟨entry, g, hentry, d, key, hd, hg⟩ := h
    obtain ⟨inside, inner, hinside, hinner, -⟩ := groupOf_eq_ok hd
    obtain rfl := Value.map.inj (hentry.symm.trans hinside)
    obtain rfl := List.mem_singleton.mp hname
    exact ⟨inner, hinner⟩
  | endpoint _ =>
    obtain ⟨params, parameters, hpassed⟩ := h
    obtain rfl := List.mem_singleton.mp hname
    exact ⟨params, hpassed.part⟩

end RestContract.Document
