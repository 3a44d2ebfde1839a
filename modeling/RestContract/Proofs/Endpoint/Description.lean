import RestContract.Proofs.Endpoint.Acceptance

/-!
# Described endpoints

What an endpoint is can be described apart from the form in which it is declared: it has a name, a
method, a path and parameters, each with a role, a type and possibly a default. A declaration that
realizes a description is accepted exactly when the description is sound, and it gives the endpoint
that was described, whatever stands as the types of its fields.
-/

namespace RestContract

/-- The type of a described parameter. -/
inductive DescribedType where
  | string
  | integer
  | float
  | boolean
  | date
  | dateOnly
  /-- One of some texts; a class of them has the given name. -/
  | enum (className : String) (texts : List String)
  /-- A payload; a field for it has the given shape. -/
  | payload (shape : Shape)

/-- The type of values of a described type. -/
def DescribedType.paramType : DescribedType → ParamType
  | .string => .string
  | .integer => .integer
  | .float => .float
  | .boolean => .boolean
  | .date => .date
  | .dateOnly => .dateOnly
  | .enum _ _ => .enum
  | .payload _ => .json

/-- A described parameter. -/
structure DescribedParameter where
  /-- The name of the parameter. -/
  name : String
  /-- Its role in a request. -/
  role : Role
  /-- Its name on the wire, if that is another one. -/
  wireName : Option String
  /-- The type of its values. -/
  type : DescribedType
  /-- Whether it may be left out. -/
  optional : Bool
  /-- Its default, if it has one; for a class of texts it is absent or one of the texts. -/
  fallback : Option Value

/-- A described endpoint outside every group. -/
structure EndpointDescription where
  /-- The name of the endpoint. -/
  name : String
  /-- Its method. -/
  method : String
  /-- Its path. -/
  path : String
  /-- Whether results are sent as events. -/
  streaming : Bool
  /-- Its parameters in order. -/
  parameters : List DescribedParameter

/-- Relations between the items of lists chain. -/
theorem forall₂_chain {α β γ : Type} {R : α → β → Prop} {S : β → γ → Prop} {T : α → γ → Prop}
    (hT : ∀ a b c, R a b → S b c → T a c) {as : List α} {bs : List β} {cs : List γ}
    (hR : List.Forall₂ R as bs) (hS : List.Forall₂ S bs cs) : List.Forall₂ T as cs := by
  induction hR generalizing cs with
  | nil =>
    cases hS
    exact .nil
  | cons hab _ ih =>
    cases hS with
    | cons hbc hrest => exact .cons (hT _ _ _ hab hbc) (ih hrest)

/-- A value as a text when it is a member of a class of texts. -/
def Value.raw : Value → Value
  | .member m => .text m.value
  | v => v

/-- Only the absent value is absent as a text. -/
@[simp] theorem Value.isNull_raw (v : Value) : v.raw.isNull = v.isNull := by cases v <;> rfl

namespace DescribedParameter

/-- The mark of a parameter. -/
def marker (p : DescribedParameter) : Marker :=
  match p.role with
  | .path => .path
  | .body => .body
  | .query => .query ((p.wireName.map Value.text).getD .null)

/-- The name of a parameter on the wire; an empty one is none. -/
def wire (p : DescribedParameter) : String :=
  match p.role with
  | .query => (p.wireName.filter fun w => !w.isEmpty).getD p.name
  | _ => p.name

/-- A parameter of a sound description, when it has the given default. -/
structure Accepts (fallback : Option Value) (p : DescribedParameter) : Prop where
  /-- Payloads stand in the body. -/
  payload : p.type.paramType = .json → p.role = .body
  /-- Outside the query it has no default but the absent one of what may be left out. -/
  fallback : p.role ≠ .query → ∀ v, fallback = some v → v.isNull = true ∧ p.optional = true

/-- The default that counts: an absent one means nothing where the parameter may be left out. -/
def effective (p : DescribedParameter) (fallback : Option Value) : Option Value :=
  (fallback.filter fun v => !(v.isNull && p.optional)).map Value.raw

/-- A field declares a parameter, with the given default. -/
structure Realizes (p : DescribedParameter) (fallback : Option Value) (f : FieldDeclaration) :
    Prop where
  /-- It has the name of the parameter. -/
  name : f.name = .text p.name
  /-- It has the mark of the parameter alone. -/
  markers : f.markers = [p.marker]
  /-- Its type says what the values are and whether they may be left out. -/
  type : ∃ v, FieldType.of f.type = .ok ⟨p.type.paramType, p.optional, v⟩
  /-- It has the default, as a text or as a member. -/
  fallback : f.fallback.map Value.raw = fallback.map Value.raw

/-- A parameter of an endpoint is the one that is described, with the given default. -/
structure Gives (p : DescribedParameter) (fallback : Option Value) (q : Parameter) : Prop where
  /-- It has the name of the description. -/
  name : q.name = .text p.name
  /-- It has its type; what stands in the body is a payload. -/
  type : q.type = if p.role = .body then .json else p.type.paramType
  /-- It has its role. -/
  role : q.role = p.role
  /-- It may be left out when that is described. -/
  optional : q.optional = p.optional
  /-- It has its name on the wire. -/
  wireName : q.wireName = .text p.wire
  /-- It has the default that counts. -/
  fallback : q.fallback.map Value.raw = p.effective fallback

variable {p : DescribedParameter} {fallback : Option Value} {f : FieldDeclaration}

/-- A field has the role of the parameter that it declares. -/
theorem Realizes.role (h : p.Realizes fallback f) : f.role = p.role := by
  rw [FieldDeclaration.role, FieldDeclaration.roles, h.markers, marker]
  cases p.role <;> rfl

/-- It has the name of that parameter on the wire. -/
theorem Realizes.wireName (h : p.Realizes fallback f) : f.wireName = .text p.wire := by
  rw [FieldDeclaration.wireName, FieldDeclaration.wireName?, h.markers, marker, wire, h.name]
  cases p.role with
  | path => rfl
  | body => rfl
  | query =>
    cases p.wireName with
    | none => rfl
    | some w =>
      by_cases hw : w.isEmpty = true <;> simp [Value.isTruthy, Option.filter, hw]

/-- Defaults are absent together when they are the same texts. -/
theorem isNull_of_raw {v w : Value} (h : v.raw = w.raw) : v.isNull = w.isNull := by
  rw [← Value.isNull_raw, h, Value.isNull_raw]

/-- A field that declares a parameter can be declared exactly when the description is sound. -/
theorem Realizes.wellFormed_iff (h : p.Realizes fallback f) :
    f.WellFormed ↔ p.Accepts fallback := by
  obtain ⟨shown, htype⟩ := h.type
  have hof : ∀ t, FieldType.of f.type = .ok t ↔ t = ⟨p.type.paramType, p.optional, shown⟩ :=
    fun t => by rw [htype, Except.ok.injEq, eq_comm]
  constructor
  · intro hf
    refine ⟨fun hjson => by_contra fun hbody => ?_, fun hquery v hv => ?_⟩
    · exact hf.scalar (h.role ▸ hbody) _ htype hjson
    · obtain ⟨w, hw, hraw⟩ : ∃ w, f.fallback = some w ∧ w.raw = v.raw :=
        Option.map_eq_some_iff.mp (by rw [h.fallback, hv, Option.map_some])
      obtain ⟨hnull, hoptional⟩ := hf.fallback (h.role ▸ hquery) w hw
      exact ⟨isNull_of_raw hraw ▸ hnull, hoptional _ htype⟩
  · intro hp
    refine ⟨?_, fun v s hv hs => ?_, fun hbody t ht => ?_, fun hquery v hv => ?_⟩
    · simp only [h.markers, List.mem_singleton]
      rintro a rfl b rfl r s hr hs
      exact Option.some.inj (hr.symm.trans hs)
    · rw [hv, FieldType.of] at htype
      simp only [hs] at htype
      split at htype
      next t ht => exact ⟨t, ht⟩
      next => cases htype
    · rw [(hof t).mp ht]
      exact fun hjson => hbody (h.role.trans (hp.payload hjson))
    · obtain ⟨w, hw, hraw⟩ : ∃ w, fallback = some w ∧ w.raw = v.raw :=
        Option.map_eq_some_iff.mp (by rw [← h.fallback, hv, Option.map_some])
      obtain ⟨hnull, hoptional⟩ := hp.fallback (h.role ▸ hquery) w hw
      exact ⟨isNull_of_raw hraw ▸ hnull, fun t ht => by rw [(hof t).mp ht, hoptional]⟩

/-- A field gives the parameter that it declares. -/
theorem Realizes.gives (h : p.Realizes fallback f) {q : Parameter} (hq : f.classify = .ok q) :
    p.Gives fallback q := by
  obtain ⟨shown, htype⟩ := h.type
  have hdeclares := FieldDeclaration.declares_of_classify hq
  unfold FieldDeclaration.classify at hq
  split at hq
  · cases hq
  obtain ⟨field, hfield, hq⟩ := Outcome.bind_eq_ok.mp hq
  obtain rfl := Except.ok.inj (htype.symm.trans hfield)
  obtain ⟨type, htypeIn, hq⟩ := Outcome.bind_eq_ok.mp hq
  obtain ⟨default, hdefault, hq⟩ := Outcome.bind_eq_ok.mp hq
  obtain rfl := Except.ok.inj hq
  change f.typeIn f.role p.type.paramType = .ok type at htypeIn
  change f.fallbackIn f.role p.optional = .ok default at hdefault
  refine ⟨h.name, ?_, h.role, rfl, h.wireName, ?_⟩
  · rw [h.role, FieldDeclaration.typeIn] at htypeIn
    split at htypeIn
    next hbody =>
      rw [if_pos hbody]
      exact (Except.ok.inj htypeIn).symm
    next hbody =>
      rw [if_neg hbody]
      split at htypeIn
      · cases htypeIn
      · exact (Except.ok.inj htypeIn).symm
  · have hraw := h.fallback
    rw [FieldDeclaration.fallbackIn] at hdefault
    cases hf : f.fallback with
    | none =>
      rw [hf] at hdefault hraw
      obtain rfl := Except.ok.inj hdefault
      obtain rfl := Option.map_eq_none_iff.mp hraw.symm
      rfl
    | some v =>
      rw [hf, Option.map_some] at hraw
      obtain ⟨w, rfl, hw⟩ := Option.map_eq_some_iff.mp hraw.symm
      simp only [hf] at hdefault
      rw [isNull_of_raw hw.symm] at hdefault
      by_cases habsent : (w.isNull && p.optional) = true
      · rw [if_pos habsent] at hdefault
        obtain rfl := Except.ok.inj hdefault
        simp [effective, Option.filter, habsent]
      · rw [if_neg habsent] at hdefault
        split at hdefault
        next =>
          obtain rfl := Except.ok.inj hdefault
          simp [effective, Option.filter, habsent, hw]
        next => cases hdefault

end DescribedParameter

namespace EndpointDescription

/-- A description that is sound, when its parameters have the given defaults. -/
structure Accepts (fallback : DescribedParameter → Option Value) (d : EndpointDescription) :
    Prop where
  /-- Its method is the name of one, in any letters. -/
  method : ∃ m, Method.ofName? (Text.upper d.method) = some m
  /-- Its parameters are sound on their own. -/
  parameters : ∀ p ∈ d.parameters, p.Accepts (fallback p)
  /-- It has one body at most. -/
  bodies : (d.parameters.filter fun p => p.role = .body).length ≤ 1
  /-- No two queries have one name on the wire. -/
  queries : (d.parameters.filter fun p => p.role = .query).Pairwise fun p q => p.wire ≠ q.wire
  /-- The holes of its path are its path parameters. -/
  holes : ∀ name, name ∈ Template.tokens d.path ↔
    ∃ p ∈ d.parameters, p.role = .path ∧ p.name = name

/-- A declaration declares an endpoint, whose parameters have the given defaults. -/
structure Realizes (d : EndpointDescription) (fallback : DescribedParameter → Option Value)
    (D : EndpointDeclaration) : Prop where
  /-- It has a text for its method, which names the same method. -/
  method : ∃ s, D.method = .text s ∧
    Method.ofName? (Text.upper s) = Method.ofName? (Text.upper d.method)
  /-- It has the path that is described. -/
  path : D.path = .text d.path
  /-- Its fields declare the parameters, one after the other. -/
  fields : List.Forall₂ (fun p f => p.Realizes (fallback p) f) d.parameters D.fields
  /-- It says whether results are sent as events. -/
  streaming : D.streaming = d.streaming
  /-- The holes of the path are compared with the path fields. -/
  checkPath : D.checkPath = true
  /-- The path is made from its template. -/
  resolver : D.resolver = none

/-- An endpoint is the one that is described, with the given defaults. -/
structure Gives (d : EndpointDescription) (fallback : DescribedParameter → Option Value)
    (e : EndpointSchema) : Prop where
  /-- It has the method of the description. -/
  method : Method.ofName? (Text.upper d.method) = some e.method
  /-- It has its path. -/
  ownPath : e.ownPath = .of d.path
  /-- It is outside every group. -/
  group : e.group = none
  /-- Its results are sent as events when that is described. -/
  streaming : e.streaming = d.streaming
  /-- Its parameters are those of the description, in order. -/
  parameters : List.Forall₂ (fun p q => p.Gives (fallback p) q) d.parameters e.parameters

variable {d : EndpointDescription} {fallback : DescribedParameter → Option Value}
  {D : EndpointDeclaration}

namespace Realizes

/-- The fields of a role are those of the parameters of that role. -/
theorem names_ofRole (h : d.Realizes fallback D) (role : Role) :
    ((D.fields.filter fun f => f.role = role).map fun f => (f.name, f.wireName)) =
      (d.parameters.filter fun p => p.role = role).map fun p => (.text p.name, .text p.wire) := by
  have hfields := h.fields
  generalize D.fields = fields at hfields
  generalize d.parameters = parameters at hfields
  induction hfields with
  | nil => rfl
  | @cons p f _ _ hp _ ih =>
    by_cases hr : p.role = role
    · rw [List.filter_cons_of_pos (by simp [hp.role, hr]), List.filter_cons_of_pos (by simp [hr]),
        List.map_cons, List.map_cons, ih, hp.name, hp.wireName]
    · rw [List.filter_cons_of_neg (by simp [hp.role, hr]), List.filter_cons_of_neg (by simp [hr]),
        ih]

/-- Its names are texts. -/
theorem isNamed (h : d.Realizes fallback D) : D.IsNamed := by
  constructor
  · intro f hf
    obtain ⟨p, -, hp⟩ := exists_mem_of_forall₂ h.fields hf
    exact ⟨p.name, by rw [hp.name]; rfl⟩
  · intro f hf name hname htruthy
    obtain ⟨p, -, hp⟩ := exists_mem_of_forall₂ h.fields hf
    rw [hp.markers, List.mem_singleton, DescribedParameter.marker] at hname
    split at hname
    · cases hname
    · cases hname
    · obtain rfl := Marker.query.inj hname
      cases hw : p.wireName with
      | none => simp [hw, Value.isTruthy] at htruthy
      | some w => exact ⟨w, by simp [Value.asText?]⟩

/-- No members stand in it. -/
theorem answers (h : d.Realizes fallback D) : D.Answers := by
  obtain ⟨s, hs, -⟩ := h.method
  refine ⟨fun m hm => ?_, fun m hm => ?_, fun f hf _ => ?_, fun _ _ f hf _ => ?_⟩
  · rw [hs] at hm
    cases hm
  · rw [h.path] at hm
    cases hm
  · obtain ⟨p, -, hp⟩ := exists_mem_of_forall₂ h.fields hf
    rw [hp.wireName]
    rfl
  · obtain ⟨p, -, hp⟩ := exists_mem_of_forall₂ h.fields hf
    rw [hp.name]
    rfl

/-- It can be declared exactly when the description is sound. -/
theorem wellFormed_iff (h : d.Realizes fallback D) : D.WellFormed ↔ d.Accepts fallback := by
  obtain ⟨s, hs, hmethod⟩ := h.method
  have hbodies : (D.fields.filter fun f => f.role = .body).length =
      (d.parameters.filter fun p => p.role = .body).length := by
    simpa using congrArg List.length (h.names_ofRole .body)
  have hqueries := congrArg (List.Pairwise fun a b => a.2.asText? ≠ b.2.asText?)
    (h.names_ofRole .query)
  rw [List.pairwise_map, List.pairwise_map] at hqueries
  simp only [Value.asText?, ne_eq, Option.some.injEq, eq_iff_iff] at hqueries
  have hholes : ∀ name, (∃ f ∈ D.fields, f.role = .path ∧ f.name.asText? = some name) ↔
      ∃ p ∈ d.parameters, p.role = .path ∧ p.name = name := by
    intro name
    constructor
    · rintro ⟨f, hf, hr, hname⟩
      obtain ⟨p, hp, hpf⟩ := exists_mem_of_forall₂ h.fields hf
      rw [hpf.name] at hname
      exact ⟨p, hp, hpf.role ▸ hr, Option.some.inj hname⟩
    · rintro ⟨p, hp, hr, rfl⟩
      obtain ⟨f, hf, hpf⟩ := exists_mem_of_forall₂ h.fields.flip hp
      exact ⟨f, hf, hpf.role.trans hr, by rw [hpf.name]; rfl⟩
  have htext : D.path.asText?.getD "" = d.path := by rw [h.path]; rfl
  constructor
  · intro hd
    refine ⟨?_, fun p hp => ?_, hbodies ▸ hd.bodies, hqueries.mp hd.queries, fun name => ?_⟩
    · obtain ⟨s', m, hs', hm⟩ := hd.method
      rw [hs] at hs'
      obtain rfl := Option.some.inj hs'
      exact ⟨m, hmethod ▸ hm⟩
    · obtain ⟨f, hf, hpf⟩ := exists_mem_of_forall₂ h.fields.flip hp
      exact hpf.wellFormed_iff.mp (hd.fields f hf)
    · rw [← hholes, ← hd.holes h.checkPath h.resolver, htext]
  · intro hd
    refine ⟨?_, fun _ => ⟨d.path, by rw [h.path]; rfl⟩, fun f hf => ?_, hbodies ▸ hd.bodies,
      hqueries.mpr hd.queries, fun _ _ name => ?_⟩
    · obtain ⟨m, hm⟩ := hd.method
      exact ⟨s, m, by rw [hs]; rfl, hmethod.trans hm⟩
    · obtain ⟨p, hp, hpf⟩ := exists_mem_of_forall₂ h.fields hf
      exact hpf.wellFormed_iff.mpr (hd.parameters p hp)
    · rw [htext, hholes, hd.holes]

/-- It is accepted exactly when the description is sound. -/
theorem accepts_iff (h : d.Realizes fallback D) :
    (∃ e, D.extract none = .ok e) ↔ d.Accepts fallback :=
  ((EndpointDeclaration.decides_extract h.isNamed h.answers none).exists_ok_iff).trans
    h.wellFormed_iff

/-- It gives the endpoint that is described. -/
theorem gives (h : d.Realizes fallback D) {e : EndpointSchema} (he : D.extract none = .ok e) :
    d.Gives fallback e := by
  obtain ⟨s, hs, hmethod⟩ := h.method
  obtain ⟨method, path, parameters, hm, hp, hclassify, -, -, -, rfl⟩ :=
    EndpointDeclaration.extract_eq_ok he
  refine ⟨?_, ?_, rfl, h.streaming, ?_⟩
  · rw [hs, Method.ofValue] at hm
    · simp only [Value.asText?, Option.bind_some] at hm
      split at hm
      next m hfound => rw [← hmethod, hfound, Except.ok.inj hm]
      next => cases hm
    · rintro _ ⟨⟩
  · rw [EndpointDeclaration.ownPath, h.path] at hp
    obtain ⟨truth, htruth, hp⟩ := Outcome.bind_eq_ok.mp hp
    obtain rfl := Except.ok.inj htruth
    by_cases hempty : d.path.isEmpty = true
    · have hpath : d.path = "" := by simpa using hempty
      simp only [Value.isTruthy, hempty, Bool.not_true, Bool.not_false, if_true] at hp
      rw [← Except.ok.inj hp, hpath]
    · simp only [Value.isTruthy, hempty, PathText.ofValue?] at hp
      rw [← Except.ok.inj hp]
      rfl
  · exact forall₂_chain (fun _ _ _ hpf hfq => hpf.gives hfq) h.fields
      (Outcome.forall₂_of_mapM hclassify)

end Realizes
end EndpointDescription

end RestContract
