import RestContract.Proofs.Endpoint.Reading

/-!
# Which declarations are accepted

An extraction is a row of checks, each of which lets a declaration pass exactly under a condition
and otherwise refuses it with a fault of its own. Two checks in a row decide both conditions, and a
check of every field decides that all of them meet it. So a declaration is accepted exactly when it
is well-formed, and what is refused is refused as wrong arguments. The exceptions are members of
classes that cannot do what texts can, and faults whose words would need the text of a value that
has none.
-/

namespace RestContract

/-! ## Steps that decide a condition -/

/-- A step succeeds exactly under a condition, and otherwise refuses with one of some faults. -/
def Outcome.Decides (x : Outcome α) (P : Prop) (faults : DeclarationFault → Prop) : Prop :=
  (P ∧ ∃ a, x = .ok a) ∨ (¬P ∧ ∃ fault, faults fault ∧ x = .error (.refuse fault))

namespace Outcome

variable {x : Outcome α} {P Q : Prop} {faults others : DeclarationFault → Prop}

/-- A step that always succeeds decides what holds. -/
theorem decides_ok (hP : P) (a : α) : Decides (.ok a) P faults := Or.inl ⟨hP, a, rfl⟩

/-- A refusal decides what does not hold. -/
theorem decides_refuse (hP : ¬P) {fault : DeclarationFault} (hfault : faults fault) :
    Decides (.error (.refuse fault) : Outcome α) P faults := Or.inr ⟨hP, fault, hfault, rfl⟩

/-- Equivalent conditions are decided by the same steps. -/
theorem Decides.congr (h : x.Decides P faults) (hPQ : P ↔ Q) : x.Decides Q faults := by
  rwa [Decides, ← hPQ]

/-- A step may be said to refuse with more faults. -/
theorem Decides.mono (h : x.Decides P faults) (hsub : ∀ fault, faults fault → others fault) :
    x.Decides P others := by
  rcases h with hok | ⟨hP, fault, hfault, hx⟩
  · exact Or.inl hok
  · exact Or.inr ⟨hP, fault, hsub fault hfault, hx⟩

/-- A step followed by another one decides both conditions. -/
theorem Decides.bind {f : α → Outcome β} (hx : x.Decides P faults)
    (hf : ∀ a, x = .ok a → (f a).Decides Q faults) : (x >>= f).Decides (P ∧ Q) faults := by
  rcases hx with ⟨hP, a, rfl⟩ | ⟨hP, fault, hfault, rfl⟩
  · exact (hf a rfl).congr (and_iff_right hP).symm
  · exact decides_refuse (fun h => hP h.1) hfault

/-- A step taken for every item decides that each of them meets its condition. -/
theorem decides_mapM {f : α → Outcome β} {P : α → Prop} {items : List α}
    (h : ∀ a ∈ items, (f a).Decides (P a) faults) :
    Decides (items.mapM f) (∀ a ∈ items, P a) faults := by
  induction items with
  | nil => exact decides_ok nofun []
  | cons a rest ih =>
    have hrest := ih fun b hb => h b (List.mem_cons_of_mem _ hb)
    rw [List.mapM_cons]
    refine Decides.congr ((h a List.mem_cons_self).bind fun b _ => ?_) List.forall_mem_cons.symm
    exact Decides.congr (hrest.bind fun bs _ => decides_ok trivial _) (and_iff_left trivial)

/-- What a step decides is when it succeeds. -/
theorem Decides.exists_ok_iff (h : x.Decides P faults) : (∃ a, x = .ok a) ↔ P := by
  rcases h with ⟨hP, hok⟩ | ⟨hP, fault, -, rfl⟩
  · exact iff_of_true hok hP
  · exact iff_of_false (fun ⟨a, ha⟩ => nomatch ha) hP

end Outcome

open Outcome

/-! ## Fields -/

/-- A list of which nothing stands twice has one item at most when all items are the same. -/
theorem length_eraseDups_le_one_iff [DecidableEq α] {l : List α} :
    l.eraseDups.length ≤ 1 ↔ ∀ a ∈ l, ∀ b ∈ l, a = b := by
  cases l with
  | nil => simp
  | cons c cs =>
    have hnone : (cs.filter fun b => !b == c).eraseDups.length = 0 ↔ ∀ b ∈ cs, b = c := by
      rw [List.length_eq_zero_iff, List.eq_nil_iff_forall_not_mem]
      simp
    have hlength : ∀ n, n + 1 ≤ 1 ↔ n = 0 := fun n => by omega
    rw [List.eraseDups_cons, List.length_cons, hlength, hnone]
    constructor
    · intro h a ha b hb
      have hall : ∀ d ∈ c :: cs, d = c := List.forall_mem_cons.mpr ⟨rfl, h⟩
      rw [hall a ha, hall b hb]
    · intro h b hb
      exact h b (List.mem_cons_of_mem _ hb) c List.mem_cons_self

namespace FieldDeclaration

variable {f : FieldDeclaration}

/-- The role of a field, which without marks is in the query. -/
def role (f : FieldDeclaration) : Role := f.roles.headD .query

/-- The name of a field on the wire. -/
def wireName (f : FieldDeclaration) : Value := f.wireName?.getD f.name

/-- A field that can be declared on its own. -/
structure WellFormed (f : FieldDeclaration) : Prop where
  /-- No two marks give different roles. -/
  roles : ∀ a ∈ f.markers, ∀ b ∈ f.markers, ∀ r s, a.role? = some r → b.role? = some s → r = s
  /-- A text that stands as its type names a type. -/
  known : ∀ v s, f.type = .plain v → v.asText? = some s → ∃ t, FieldType.ofName? s = some t
  /-- Outside the body its values are sent as texts. -/
  scalar : f.role ≠ .body → ∀ t, FieldType.of f.type = .ok t → t.type ≠ .json
  /-- Outside the query it has no default but the absent value of a field that may be left out. -/
  fallback : f.role ≠ .query → ∀ v, f.fallback = some v →
    v.isNull = true ∧ ∀ t, FieldType.of f.type = .ok t → t.optional = true

/-- What a message says of a field has a text. -/
structure IsShown (f : FieldDeclaration) : Prop where
  /-- The name of the field. -/
  name : f.name.uninserted? = none
  /-- Its name on the wire. -/
  wireName : f.wireName.uninserted? = none
  /-- A value that stands as its type, plain and quoted. -/
  type : ∀ v, f.type = .plain v → v.uninserted? = none ∧ v.unquoted? = none

/-- A fault of arguments whose words can be said if what they show has a text. -/
def Faults (shown : Prop) (fault : DeclarationFault) : Prop :=
  fault.isShape = false ∧ (shown → fault.unsaid? = none)

/-- Words and values that have a text can be said. -/
theorem unsaid?_eq_none_iff {fault : DeclarationFault} :
    fault.unsaid? = none ↔ ∀ part ∈ fault.fragments, part.unshown? = none :=
  List.findSome?_eq_none_iff

/-- A type is found unless a text names none. -/
theorem decides_fieldType (f : FieldDeclaration) :
    (FieldType.of f.type).Decides
      (∀ v s, f.type = .plain v → v.asText? = some s → ∃ t, FieldType.ofName? s = some t)
      (Faults f.IsShown) := by
  cases htype : f.type with
  | shape s =>
    have hfound : ∃ t, FieldType.of (.shape s) = .ok t := by
      cases hnull : s.withoutNull? with
      | none => exact ⟨⟨s.paramType, false, .shape s⟩, by simp only [FieldType.of, hnull]⟩
      | some inner =>
        exact ⟨⟨inner.paramType, true, .shape inner⟩, by simp only [FieldType.of, hnull]⟩
    exact Or.inl ⟨by rintro _ _ ⟨⟩, hfound⟩
  | plain v =>
    cases htext : v.asText? with
    | none =>
      refine Or.inl ⟨?_, ⟨.json, false, .plain v⟩, by simp only [FieldType.of, htext]⟩
      rintro _ s ⟨⟩ hs
      cases htext.symm.trans hs
    | some s =>
      cases hname : FieldType.ofName? s with
      | some t =>
        refine Or.inl ⟨?_, t, by simp only [FieldType.of, htext, hname]⟩
        rintro _ u ⟨⟩ hu
        obtain rfl := Option.some.inj (htext.symm.trans hu)
        exact ⟨t, hname⟩
      | none =>
        refine Or.inr ⟨fun h => ?_, .unknownType v, ⟨rfl, fun hshown => ?_⟩,
          by simp only [FieldType.of, htext, hname]⟩
        · obtain ⟨t, ht⟩ := h v s rfl htext
          cases hname.symm.trans ht
        · exact unsaid?_eq_none_iff.mpr (by
            simp [DeclarationFault.fragments, Fragment.unshown?, (hshown.type v htype).1])

/-- Values that are not sent as texts are refused outside the body. -/
theorem decides_typeIn (f : FieldDeclaration) (role : Role) (t : ParamType) :
    (f.typeIn role t).Decides (role ≠ .body → t ≠ .json) (Faults f.IsShown) := by
  unfold typeIn
  by_cases hbody : role = .body
  · rw [if_pos hbody]
    exact decides_ok (fun h => absurd hbody h) _
  · rw [if_neg hbody]
    by_cases hjson : t = .json
    · rw [if_pos hjson]
      refine decides_refuse (fun h => h hbody hjson) ⟨rfl, fun hshown => ?_⟩
      have htype : (DeclarationFault.typeFragment f.type).unshown? = none := by
        cases htype : f.type with
        | shape s => rfl
        | plain v => exact (hshown.type v htype).2
      refine unsaid?_eq_none_iff.mpr ?_
      simp only [DeclarationFault.fragments, List.forall_mem_cons]
      exact ⟨rfl, hshown.name, rfl, rfl, rfl, htype, nofun⟩
    · rw [if_neg hjson]
      exact decides_ok (fun _ => hjson) _

/-- Defaults are refused outside the query, but for the absent one of what may be left out. -/
theorem decides_fallbackIn (f : FieldDeclaration) (role : Role) (optional : Bool) :
    (f.fallbackIn role optional).Decides
      (role ≠ .query → ∀ v, f.fallback = some v → v.isNull = true ∧ optional = true)
      (Faults f.IsShown) := by
  unfold fallbackIn
  cases f.fallback with
  | none => exact decides_ok nofun _
  | some v =>
    simp only [Option.some.injEq, forall_eq', ← Bool.and_eq_true]
    by_cases habsent : (v.isNull && optional) = true
    · rw [if_pos habsent]
      exact decides_ok (fun _ => habsent) _
    · rw [if_neg habsent]
      by_cases hquery : role = .query
      · rw [if_pos hquery]
        exact decides_ok (fun h => absurd hquery h) _
      · rw [if_neg hquery]
        refine decides_refuse (fun h => habsent (h hquery)) ⟨rfl, fun hshown => ?_⟩
        refine unsaid?_eq_none_iff.mpr ?_
        simp [DeclarationFault.fragments, Fragment.unshown?, hshown.name]

private theorem length_roles_le_one_iff :
    f.roles.length ≤ 1 ↔ ∀ a ∈ f.markers, ∀ b ∈ f.markers, ∀ r s,
      a.role? = some r → b.role? = some s → r = s := by
  rw [roles, length_eraseDups_le_one_iff]
  simp only [List.mem_filterMap]
  constructor
  · intro h a ha b hb r s hr hs
    exact h r ⟨a, ha, hr⟩ s ⟨b, hb, hs⟩
  · rintro h r ⟨a, ha, hr⟩ s ⟨b, hb, hs⟩
    exact h a ha b hb r s hr hs

/-- A field is classified exactly when it is well-formed. -/
theorem decides_classify (f : FieldDeclaration) :
    f.classify.Decides f.WellFormed (Faults f.IsShown) := by
  unfold classify
  by_cases hroles : f.roles.length ≤ 1
  · rw [if_neg (by omega)]
    -- The conditions of the steps in their order, the later ones for the type that was found.
    have hsteps := (decides_fieldType f).bind
      (f := fun field => f.typeIn f.role field.type >>= fun type =>
        f.fallbackIn f.role field.optional >>= fun fallback =>
          (.ok ⟨f.name, type, f.role, field.optional, f.wireName, fallback, field.valueType⟩ :
            Outcome Parameter))
      (Q := (f.role ≠ .body → ∀ t, FieldType.of f.type = .ok t → t.type ≠ .json) ∧
        (f.role ≠ .query → ∀ v, f.fallback = some v →
          v.isNull = true ∧ ∀ t, FieldType.of f.type = .ok t → t.optional = true))
      (fun field hfield => ?_)
    · refine Decides.congr hsteps ⟨fun h => ?_, fun h => ⟨h.known, h.scalar, h.fallback⟩⟩
      exact ⟨length_roles_le_one_iff.mp hroles, h.1, h.2.1, h.2.2⟩
    · simp only [hfield, Except.ok.injEq, forall_eq']
      refine (decides_typeIn f f.role field.type).bind fun type _ => ?_
      exact Decides.congr ((decides_fallbackIn f f.role field.optional).bind fun _ _ =>
        decides_ok trivial _) (and_iff_left trivial)
  · rw [if_pos (by omega)]
    refine decides_refuse (fun h => hroles (length_roles_le_one_iff.mpr h.roles))
      ⟨rfl, fun hshown => ?_⟩
    refine unsaid?_eq_none_iff.mpr ?_
    simp [DeclarationFault.fragments, Fragment.unshown?, hshown.name]

/-- What a parameter keeps of the field that declares it. -/
structure Declares (f : FieldDeclaration) (p : Parameter) : Prop where
  /-- The name. -/
  name : p.name = f.name
  /-- The role. -/
  role : p.role = f.role
  /-- The name on the wire, which differs from the name in the query only. -/
  wireName : p.wireName = f.wireName
  /-- Only there it may differ from the name. -/
  renamed : p.wireName ≠ p.name → p.role = .query
  /-- A payload stands in the body and nowhere else. -/
  payload : p.type = .json ↔ p.role = .body

/-- Only a mark of the query gives another name on the wire. -/
theorem role_of_wireName_ne (hroles : f.roles.length ≤ 1) (h : f.wireName ≠ f.name) :
    f.role = .query := by
  cases hname : f.wireName? with
  | none =>
    rw [wireName, hname] at h
    exact absurd rfl h
  | some v =>
    obtain ⟨m, hm, hmark⟩ := List.exists_of_findSome?_eq_some hname
    have hquery : m.role? = some .query := by
      cases m with
      | query name => rfl
      | path => cases hmark
      | body => cases hmark
      | other => cases hmark
    have hmem : Role.query ∈ f.roles :=
      List.mem_eraseDups.mpr (List.mem_filterMap.mpr ⟨m, hm, hquery⟩)
    unfold role
    cases hr : f.roles with
    | nil => rfl
    | cons r rest =>
      rw [hr] at hmem hroles
      obtain rfl : rest = [] := List.eq_nil_of_length_eq_zero (by simpa using hroles)
      exact (List.mem_singleton.mp hmem).symm

/-- A classified field declares its parameter. -/
theorem declares_of_classify {p : Parameter} (h : f.classify = .ok p) : f.Declares p := by
  unfold classify at h
  split at h
  · cases h
  next hroles =>
    obtain ⟨field, -, h⟩ := Outcome.bind_eq_ok.mp h
    obtain ⟨type, htype, h⟩ := Outcome.bind_eq_ok.mp h
    obtain ⟨fallback, -, h⟩ := Outcome.bind_eq_ok.mp h
    obtain rfl := Except.ok.inj h
    refine ⟨rfl, rfl, rfl, role_of_wireName_ne (by omega), ?_⟩
    change type = .json ↔ f.role = .body
    change f.typeIn f.role field.type = .ok type at htype
    unfold typeIn at htype
    by_cases hbody : f.role = .body
    · rw [if_pos hbody] at htype
      exact iff_of_true (Except.ok.inj htype).symm hbody
    · rw [if_neg hbody] at htype
      split at htype
      · cases htype
      next hjson =>
        rw [← Except.ok.inj htype]
        exact iff_of_false hjson hbody

end FieldDeclaration

/-! ## Least values -/

private theorem Value.relate?_of_asText? {a b : Value} {s t : String} (ha : a.asText? = some s)
    (hb : b.asText? = some t) : a.relate? b = some (.ofOrdering (compare s t)) := by
  have hcases : ∀ {v : Value} {s : String}, v.asText? = some s →
      v = .text s ∨ ∃ m, v = .member m ∧ m.value = s := by
    intro v s h
    cases v with
    | text other => exact Or.inl (congrArg _ (Option.some.inj h))
    | member m => exact Or.inr ⟨m, rfl, Option.some.inj h⟩
    | _ => cases h
  rcases hcases ha with rfl | ⟨m, rfl, rfl⟩ <;> rcases hcases hb with rfl | ⟨n, rfl, rfl⟩ <;> rfl

/-- Among values that are texts there is a least one, which is one of them. -/
theorem Value.leastFrom?_of_asText? {v : Value} {rest : List Value}
    (h : ∀ w ∈ v :: rest, ∃ s, w.asText? = some s) :
    ∃ least ∈ v :: rest, v.leastFrom? rest = some least := by
  induction rest generalizing v with
  | nil => exact ⟨v, List.mem_cons_self, rfl⟩
  | cons w rest ih =>
    obtain ⟨hv, hrest⟩ := List.forall_mem_cons.mp h
    obtain ⟨hw, hothers⟩ := List.forall_mem_cons.mp hrest
    obtain ⟨s, hs⟩ := hv
    obtain ⟨t, ht⟩ := hw
    have hwrest := ih (v := w) hrest
    have hvrest := ih (v := v) (List.forall_mem_cons.mpr ⟨⟨s, hs⟩, hothers⟩)
    rw [leastFrom?, Value.relate?_of_asText? ht hs]
    cases compare t s with
    | lt =>
      obtain ⟨least, hmem, hleast⟩ := hwrest
      exact ⟨least, List.mem_cons_of_mem _ hmem, hleast⟩
    | eq =>
      obtain ⟨least, hmem, hleast⟩ := hvrest
      exact ⟨least, (List.sublist_cons_self w rest).cons_cons v |>.mem hmem, hleast⟩
    | gt =>
      obtain ⟨least, hmem, hleast⟩ := hvrest
      exact ⟨least, (List.sublist_cons_self w rest).cons_cons v |>.mem hmem, hleast⟩

namespace EndpointDeclaration

variable {d : EndpointDeclaration}

/-- Refusing for the least of some texts, if there are any, decides that there are none. -/
theorem decides_leastOf {values : List Value} (fault : Value → DeclarationFault)
    {next : Outcome α} {Q : Prop} {faults : DeclarationFault → Prop}
    (ht : ∀ v ∈ values, ∃ s, v.asText? = some s)
    (hf : ∀ v ∈ values, faults (fault v)) (hnext : next.Decides Q faults) :
    Decides (leastOf values >>= fun least? =>
      match least? with
      | some least => .error (.refuse (fault least))
      | none => next) (values = [] ∧ Q) faults := by
  cases values with
  | nil => exact hnext.congr (and_iff_right rfl).symm
  | cons v rest =>
    obtain ⟨least, hmem, hleast⟩ := Value.leastFrom?_of_asText? ht
    rw [leastOf, hleast]
    exact decides_refuse (fun h => List.cons_ne_nil v rest h.1) (hf least hmem)

/-! ## Checks of the whole endpoint -/

/-- What the messages about an endpoint say has a text. -/
structure IsShown (d : EndpointDeclaration) : Prop where
  /-- The name of the endpoint. -/
  name : d.name.uninserted? = none
  /-- What stands as its method. -/
  method : d.method.unquoted? = none
  /-- What stands in its fields. -/
  fields : ∀ f ∈ d.fields, f.IsShown

/-- A fault of arguments whose words can be said if what they show of the endpoint has a text. -/
abbrev Faults (d : EndpointDeclaration) : DeclarationFault → Prop :=
  FieldDeclaration.Faults d.IsShown

/-- The names of fields and queries are texts; a mark of the query may have none. -/
structure IsNamed (d : EndpointDeclaration) : Prop where
  /-- The names of the fields. -/
  fields : ∀ f ∈ d.fields, ∃ s, f.name.asText? = some s
  /-- The names in marks of the query. -/
  queries : ∀ f ∈ d.fields, ∀ name, Marker.query name ∈ f.markers → name.isTruthy = true →
    ∃ s, name.asText? = some s

/-- Then names on the wire are texts too. -/
theorem IsNamed.wireName (h : d.IsNamed) {f : FieldDeclaration} (hf : f ∈ d.fields) :
    ∃ s, f.wireName.asText? = some s := by
  unfold FieldDeclaration.wireName
  cases hname : f.wireName? with
  | none => exact h.fields f hf
  | some v =>
    obtain ⟨m, hm, hmark⟩ := List.exists_of_findSome?_eq_some hname
    cases m with
    | query name =>
      simp only at hmark
      split at hmark
      next htruthy =>
        obtain rfl := Option.some.inj hmark
        exact h.queries f hf name hm htruthy
      next => cases hmark
    | path => cases hmark
    | body => cases hmark
    | other => cases hmark

/-- The members that stand in a declaration can do what texts can. -/
structure Answers (d : EndpointDeclaration) : Prop where
  /-- The method can be written in capitals. -/
  method : ∀ m, d.method = .member m → Ability.capitals ∉ m.lacks
  /-- The path counts as true or false. -/
  path : ∀ m, d.path = .member m → Ability.truth ∉ m.lacks
  /-- Names on the wire can be keys. -/
  queries : ∀ f ∈ d.fields, f.role = .query → f.wireName.isKey = true
  /-- So can the names of path fields, if they are compared with the holes. -/
  paths : d.checkPath = true → d.resolver = none → ∀ f ∈ d.fields, f.role = .path →
    f.name.isKey = true

/-- An endpoint that can be declared. -/
structure WellFormed (d : EndpointDeclaration) : Prop where
  /-- Its method is the name of one, in any letters. -/
  method : ∃ s m, d.method.asText? = some s ∧ Method.ofName? (Text.upper s) = some m
  /-- Its path counts as false or is a text. -/
  path : d.path.isTruthy = true → ∃ s, d.path.asText? = some s
  /-- Its fields can be declared on their own. -/
  fields : ∀ f ∈ d.fields, f.WellFormed
  /-- It has one body at most. -/
  bodies : (d.fields.filter fun f => f.role = .body).length ≤ 1
  /-- No two fields of the query have one name on the wire. -/
  queries : (d.fields.filter fun f => f.role = .query).Pairwise fun f g =>
    f.wireName.asText? ≠ g.wireName.asText?
  /-- The holes of its path are its path fields, unless that is not checked. -/
  holes : d.checkPath = true → d.resolver = none →
    ∀ name, name ∈ Template.tokens (d.path.asText?.getD "") ↔
      ∃ f ∈ d.fields, f.role = .path ∧ f.name.asText? = some name

/-- A method is found exactly where a text names one. -/
theorem decides_method (ha : d.Answers) : (Method.ofValue d.method).Decides
    (∃ s m, d.method.asText? = some s ∧ Method.ofName? (Text.upper s) = some m) d.Faults := by
  have hfaults : d.Faults (.unknownMethod d.method) := by
    refine ⟨rfl, fun hshown => FieldDeclaration.unsaid?_eq_none_iff.mpr ?_⟩
    simp only [DeclarationFault.fragments, List.forall_mem_cons]
    exact ⟨rfl, hshown.method, List.forall_mem_nil _⟩
  have hvalue : Method.ofValue d.method =
      (d.method.asText?.bind fun s => Method.ofName? (Text.upper s)).elim
        (.error (.refuse (.unknownMethod d.method))) .ok := by
    unfold Method.ofValue
    cases hm : d.method with
    | member m =>
      have hable : ¬m.lacks.contains .capitals = true := by simpa using ha.method m hm
      simp only [if_neg hable, Value.asText?, Option.bind_some]
      cases Method.ofName? (Text.upper m.value) <;> rfl
    | text s =>
      simp only [Value.asText?, Option.bind_some]
      cases Method.ofName? (Text.upper s) <;> rfl
    | _ => rfl
  rw [hvalue]
  cases hfound : d.method.asText?.bind fun s => Method.ofName? (Text.upper s) with
  | some method =>
    obtain ⟨s, hs, hname⟩ := Option.bind_eq_some_iff.mp hfound
    exact decides_ok ⟨s, method, hs, hname⟩ _
  | none =>
    refine decides_refuse ?_ hfaults
    rintro ⟨s, m, hs, hname⟩
    rw [hs, Option.bind_some, hname] at hfound
    cases hfound

/-- A path that counts as true has to be a text; the others are empty. -/
theorem decides_ownPath (ha : d.Answers) : d.ownPath.Decides
    (d.path.isTruthy = true → ∃ s, d.path.asText? = some s) d.Faults := by
  have htruth : d.path.truth = .ok d.path.isTruthy := by
    unfold Value.truth
    cases hp : d.path with
    | member m =>
      have hable : ¬m.lacks.contains .truth = true := by simpa using ha.path m hp
      simp only [if_neg hable]
    | _ => rfl
  have hown : d.ownPath = if !d.path.isTruthy then .ok ""
      else (PathText.ofValue? d.path).elim (.error (.refuse (.endpointPath d.name))) .ok := by
    unfold ownPath
    rw [htruth]
    change (if _ then _ else _) = _
    cases PathText.ofValue? d.path <;> rfl
  rw [hown]
  by_cases htruthy : d.path.isTruthy = true
  · rw [if_neg (by simp [htruthy])]
    cases htext : d.path.asText? with
    | some s =>
      rw [PathText.ofValue?, htext]
      exact decides_ok (fun _ => ⟨s, rfl⟩) _
    | none =>
      rw [PathText.ofValue?, htext]
      refine decides_refuse (fun h => by simpa using h htruthy) ⟨rfl, fun hshown => ?_⟩
      refine FieldDeclaration.unsaid?_eq_none_iff.mpr ?_
      simp only [DeclarationFault.fragments, List.forall_mem_cons]
      exact ⟨rfl, hshown.name, rfl, List.forall_mem_nil _⟩
  · rw [if_pos (by simp [htruthy])]
    exact decides_ok (fun h => absurd h htruthy) _

/-- The text of the path of an endpoint. -/
theorem text_ownPath {path : PathText} (h : d.ownPath = .ok path) :
    path.text = d.path.asText?.getD "" := by
  obtain ⟨b, htruth, h⟩ := Outcome.bind_eq_ok.mp h
  have hb : b = d.path.isTruthy := by
    unfold Value.truth at htruth
    split at htruth
    · split at htruth
      · cases htruth
      · exact (Except.ok.inj htruth).symm
    · exact (Except.ok.inj htruth).symm
  subst hb
  by_cases htruthy : d.path.isTruthy = true
  · rw [if_neg (by simp [htruthy])] at h
    cases htext : d.path.asText? with
    | some s =>
      rw [PathText.ofValue?, htext] at h
      rw [← Except.ok.inj h]
      rfl
    | none =>
      rw [PathText.ofValue?, htext] at h
      cases h
  · rw [if_pos (by simp [htruthy])] at h
    rw [← Except.ok.inj h]
    cases hp : d.path with
    | text s =>
      rw [hp] at htruthy
      have hempty : s = "" := by simpa [Value.isTruthy] using htruthy
      exact hempty.symm
    | member m =>
      rw [hp] at htruthy
      have hempty : m.value = "" := by simpa [Value.isTruthy] using htruthy
      exact hempty.symm
    | _ => rfl

section

variable {parameters : List Parameter}

/-- The names of the parameters of a role are those of the fields of that role. -/
theorem names_ofRole {fields : List FieldDeclaration}
    (h : List.Forall₂ FieldDeclaration.Declares fields parameters) (role : Role) :
    ((parameters.filter fun p => p.role = role).map fun p => (p.name, p.wireName)) =
      (fields.filter fun f => f.role = role).map fun f => (f.name, f.wireName) := by
  induction h with
  | nil => rfl
  | @cons f p _ _ hp _ ih =>
    by_cases hr : f.role = role
    · rw [List.filter_cons_of_pos (by simp [hp.role, hr]), List.filter_cons_of_pos (by simp [hr]),
        List.map_cons, List.map_cons, ih, hp.name, hp.wireName]
    · rw [List.filter_cons_of_neg (by simp [hp.role, hr]), List.filter_cons_of_neg (by simp [hr]),
        ih]

/-- Several bodies are refused. -/
theorem decides_checkBodies (hn : d.IsNamed)
    (h : List.Forall₂ FieldDeclaration.Declares d.fields parameters) :
    (d.checkBodies parameters).Decides ((d.fields.filter fun f => f.role = .body).length ≤ 1)
      d.Faults := by
  have hnames : ((parameters.filter fun p => p.role = .body).map fun p => p.name) =
      (d.fields.filter fun f => f.role = .body).map fun f => f.name := by
    have hfst := congrArg (List.map Prod.fst) (names_ofRole h .body)
    rwa [List.map_map, List.map_map] at hfst
  unfold checkBodies
  dsimp only
  rw [hnames, List.length_map]
  by_cases hone : (d.fields.filter fun f => f.role = .body).length ≤ 1
  · rw [if_pos hone]
    exact decides_ok hone _
  · rw [if_neg hone]
    obtain ⟨names, hnames⟩ : ∃ names, ((d.fields.filter fun f => f.role = .body).map
        fun f => f.name).mapM (·.asText?) = some names := by
      have htexts : ∀ v ∈ (d.fields.filter fun f => f.role = .body).map fun f => f.name,
          ∃ s, v.asText? = some s := by
        intro v hv
        obtain ⟨f, hf, rfl⟩ := List.mem_map.mp hv
        exact hn.fields f (List.mem_filter.mp hf).1
      generalize (d.fields.filter fun f => f.role = .body).map (fun f => f.name) = values at htexts
      induction values with
      | nil => exact ⟨[], rfl⟩
      | cons v rest ih =>
        obtain ⟨⟨s, hs⟩, hrest⟩ := List.forall_mem_cons.mp htexts
        obtain ⟨texts, ht⟩ := ih hrest
        exact ⟨s :: texts, by rw [List.mapM_cons, hs, ht]; rfl⟩
    rw [hnames]
    refine decides_refuse hone ⟨rfl, fun hshown => FieldDeclaration.unsaid?_eq_none_iff.mpr ?_⟩
    simp only [DeclarationFault.fragments, List.forall_mem_cons]
    exact ⟨rfl, hshown.name, rfl, rfl, List.forall_mem_nil _⟩

/-- A name on the wire that is taken is refused. -/
theorem decides_checkWireNames
    (hk : ∀ p ∈ parameters, p.role = .query → p.wireName.isKey = true)
    (ht : ∀ p ∈ parameters, ∃ s, p.wireName.asText? = some s)
    (hs : d.IsShown → ∀ p ∈ parameters, p.wireName.uninserted? = none) (seen : List Value) :
    (d.checkWireNames seen parameters).Decides
      ((∀ p ∈ parameters, p.role = .query → ∀ name ∈ seen, name.asText? ≠ p.wireName.asText?) ∧
        (parameters.filter fun p => p.role = .query).Pairwise fun p q =>
          p.wireName.asText? ≠ q.wireName.asText?) d.Faults := by
  induction parameters generalizing seen with
  | nil => exact decides_ok ⟨List.forall_mem_nil _, .nil⟩ _
  | cons p rest ih =>
    obtain ⟨hkp, hkrest⟩ := List.forall_mem_cons.mp hk
    obtain ⟨⟨s, hsp⟩, htrest⟩ := List.forall_mem_cons.mp ht
    have hrest := ih hkrest htrest fun hshown => (List.forall_mem_cons.mp (hs hshown)).2
    unfold checkWireNames
    by_cases hq : p.role = .query
    · rw [if_neg (not_not_intro hq), if_neg (by simp [hkp hq])]
      have hsame : ∀ name : Value, name.sameKey p.wireName = true ↔
          name.asText? = p.wireName.asText? := by
        intro name
        rw [Value.sameKey_comm, Value.sameKey_of_asText? hsp, hsp]
      by_cases htaken : (seen.any fun name => name.sameKey p.wireName) = true
      · rw [if_pos htaken]
        obtain ⟨name, hname, heq⟩ := List.any_eq_true.mp htaken
        refine decides_refuse
          (fun h => h.1 p List.mem_cons_self hq name hname ((hsame name).mp heq))
          ⟨rfl, fun hshown => FieldDeclaration.unsaid?_eq_none_iff.mpr ?_⟩
        simp only [DeclarationFault.fragments, List.forall_mem_cons]
        exact ⟨rfl, hs hshown p List.mem_cons_self, rfl, hshown.name, List.forall_mem_nil _⟩
      · rw [if_neg htaken]
        have hfresh : ∀ name ∈ seen, name.asText? ≠ p.wireName.asText? := fun name hname heq =>
          htaken (List.any_eq_true.mpr ⟨name, hname, (hsame name).mpr heq⟩)
        refine (hrest (seen ++ [p.wireName])).congr ?_
        rw [List.filter_cons_of_pos (by simp [hq]), List.pairwise_cons]
        constructor
        · rintro ⟨hnew, hpair⟩
          refine ⟨List.forall_mem_cons.mpr ⟨fun _ => hfresh, fun q hqm hqq name hname => ?_⟩,
            fun q hqm => ?_, hpair⟩
          · exact hnew q hqm hqq name (List.mem_append_left _ hname)
          · obtain ⟨hqm, hqq⟩ := List.mem_filter.mp hqm
            exact hnew q hqm (of_decide_eq_true hqq) p.wireName (by simp)
        · rintro ⟨hnew, hfirst, hpair⟩
          refine ⟨fun q hqm hqq name hname => ?_, hpair⟩
          rcases List.mem_append.mp hname with hname | hname
          · exact hnew q (List.mem_cons_of_mem _ hqm) hqq name hname
          · rw [List.mem_singleton.mp hname]
            exact hfirst q (List.mem_filter.mpr ⟨hqm, decide_eq_true hqq⟩)
    · rw [if_pos hq]
      refine (hrest seen).congr ?_
      rw [List.filter_cons_of_neg (by simp [hq]), List.forall_mem_cons]
      exact and_congr_left fun _ => (and_iff_right fun h => absurd h hq).symm

private theorem filter_missing_eq_nil_iff {names : List String} {fields : List Value} :
    (fields.filter fun f => !(names.map Value.text).any fun h => h.sameKey f) = [] ↔
      ∀ f ∈ fields, ∃ name ∈ names, f.asText? = some name := by
  simp [List.filter_eq_nil_iff, Value.sameKey_text_iff]

private theorem filter_unbound_eq_nil_iff {names : List String} {fields : List Value} :
    ((names.map Value.text).filter fun h => !fields.any fun f => f.sameKey h) = [] ↔
      ∀ name ∈ names, ∃ f ∈ fields, f.asText? = some name := by
  have hsame : ∀ (f : Value) (name : String), f.sameKey (.text name) = true ↔
      f.asText? = some name := fun f name => by
    rw [Value.sameKey_comm, Value.sameKey_text_iff]
  simp [List.filter_eq_nil_iff, hsame]

/-- Path fields without holes and holes without path fields are refused. -/
theorem decides_checkHoles (path : PathText)
    (hk : ∀ p ∈ parameters, p.role = .path → p.name.isKey = true)
    (ht : ∀ p ∈ parameters, ∃ s, p.name.asText? = some s)
    (hs : d.IsShown → ∀ p ∈ parameters, p.name.uninserted? = none) :
    (d.checkHoles path parameters).Decides
      (∀ name, name ∈ Template.tokens path.text ↔
        ∃ p ∈ parameters, p.role = .path ∧ p.name.asText? = some name) d.Faults := by
  have hfields : ∀ v, v ∈ (parameters.filter fun p => p.role = .path).map (·.name) ↔
      ∃ p ∈ parameters, p.role = .path ∧ p.name = v := by
    intro v
    simp only [List.mem_map, List.mem_filter, decide_eq_true_eq, and_assoc]
  unfold checkHoles
  dsimp only
  generalize (parameters.filter fun p => p.role = .path).map (·.name) = fields at hfields
  have hof : ∀ v ∈ fields, v.isKey = true ∧ (∃ s, v.asText? = some s) ∧
      (d.IsShown → v.uninserted? = none) := by
    intro v hv
    obtain ⟨p, hp, hr, rfl⟩ := (hfields v).mp hv
    exact ⟨hk p hp hr, ht p hp, fun hshown => hs hshown p hp⟩
  have hkeys : fields.all Value.isKey = true := List.all_eq_true.mpr fun v hv => (hof v hv).1
  have hunbound : ∀ w ∈ (Template.tokens path.text).map Value.text, ∃ name, w = .text name := by
    intro w hw
    obtain ⟨name, -, rfl⟩ := List.mem_map.mp hw
    exact ⟨name, rfl⟩
  rw [hkeys, if_neg (by simp)]
  refine Decides.congr (decides_leastOf (fun field => .fieldWithoutHole field d.name path.shown)
    ?_ ?_ (decides_leastOf (fun hole => .holeWithoutField path.shown d.name hole.plain) ?_ ?_
      (decides_ok trivial ()))) ?_
  · exact fun v hv => (hof v (List.mem_filter.mp hv).1).2.1
  · refine fun v hv => ⟨rfl, fun hshown => FieldDeclaration.unsaid?_eq_none_iff.mpr ?_⟩
    simp only [DeclarationFault.fragments, List.forall_mem_cons]
    exact ⟨rfl, (hof v (List.mem_filter.mp hv).1).2.2 hshown, rfl, hshown.name, rfl, rfl, rfl,
      List.forall_mem_nil _⟩
  · intro w hw
    obtain ⟨name, rfl⟩ := hunbound w (List.mem_filter.mp hw).1
    exact ⟨name, rfl⟩
  · refine fun w hw => ⟨rfl, fun hshown => FieldDeclaration.unsaid?_eq_none_iff.mpr ?_⟩
    simp only [DeclarationFault.fragments, List.forall_mem_cons]
    exact ⟨rfl, rfl, rfl, hshown.name, rfl, rfl, rfl, List.forall_mem_nil _⟩
  · rw [filter_missing_eq_nil_iff, filter_unbound_eq_nil_iff, and_iff_left trivial]
    constructor
    · rintro ⟨hin, hout⟩ name
      constructor
      · intro hname
        obtain ⟨v, hv, hvname⟩ := hout name hname
        obtain ⟨p, hp, hr, rfl⟩ := (hfields v).mp hv
        exact ⟨p, hp, hr, hvname⟩
      · rintro ⟨p, hp, hr, hpname⟩
        obtain ⟨other, hother, hpother⟩ := hin p.name ((hfields _).mpr ⟨p, hp, hr, rfl⟩)
        rwa [Option.some.inj (hpname.symm.trans hpother)]
    · refine fun h => ⟨fun v hv => ?_, fun name hname => ?_⟩
      · obtain ⟨p, hp, hr, rfl⟩ := (hfields v).mp hv
        obtain ⟨s, hs⟩ := ht p hp
        exact ⟨s, (h s).mpr ⟨p, hp, hr, hs⟩, hs⟩
      · obtain ⟨p, hp, hr, hpname⟩ := (h name).mp hname
        exact ⟨p.name, (hfields _).mpr ⟨p, hp, hr, rfl⟩, hpname⟩

/-- The conditions on parameters are those on the fields that declare them. -/
theorem exists_ofRole_iff {fields : List FieldDeclaration}
    (h : List.Forall₂ FieldDeclaration.Declares fields parameters) {role : Role} {name : String} :
    (∃ p ∈ parameters, p.role = role ∧ p.name.asText? = some name) ↔
      ∃ f ∈ fields, f.role = role ∧ f.name.asText? = some name := by
  constructor
  · rintro ⟨p, hp, hr, hname⟩
    obtain ⟨f, hf, hdeclares⟩ := exists_mem_of_forall₂ h hp
    exact ⟨f, hf, hdeclares.role.symm.trans hr, hdeclares.name ▸ hname⟩
  · rintro ⟨f, hf, hr, hname⟩
    obtain ⟨p, hp, hdeclares⟩ := exists_mem_of_forall₂ h.flip hf
    exact ⟨p, hp, hdeclares.role.trans hr, hdeclares.name.symm ▸ hname⟩

end

/-- The checks of the whole endpoint decide that there is one body at most, that no name on the wire
stands twice, and that the holes are the path fields. -/
theorem decides_checks (hn : d.IsNamed) (ha : d.Answers) (method : Method) {path : PathText}
    {parameters : List Parameter} (hpath : d.ownPath = .ok path)
    (h : List.Forall₂ FieldDeclaration.Declares d.fields parameters) (group : Option GroupHeader) :
    Decides (do
        d.checkBodies parameters
        d.checkWireNames [] parameters
        if d.checkPath && d.resolver.isNone then d.checkHoles path parameters
        pure (⟨d.name, method, path, parameters, d.output, group, d.streaming, d.resolver⟩ :
          EndpointSchema))
      ((d.fields.filter fun f => f.role = .body).length ≤ 1 ∧
        ((d.fields.filter fun f => f.role = .query).Pairwise fun f g =>
          f.wireName.asText? ≠ g.wireName.asText?) ∧
        (d.checkPath = true → d.resolver = none →
          ∀ name, name ∈ Template.tokens (d.path.asText?.getD "") ↔
            ∃ f ∈ d.fields, f.role = .path ∧ f.name.asText? = some name)) d.Faults := by
  have hof : ∀ p ∈ parameters, ∃ f ∈ d.fields, f.Declares p := fun p hp =>
    exists_mem_of_forall₂ h hp
  have hqueries : (d.checkWireNames [] parameters).Decides
      ((d.fields.filter fun f => f.role = .query).Pairwise fun f g =>
        f.wireName.asText? ≠ g.wireName.asText?) d.Faults := by
    refine Decides.congr (decides_checkWireNames ?_ ?_ ?_ []) ?_
    · intro p hp hr
      obtain ⟨f, hf, hdeclares⟩ := hof p hp
      rw [hdeclares.wireName]
      exact ha.queries f hf (hdeclares.role.symm.trans hr)
    · intro p hp
      obtain ⟨f, hf, hdeclares⟩ := hof p hp
      rw [hdeclares.wireName]
      exact hn.wireName hf
    · intro hshown p hp
      obtain ⟨f, hf, hdeclares⟩ := hof p hp
      rw [hdeclares.wireName]
      exact (hshown.fields f hf).wireName
    · have hmapped := congrArg (List.Pairwise fun a b => a.2.asText? ≠ b.2.asText?)
        (names_ofRole h .query)
      rw [List.pairwise_map, List.pairwise_map] at hmapped
      rw [← hmapped]
      exact and_iff_right fun _ _ _ _ hname => nomatch hname
  refine (decides_checkBodies hn h).bind fun _ _ => hqueries.bind fun _ _ => ?_
  by_cases hc : (d.checkPath && d.resolver.isNone) = true
  · have hcheck : d.checkPath = true := (Bool.and_eq_true_iff.mp hc).1
    have hres : d.resolver = none := Option.isNone_iff_eq_none.mp (Bool.and_eq_true_iff.mp hc).2
    have hkeys : ∀ p ∈ parameters, p.role = .path → p.name.isKey = true := by
      intro p hp hr
      obtain ⟨f, hf, hdeclares⟩ := hof p hp
      rw [hdeclares.name]
      exact ha.paths hcheck hres f hf (hdeclares.role.symm.trans hr)
    have htexts : ∀ p ∈ parameters, ∃ s, p.name.asText? = some s := by
      intro p hp
      obtain ⟨f, hf, hdeclares⟩ := hof p hp
      rw [hdeclares.name]
      exact hn.fields f hf
    have hsaid : d.IsShown → ∀ p ∈ parameters, p.name.uninserted? = none := by
      intro hshown p hp
      obtain ⟨f, hf, hdeclares⟩ := hof p hp
      rw [hdeclares.name]
      exact (hshown.fields f hf).name
    have hholes := decides_checkHoles path hkeys htexts hsaid
    simp only [text_ownPath hpath, exists_ofRole_iff h] at hholes
    rw [if_pos hc]
    refine Decides.congr (hholes.bind fun _ _ => decides_ok trivial _) ?_
    rw [and_iff_left trivial]
    exact ⟨fun hsame _ _ => hsame, fun hsame => hsame hcheck hres⟩
  · rw [if_neg hc]
    refine decides_ok (fun hcheck hres => absurd ?_ hc) _
    rw [hcheck, hres]
    rfl

variable {group : Option GroupHeader} {e : EndpointSchema}

/-- Where members can do what texts can, an endpoint is extracted exactly when it is well-formed,
and otherwise refused. -/
theorem decides_extract (hn : d.IsNamed) (ha : d.Answers) (group : Option GroupHeader) :
    (d.extract group).Decides d.WellFormed d.Faults := by
  have hfields : Decides (d.fields.mapM (·.classify)) (∀ f ∈ d.fields, f.WellFormed) d.Faults :=
    decides_mapM fun f hf => f.decides_classify.mono fun fault hfault =>
      ⟨hfault.1, fun hshown => hfault.2 (hshown.fields f hf)⟩
  have hdeclares : ∀ parameters, d.fields.mapM (·.classify) = .ok parameters →
      List.Forall₂ FieldDeclaration.Declares d.fields parameters := fun parameters h =>
    (Outcome.forall₂_of_mapM h).imp fun _ _ => FieldDeclaration.declares_of_classify
  have hall := (decides_method ha).bind fun method _ => (decides_ownPath ha).bind fun path hpath =>
    hfields.bind fun parameters hclassify =>
      decides_checks hn ha method hpath (hdeclares parameters hclassify) group
  refine Decides.congr hall ⟨?_, ?_⟩
  · rintro ⟨hmethod, hpath, hfields, hbodies, hqueries, hholes⟩
    exact ⟨hmethod, hpath, hfields, hbodies, hqueries, hholes⟩
  · intro h
    exact ⟨h.method, h.path, h.fields, h.bodies, h.queries, h.holes⟩

/-- Names on the wire that pass the check can be keys. -/
theorem isKey_of_checkWireNames {parameters : List Parameter} {seen : List Value}
    (h : d.checkWireNames seen parameters = .ok ()) {p : Parameter} (hp : p ∈ parameters)
    (hr : p.role = .query) : p.wireName.isKey = true := by
  induction parameters generalizing seen with
  | nil => cases hp
  | cons q rest ih =>
    unfold checkWireNames at h
    by_cases hq : q.role = .query
    · rw [if_neg (not_not_intro hq)] at h
      split at h
      · cases h
      next hkey =>
        split at h
        · cases h
        · rcases List.mem_cons.mp hp with rfl | hp
          · simpa using hkey
          · exact ih h hp
    · rw [if_pos hq] at h
      rcases List.mem_cons.mp hp with rfl | hp
      · exact absurd hr hq
      · exact ih h hp

end EndpointDeclaration

end RestContract
