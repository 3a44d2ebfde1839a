import RestContract.Proofs.Contract.Failing
import RestContract.Proofs.Endpoint.Membership

/-!
# Groups over time

Groups are started by hand, extracted from declarations and declared as classes. Endpoints are
extracted for a group or for none, and added to groups by hand, whether these were made for them or
not; classes are bound as members of groups. Whatever of this happens, and in whatever order, also
when some of it fails: a group takes only endpoints that were made for this very group, each under
a name of its own, and it lists them in the order in which they were added.
-/

namespace RestContract

/-! ## What there is, and what can happen -/

/-- Where a group is at hand. -/
inductive GroupRef where
  /-- At a place among the groups without a class. -/
  | made (place : Nat)
  /-- As the group of a class. -/
  | ofClass (key : Nat)
  deriving DecidableEq

/-- Where an endpoint is at hand. -/
inductive EndpointRef where
  /-- At a place among the extracted endpoints. -/
  | kept (place : Nat)
  /-- As the endpoint of a class. -/
  | ofClass (key : Nat)
  /-- As a member of a group. -/
  | member (group : GroupRef) (place : Nat)

/-- The classes, groups and endpoints that have been made. -/
structure Assembly where
  /-- The classes. -/
  registry : Registry
  /-- The groups without a class, and those of classes that have become other groups. -/
  made : List GroupSchema
  /-- The endpoints that have been extracted. -/
  kept : List EndpointSchema

/-- Something that happens to groups. -/
inductive GroupStep where
  /-- A group is started by hand. -/
  | start (d : GroupDeclaration)
  /-- A group is extracted with its endpoints. -/
  | extractGroup (d : GroupDeclaration)
  /-- An endpoint is extracted for a group, or for none. -/
  | extract (d : EndpointDeclaration) (group : Option GroupRef)
  /-- An endpoint is added to a group. -/
  | add (group : GroupRef) (endpoint : EndpointRef)
  /-- Something is declared about classes. -/
  | classes (step : ClassStep)

namespace Assembly

/-- Nothing at all. -/
def empty : Assembly := ⟨.empty, [], []⟩

/-- The group at a place. -/
def group? (s : Assembly) : GroupRef → Option GroupSchema
  | .made place => s.made[place]?
  | .ofClass key => (s.registry.group? key).bind (·.schema)

/-- The endpoint at a place. -/
def endpoint? (s : Assembly) : EndpointRef → Option EndpointSchema
  | .kept place => s.kept[place]?
  | .ofClass key => (s.registry.contract? key).bind (·.schema)
  | .member group place => (s.group? group).bind fun g => g.members[place]?

/-- Puts a group in the place of another one. -/
def setGroup (s : Assembly) (g : GroupSchema) : GroupRef → Assembly
  | .made place => { s with made := s.made.set place g }
  | .ofClass key =>
    match s.registry.group? key with
    | some entry => { s with registry := s.registry.setGroup key { entry with schema := some g } }
    | none => s

/-- Keeps one more group, whose key is given out. -/
def make (s : Assembly) (g : GroupSchema) : Assembly :=
  { s with
    registry := { s.registry with nextKey := s.registry.nextKey + 1 }
    made := s.made ++ [g] }

/-- The group of a class that is another group after a step. -/
def retired (r r' : Registry) : ClassStep → List GroupSchema
  | .group _ _ (some tag) _ =>
    match (r.group? tag.key).bind (·.schema), (r'.group? tag.key).bind (·.schema) with
    | some g, some g' => if g.header.key = g'.header.key then [] else [g]
    | _, _ => []
  | _ => []

/-- What a step does, and whether it fails. -/
def run (s : Assembly) : GroupStep → Outcome Unit × Assembly
  | .start d =>
    match d.start s.registry.nextKey with
    | .ok g => (.ok (), s.make g)
    | .error f => (.error f, s)
  | .extractGroup d =>
    match d.extract s.registry.nextKey with
    | .ok g => (.ok (), s.make g)
    | .error f => (.error f, s)
  | .extract d group =>
    match d.extract ((group.bind s.group?).map (·.header)) with
    | .ok e => (.ok (), { s with kept := s.kept ++ [e] })
    | .error f => (.error f, s)
  | .add group endpoint =>
    match s.group? group, s.endpoint? endpoint with
    | some g, some e =>
      match g.add e with
      | .ok g' => (.ok (), s.setGroup g' group)
      | .error f => (.error f, s)
    | _, _ => (.error (.silent .part), s)
  | .classes step =>
    match step.run.run.run s.registry with
    | (outcome, r) =>
      (outcome, { s with registry := r, made := s.made ++ retired s.registry r step })

/-- Endpoints that are added to groups, each with the key of the group. -/
abbrev Additions := List (Nat × EndpointSchema)

/-- The endpoint that joins the group at a place. -/
def joining (s : Assembly) (group : Option GroupRef) (e : EndpointSchema) : Additions :=
  ((group.bind s.group?).map fun g => (g.header.key, e)).toList

/-- The endpoints of the classes that a group class binds, up to the first that is refused. -/
def adopted (r : Registry) (tag : GroupTag) : List Nat → List EndpointSchema
  | [] => []
  | key :: rest =>
    if r.hasDeclaration key then
      match (Declaring.bind key (some tag)).run.run r with
      | (.ok e, r') => e :: adopted r' tag rest
      | (.error _, _) => []
    else adopted r tag rest

/-- The endpoints that a step adds to groups, in their order. -/
def added (s : Assembly) : GroupStep → Additions
  | .extractGroup d =>
    match d.extract s.registry.nextKey with
    | .ok g => (d.endpoints.filterMap fun e => (e.extract (some g.header)).toOption).map
        (g.header.key, ·)
    | .error _ => []
  | .add group endpoint =>
    match (s.run (.add group endpoint)).1, s.endpoint? endpoint with
    | .ok _, some e => s.joining (some group) e
    | _, _ => []
  | .classes (.endpoint args target) =>
    match ((declareEndpoint args target).run.run s.registry).1 with
    | .ok e => s.joining (args.group.map fun tag => .ofClass tag.key) e
    | .error _ => []
  | .classes (.group path auth (some tag) members) =>
    match ClassStep.begun? s.registry (.group path auth (some tag) members) with
    | some r => (adopted r tag members).map (s.registry.nextKey, ·)
    | none => []
  | _ => []

/-- Where some steps lead. -/
def after (s : Assembly) (steps : List GroupStep) : Assembly :=
  steps.foldl (fun s step => (s.run step).2) s

/-- The endpoints that some steps add to groups, in their order. -/
def addedBy (s : Assembly) : List GroupStep → Additions
  | [] => []
  | step :: rest => s.added step ++ (s.run step).2.addedBy rest

/-- A group is at hand. -/
def Holds (s : Assembly) (g : GroupSchema) : Prop := ∃ ref, s.group? ref = some g

/-- An endpoint was extracted, or is that of a class. -/
def Knows (s : Assembly) (e : EndpointSchema) : Prop :=
  e ∈ s.kept ∨ ∃ key entry, s.registry.contract? key = some entry ∧ entry.schema = some e

/-- The endpoints that were added to the group of a key. -/
def addedTo (key : Nat) (added : Additions) : List EndpointSchema :=
  (added.filter fun a => a.1 = key).map (·.2)

/-- Nothing is added to a group of another key. -/
theorem addedTo_eq_nil {key : Nat} {added : Additions} (h : ∀ a ∈ added, a.1 ≠ key) :
    addedTo key added = [] := by
  rw [addedTo, List.filter_eq_nil_iff.mpr fun a ha => by simpa using h a ha, List.map_nil]

/-- Everything is added to the group of its key. -/
@[simp] theorem addedTo_map (key : Nat) (es : List EndpointSchema) :
    addedTo key (es.map (key, ·)) = es := by
  simp [addedTo, List.filter_map, Function.comp_def]

@[simp] theorem addedTo_nil (key : Nat) : addedTo key [] = [] := rfl

@[simp] theorem addedTo_append (key : Nat) (a b : Additions) :
    addedTo key (a ++ b) = addedTo key a ++ addedTo key b := by simp [addedTo]

@[simp] theorem addedTo_self (key : Nat) (e : EndpointSchema) : addedTo key [(key, e)] = [e] := by
  simp [addedTo]

/-! ## What stays true -/

/-- What holds of groups and endpoints at any time. -/
structure Sound (s : Assembly) : Prop where
  /-- The members of groups were made for them and are apart, and the keys are given out. -/
  groups : ∀ ref g, s.group? ref = some g → g.Sound ∧ g.header.key < s.registry.nextKey
  /-- No two groups have one key. -/
  apart : ∀ ref g ref' g', s.group? ref = some g → s.group? ref' = some g' →
    g.header.key = g'.header.key → ref = ref'
  /-- The keys of group classes are given out. -/
  classes : ∀ key entry, s.registry.group? key = some entry → key < s.registry.nextKey
  /-- The group for which an endpoint was made is there. -/
  headers : ∀ e header, s.Knows e → e.group = some header → ∃ g, s.Holds g ∧ g.header = header

/-- What some steps lead to while they add endpoints to groups. -/
structure Leads (s s' : Assembly) (added : Additions) : Prop where
  /-- Groups and endpoints are sound. -/
  sound : s'.Sound
  /-- Every group is still there with the endpoints added to it as its last members. -/
  grows : ∀ g, s.Holds g → s'.Holds { g with members := g.members ++ addedTo g.header.key added }
  /-- Another group is new, and its members are the endpoints added to it. -/
  comes : ∀ g, s'.Holds g → (∃ old, s.Holds old ∧ old.header = g.header) ∨
    s.registry.nextKey ≤ g.header.key ∧ g.members = addedTo g.header.key added
  /-- Keys stay given out. -/
  keys : s.registry.nextKey ≤ s'.registry.nextKey
  /-- Endpoints are added to groups whose keys are given out. -/
  given : ∀ a ∈ added, a.1 < s'.registry.nextKey

variable {s s' s'' : Assembly}

/-- A group with the same header comes in the place of another one, and the others stay. -/
structure Replaces (s s' : Assembly) (ref : GroupRef) (g g' : GroupSchema) : Prop where
  /-- The group was there. -/
  old : s.group? ref = some g
  /-- The one that comes has its header. -/
  header : g'.header = g.header
  /-- The groups at other places are the same. -/
  groups : ∀ other, s'.group? other = if other = ref then some g' else s.group? other

private theorem Replaces.header_before {ref other : GroupRef} {g g' found : GroupSchema}
    (h : s.Replaces s' ref g g') (hfound : s'.group? other = some found) :
    ∃ old, s.group? other = some old ∧ old.header = found.header := by
  rw [h.groups] at hfound
  split at hfound
  next ho =>
    obtain rfl := Option.some.inj hfound
    exact ⟨g, ho ▸ h.old, h.header.symm⟩
  next => exact ⟨found, hfound, rfl⟩

namespace Sound

/-- A group is known by its key. -/
theorem eq_of_key (h : s.Sound) {g g' : GroupSchema} (hg : s.Holds g) (hg' : s.Holds g')
    (hkey : g.header.key = g'.header.key) : g = g' := by
  obtain ⟨ref, hg⟩ := hg
  obtain ⟨ref', hg'⟩ := hg'
  obtain rfl := h.apart ref g ref' g' hg hg' hkey
  exact Option.some.inj (hg.symm.trans hg')

/-- The key of a group is given out. -/
theorem key_lt (h : s.Sound) {g : GroupSchema} (hg : s.Holds g) :
    g.header.key < s.registry.nextKey := by
  obtain ⟨ref, hg⟩ := hg
  exact (h.groups ref g hg).2

/-- The group for which an endpoint at hand was made is there. -/
theorem header_of_endpoint? (h : s.Sound) {ref : EndpointRef} {e : EndpointSchema}
    (he : s.endpoint? ref = some e) {header : GroupHeader} (hgroup : e.group = some header) :
    ∃ g, s.Holds g ∧ g.header = header := by
  cases ref with
  | kept place => exact h.headers e header (.inl (List.mem_of_getElem? he)) hgroup
  | ofClass key =>
    obtain ⟨entry, hentry, hschema⟩ := Option.bind_eq_some_iff.mp he
    exact h.headers e header (.inr ⟨key, entry, hentry, hschema⟩) hgroup
  | member group place =>
    obtain ⟨g, hg, hmem⟩ := Option.bind_eq_some_iff.mp he
    have hmade := (h.groups group g hg).1.made e (List.mem_of_getElem? hmem)
    rw [hgroup] at hmade
    exact ⟨g, ⟨group, hg⟩, (Option.some.inj hmade).symm⟩

/-- Groups stay as they are when only classes, keys and endpoints change. -/
theorem same (h : s.Sound) (hgroups : ∀ ref, s'.group? ref = s.group? ref)
    (hkey : s.registry.nextKey ≤ s'.registry.nextKey)
    (hclasses : ∀ key entry, s'.registry.group? key = some entry → key < s'.registry.nextKey)
    (hheaders : ∀ e header, s'.Knows e → e.group = some header →
      ∃ g, s.Holds g ∧ g.header = header) : s.Leads s' [] := by
  have hholds : ∀ g, s'.Holds g ↔ s.Holds g := fun g => by simp only [Holds, hgroups]
  refine ⟨⟨fun ref g hg => ?_, fun ref g ref' g' hg hg' => ?_, hclasses, ?_⟩, fun g hg => ?_,
    fun g hg => .inl ⟨g, (hholds g).mp hg, rfl⟩, hkey, List.forall_mem_nil _⟩
  · rw [hgroups] at hg
    exact ⟨(h.groups ref g hg).1, (h.groups ref g hg).2.trans_le hkey⟩
  · rw [hgroups] at hg hg'
    exact h.apart ref g ref' g' hg hg'
  · simpa only [hholds] using hheaders
  · simpa [hholds] using hg

/-- One group takes an endpoint. -/
theorem grow (h : s.Sound) {ref : GroupRef} {g g' : GroupSchema} {e : EndpointSchema}
    (hput : s.Replaces s' ref g g') (hadd : g.add e = .ok g')
    (he : ∀ header, e.group = some header → ∃ g, s.Holds g ∧ g.header = header)
    (hkey : s'.registry.nextKey = s.registry.nextKey)
    (hclasses : ∀ key entry, s'.registry.group? key = some entry → key < s'.registry.nextKey)
    (hknows : ∀ e', s'.Knows e' → s.Knows e' ∨ e' = e) :
    s.Leads s' [(g.header.key, e)] := by
  have hforth : ∀ found, s.Holds found →
      s'.Holds { found with
        members := found.members ++ addedTo found.header.key [(g.header.key, e)] } := by
    rintro found ⟨other, hfound⟩
    refine ⟨other, ?_⟩
    by_cases ho : other = ref
    · subst ho
      obtain rfl := Option.some.inj (hfound.symm.trans hput.old)
      rw [hput.groups, if_pos rfl, (GroupSchema.add_eq_ok hadd).2, addedTo_self]
    · have hne : g.header.key ≠ found.header.key := fun hsame =>
        ho (h.apart other found ref g hfound hput.old hsame.symm)
      rw [hput.groups, if_neg ho, hfound, addedTo_eq_nil (by simpa using hne), List.append_nil]
  refine ⟨⟨fun other found hfound => ⟨?_, ?_⟩, fun other found other' found' hf hf' hsame => ?_,
    hclasses, fun e' header hk hgroup => ?_⟩, hforth, ?_, hkey.ge, ?_⟩
  · rw [hput.groups] at hfound
    split at hfound
    next =>
      obtain rfl := Option.some.inj hfound
      refine (h.groups ref g hput.old).1.add hadd fun header hgroup hsame => ?_
      obtain ⟨made, hmade, rfl⟩ := he header hgroup
      rw [h.eq_of_key hmade ⟨ref, hput.old⟩ hsame]
    next => exact (h.groups other found hfound).1
  · obtain ⟨old, hold, hsame⟩ := hput.header_before hfound
    rw [← hsame, hkey]
    exact (h.groups other old hold).2
  · obtain ⟨old, hold, heq⟩ := hput.header_before hf
    obtain ⟨old', hold', heq'⟩ := hput.header_before hf'
    exact h.apart other old other' old' hold hold' (by rw [heq, heq', hsame])
  · obtain ⟨found, hfound, rfl⟩ : ∃ g, s.Holds g ∧ g.header = header := by
      rcases hknows e' hk with hk | rfl
      · exact h.headers e' header hk hgroup
      · exact he header hgroup
    exact ⟨_, hforth found hfound, rfl⟩
  · rintro found ⟨other, hfound⟩
    obtain ⟨old, hold, hsame⟩ := hput.header_before hfound
    exact .inl ⟨old, ⟨other, hold⟩, hsame⟩
  · intro a ha
    rw [List.mem_singleton.mp ha, hkey]
    exact (h.groups ref g hput.old).2

/-- A new group comes, known by the next key. The groups at other places were there before, each at
a place of its own. -/
theorem extend (h : s.Sound) (place : GroupRef) {g : GroupSchema} {added : Additions}
    (before : GroupRef → GroupRef) (hsound : g.Sound) (hkey : g.header.key = s.registry.nextKey)
    (hmembers : g.members = addedTo g.header.key added) (hadded : ∀ a ∈ added, a.1 = g.header.key)
    (hnext : s'.registry.nextKey = s.registry.nextKey + 1) (hplace : s'.group? place = some g)
    (hback : ∀ ref found, ref ≠ place → s'.group? ref = some found →
      s.group? (before ref) = some found)
    (hinj : ∀ ref ref', ref ≠ place → ref' ≠ place → before ref = before ref' → ref = ref')
    (hforth : ∀ found, s.Holds found → s'.Holds found)
    (hclasses : ∀ key entry, s'.registry.group? key = some entry → key < s'.registry.nextKey)
    (hknows : ∀ e, s'.Knows e → s.Knows e) : s.Leads s' added := by
  -- Every other group has a smaller key.
  have hless : ∀ ref found, ref ≠ place → s'.group? ref = some found →
      found.header.key < g.header.key := fun ref found hr hfound =>
    hkey ▸ (h.groups _ found (hback ref found hr hfound)).2
  refine ⟨⟨fun ref found hfound => ?_, fun ref found ref' found' hf hf' hsame => ?_, hclasses,
    fun e header hk hgroup => ?_⟩, fun found hfound => ?_, ?_, hnext ▸ Nat.le_succ _,
    fun a ha => ?_⟩
  · by_cases hr : ref = place
    · subst hr
      obtain rfl := Option.some.inj (hfound.symm.trans hplace)
      exact ⟨hsound, by omega⟩
    · have hold := h.groups _ found (hback ref found hr hfound)
      exact ⟨hold.1, by omega⟩
  · by_cases hr : ref = place <;> by_cases hr' : ref' = place
    · rw [hr, hr']
    · subst hr
      obtain rfl := Option.some.inj (hf.symm.trans hplace)
      have hlt := hless ref' found' hr' hf'
      omega
    · subst hr'
      obtain rfl := Option.some.inj (hf'.symm.trans hplace)
      have hlt := hless ref found hr hf
      omega
    · exact hinj ref ref' hr hr'
        (h.apart _ found _ found' (hback ref found hr hf) (hback ref' found' hr' hf') hsame)
  · obtain ⟨found, hfound, hheader⟩ := h.headers e header (hknows e hk) hgroup
    exact ⟨found, hforth found hfound, hheader⟩
  · have hlt := h.key_lt hfound
    rw [addedTo_eq_nil fun a ha hsame => by have := hadded a ha; omega, List.append_nil]
    exact hforth found hfound
  · rintro found ⟨ref, hfound⟩
    by_cases hr : ref = place
    · subst hr
      obtain rfl := Option.some.inj (hfound.symm.trans hplace)
      exact .inr ⟨hkey.ge, hmembers⟩
    · exact .inl ⟨found, ⟨_, hback ref found hr hfound⟩, rfl⟩
  · have hkeyed := hadded a ha
    omega

end Sound

namespace Leads

/-- Nothing changes where nothing happens. -/
theorem refl (h : s.Sound) : s.Leads s [] :=
  h.same (fun _ => rfl) le_rfl h.classes h.headers

/-- Groups grow by what is added first and by what is added then. -/
theorem trans {a b : Additions} (h : s.Leads s' a) (h' : s'.Leads s'' b) :
    s.Leads s'' (a ++ b) where
  sound := h'.sound
  grows g hg := by simpa using h'.grows _ (h.grows g hg)
  comes g hg := by
    rcases h'.comes g hg with ⟨mid, hmid, hheader⟩ | ⟨hnew, hmembers⟩
    · rcases h.comes mid hmid with ⟨old, hold, hsame⟩ | ⟨hnew, hmembers⟩
      · exact .inl ⟨old, hold, hsame.trans hheader⟩
      · -- The group is the one that came first, with what was added since.
        obtain rfl := h'.sound.eq_of_key hg (h'.grows mid hmid) (by rw [hheader])
        exact .inr ⟨hnew, by simp [hmembers]⟩
    · have hnone : addedTo g.header.key a = [] := addedTo_eq_nil fun x hx hsame => by
        have hlt := h.given x hx
        omega
      exact .inr ⟨h.keys.trans hnew, by rw [addedTo_append, hnone, List.nil_append, hmembers]⟩
  keys := h.keys.trans h'.keys
  given x hx := by
    rcases List.mem_append.mp hx with hx | hx
    · exact (h.given x hx).trans_le h'.keys
    · exact h'.given x hx

/-- A group stays as it is when nothing is added to it. -/
theorem holds_of_ne {added : Additions} (h : s.Leads s' added) {g : GroupSchema} (hg : s.Holds g)
    (hne : ∀ a ∈ added, a.1 ≠ g.header.key) : s'.Holds g := by
  have hholds := h.grows g hg
  rwa [addedTo_eq_nil hne, List.append_nil] at hholds

end Leads

end Assembly
end RestContract
