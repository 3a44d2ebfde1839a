import RestContract.Proofs.Contract.Assembly

/-!
# What groups hold

Every step keeps groups sound, whether it succeeds or fails part of the way. So at any time the
members of a group are the endpoints that have been added to it, in their order.
-/

namespace RestContract
namespace Assembly

variable {s s' : Assembly}

/-! ## Single steps -/

@[simp] theorem group?_ofClass (s : Assembly) (key : Nat) :
    s.group? (.ofClass key) = (s.registry.group? key).bind (·.schema) := rfl

/-- When a class gets an entry, no other endpoint becomes known than that of the entry. -/
theorem Knows.of_setContract {r : Registry} {key : Nat} {entry : ContractEntry} {e : EndpointSchema}
    (hk : ({ s with registry := r.setContract key entry } : Assembly).Knows e)
    (hr : ∀ other, r.contract? other = s.registry.contract? other) :
    s.Knows e ∨ entry.schema = some e := by
  rcases hk with hk | ⟨other, found, hfound, hschema⟩
  · exact .inl (.inl hk)
  · rw [Registry.contract?_setContract] at hfound
    split at hfound
    next =>
      obtain rfl := Option.some.inj hfound
      exact .inr hschema
    next => exact .inl (.inr ⟨other, found, hr other ▸ hfound, hschema⟩)

/-- A group class may get another entry if its key is given out. -/
theorem lt_of_setGroup {r : Registry} {key next : Nat} {entry : GroupEntry} (hkey : key < next)
    (hr : ∀ other found, r.group? other = some found → other < next) {other : Nat}
    {found : GroupEntry} (hfound : (r.setGroup key entry).group? other = some found) :
    other < next := by
  rw [Registry.group?_setGroup] at hfound
  split at hfound
  next hk => exact hk ▸ hkey
  next => exact hr other found hfound

/-- A new group without a class comes. -/
theorem Sound.make (h : s.Sound) {g : GroupSchema} {added : Additions} (hsound : g.Sound)
    (hkey : g.header.key = s.registry.nextKey) (hmembers : g.members = addedTo g.header.key added)
    (hadded : ∀ a ∈ added, a.1 = g.header.key) : s.Leads (s.make g) added := by
  have hgroup : ∀ place, (s.make g).group? (.made place) =
      if place = s.made.length then some g else s.group? (.made place) := by
    intro place
    simp only [group?, Assembly.make]
    split
    next hp => rw [hp, List.getElem?_concat_length]
    next hp =>
      rw [List.getElem?_append]
      split
      · rfl
      · rw [List.getElem?_eq_none (by simp; omega), List.getElem?_eq_none (by omega)]
  refine h.extend (.made s.made.length) id hsound hkey hmembers hadded rfl ?_ ?_
    (fun _ _ _ _ => id) ?_ ?_ fun e he => he
  · rw [hgroup, if_pos rfl]
  · rintro (place | key) found hne hfound
    · rwa [hgroup, if_neg fun hp => hne (congrArg GroupRef.made hp)] at hfound
    · exact hfound
  · rintro found ⟨place | key, hfound⟩
    · refine ⟨.made place, ?_⟩
      have hlt : place < s.made.length := (List.getElem?_eq_some_iff.mp hfound).1
      rw [hgroup, if_neg (by omega)]
      exact hfound
    · exact ⟨.ofClass key, hfound⟩
  · exact fun key entry hentry => Nat.lt_succ_of_lt (h.classes key entry hentry)

/-- Binding a class adds its endpoint to the group, if there is one. -/
theorem Sound.bound (h : s.Sound) {key : Nat} {e : EndpointSchema} {target : Option GroupTag}
    {r : Registry} (hbound : Declaring.Bound s.registry key e target r) :
    s.Leads { s with registry := r } (s.joining (target.map fun tag => .ofClass tag.key) e) := by
  cases hbound with
  | @alone entry d hentry hd he =>
    refine h.same (fun ref => by cases ref <;> rfl) le_rfl h.classes fun e' header hk hgroup => ?_
    rcases hk.of_setContract fun _ => rfl with hk | hschema
    · exact h.headers e' header hk hgroup
    · obtain rfl := Option.some.inj hschema
      rw [EndpointDeclaration.group_of_extract he] at hgroup
      cases hgroup
  | @member tag group g g' entry d hgroup hg hentry hd he hadd =>
    have hold : s.group? (.ofClass tag.key) = some g := by
      rw [group?_ofClass, hgroup, Option.bind_some, hg]
    have hjoining : s.joining (some (.ofClass tag.key)) e = [(g.header.key, e)] := by
      rw [joining, Option.bind_some, hold, Option.map_some, Option.toList_some]
    rw [Option.map_some, hjoining]
    refine h.grow ⟨hold, GroupSchema.header_of_add hadd, fun other => ?_⟩ hadd
      (fun header hheader => ?_) rfl (fun k found hfound => ?_) fun e' hk => ?_
    · cases other with
      | made place => rfl
      | ofClass k =>
        simp only [group?_ofClass, Registry.group?_setContract, Registry.group?_setGroup,
          GroupRef.ofClass.injEq]
        split <;> rfl
    · rw [EndpointDeclaration.group_of_extract he] at hheader
      exact ⟨g, ⟨_, hold⟩, Option.some.inj hheader⟩
    · rw [Registry.group?_setContract] at hfound
      exact lt_of_setGroup (h.classes tag.key group hgroup) h.classes hfound
    · rcases hk.of_setContract fun _ => rfl with hk | hschema
      · exact .inl hk
      · exact .inr (Option.some.inj hschema).symm

private theorem header_of_bound {r r' : Registry} {key : Nat} {e : EndpointSchema} {tag : GroupTag}
    (hbound : Declaring.Bound r key e (some tag) r') {g : GroupSchema}
    (hg : (r.group? tag.key).bind (·.schema) = some g) :
    ∃ g', (r'.group? tag.key).bind (·.schema) = some g' ∧ g'.header = g.header := by
  cases hbound with
  | @member _ group old g' _ _ hgroup hold _ _ _ hadd =>
    rw [hgroup, Option.bind_some, hold] at hg
    obtain rfl := Option.some.inj hg
    exact ⟨g', by simp, GroupSchema.header_of_add hadd⟩

/-- Classes that join a group class one after the other are added to it, up to the first one that is
refused. -/
theorem Sound.adopt (h : s.Sound) {tag : GroupTag} {g : GroupSchema}
    (hg : s.group? (.ofClass tag.key) = some g) (keys : List Nat) :
    s.Leads { s with registry := ((keys.forM (Declaring.adopt tag)).run.run s.registry).2 }
        ((adopted s.registry tag keys).map (g.header.key, ·)) ∧
      ∃ g', ((((keys.forM (Declaring.adopt tag)).run.run s.registry).2.group? tag.key).bind
        (·.schema)) = some g' ∧ g'.header = g.header := by
  induction keys generalizing s g with
  | nil => exact ⟨.refl h, g, hg, rfl⟩
  | cons key rest ih =>
    simp only [List.forM_eq_forM, List.forM_cons, Declaring.run_bind, adopted] at ih ⊢
    by_cases hk : s.registry.hasDeclaration key = true
    · rw [if_pos hk, Declaring.run_adopt tag hk]
      rcases Declaring.bind_cases key (some tag) s.registry with ⟨f, hrun⟩ | ⟨e, r, hrun, hbound⟩
      · rw [hrun]
        exact ⟨.refl h, g, hg, rfl⟩
      · obtain ⟨g', hg', hheader⟩ := header_of_bound hbound hg
        have hfirst := h.bound hbound
        rw [Option.map_some, joining, Option.bind_some, hg, Option.map_some,
          Option.toList_some] at hfirst
        obtain ⟨hrest, g'', hg'', hheader'⟩ := ih hfirst.sound hg'
        rw [hheader] at hrest
        rw [hrun]
        exact ⟨hfirst.trans hrest, g'', hg'', hheader'.trans hheader⟩
    · rw [if_neg hk, Declaring.run_adopt_of_not tag (by simpa using hk)]
      exact ih h hg

/-! ## Declarations of classes -/

/-- A class may get an entry whose endpoint is known, and keys may be given out. -/
theorem Sound.setContract (h : s.Sound) (key next : Nat) (entry : ContractEntry)
    (hnext : s.registry.nextKey ≤ next) (hentry : ∀ e, entry.schema = some e → s.Knows e) :
    s.Leads
      { s with
        registry :=
          ({ s.registry with nextKey := next } : Registry).setContract key entry } [] := by
  refine h.same (fun ref => by cases ref <;> rfl) hnext
    (fun k found hfound => (h.classes k found hfound).trans_le hnext) fun e header hk hgroup => ?_
  rcases hk.of_setContract fun _ => rfl with hk | hschema
  · exact h.headers e header hk hgroup
  · exact h.headers e header (hentry e hschema) hgroup

/-- The place of a group before a class became another one: the group at the last place without a
class is the one that the class was. -/
def placeBefore (s : Assembly) (key : Nat) : GroupRef → GroupRef
  | .made place => if place = s.made.length then .ofClass key else .made place
  | .ofClass other => .ofClass other

/-- Groups at other places than the class had different places before. -/
theorem placeBefore_injective (s : Assembly) {key : Nat} {ref ref' : GroupRef}
    (hr : ref ≠ .ofClass key) (hr' : ref' ≠ .ofClass key)
    (h : s.placeBefore key ref = s.placeBefore key ref') : ref = ref' := by
  cases ref with
  | ofClass other =>
    cases ref' with
    | ofClass other' => exact h
    | made place' =>
      simp only [placeBefore] at h
      split at h
      · exact absurd h hr
      · cases h
  | made place =>
    cases ref' with
    | ofClass other' =>
      simp only [placeBefore] at h
      split at h
      · exact absurd h.symm hr'
      · cases h
    | made place' =>
      simp only [placeBefore] at h
      split at h <;> split at h
      next hp hp' => rw [hp, hp']
      next => cases h
      next => cases h
      next => exact h

/-- A class becomes a new group without members; the group that it was is kept. -/
theorem Sound.begin (h : s.Sound) {tag : GroupTag} {entry : GroupEntry} {g : GroupSchema}
    (hentry : s.registry.group? tag.key = some entry) (hkey : g.header.key = s.registry.nextKey)
    (hempty : g.members = []) :
    s.Leads
      { s with
        registry :=
          ({ s.registry with nextKey := s.registry.nextKey + 1 } : Registry).setGroup tag.key
            { entry with schema := some g, contracts := [] }
        made := s.made ++ entry.schema.toList } [] := by
  have hold : s.group? (.ofClass tag.key) = entry.schema := by
    rw [group?_ofClass, hentry, Option.bind_some]
  refine h.extend (.ofClass tag.key) (s.placeBefore tag.key) (.of_empty hempty) hkey
    (by rw [hempty, addedTo_nil]) (List.forall_mem_nil _) rfl (by simp) ?_
    (fun _ _ hr hr' => s.placeBefore_injective hr hr') ?_ ?_ fun e he => he
  · rintro (place | key) found hne hfound
    · simp only [group?, placeBefore] at hfound ⊢
      rw [List.getElem?_append] at hfound
      split at hfound
      next hlt => rwa [if_neg hlt.ne]
      next hlt =>
        obtain ⟨hone, hfound⟩ := List.getElem?_eq_some_iff.mp hfound
        have hplace : place = s.made.length := by
          have hlength := Option.length_toList_le (o := entry.schema)
          omega
        subst hplace
        rw [if_pos rfl]
        refine hold.trans ?_
        cases hschema : entry.schema with
        | none => simp [hschema] at hone
        | some old => simpa [hschema] using hfound
    · have hk : key ≠ tag.key := fun hk => hne (congrArg GroupRef.ofClass hk)
      rwa [group?_ofClass, Registry.group?_setGroup, if_neg hk] at hfound
  · rintro found ⟨place | key, hfound⟩
    · refine ⟨.made place, ?_⟩
      have hlt : place < s.made.length := (List.getElem?_eq_some_iff.mp hfound).1
      simpa [group?, List.getElem?_append_left hlt] using hfound
    · by_cases hk : key = tag.key
      · subst hk
        refine ⟨.made s.made.length, ?_⟩
        rw [hold] at hfound
        simp [group?, hfound]
      · refine ⟨.ofClass key, ?_⟩
        rw [group?_ofClass, Registry.group?_setGroup, if_neg hk]
        exact hfound
  · exact fun key found => lt_of_setGroup (Nat.lt_succ_of_lt (h.classes tag.key entry hentry))
      fun other found hfound => Nat.lt_succ_of_lt (h.classes other found hfound)

/-- A step whose result is not used does the same without it. -/
theorem run_discard (x : Declaring α) (r : Registry) :
    (do let _ ← x; pure () : Declaring Unit).run.run r =
      ((x.run.run r).1.map fun _ => (), (x.run.run r).2) := by
  rw [Declaring.run_bind]
  rcases x.run.run r with ⟨_ | _, _⟩ <;> rfl

private theorem retired_eq_nil {r r' : Registry} (h : ∀ key, r'.group? key = r.group? key)
    (step : ClassStep) : retired r r' step = [] := by
  cases step with
  | group path auth target members =>
    cases target with
    | none => rfl
    | some tag =>
      rw [retired, h]
      cases (r.group? tag.key).bind (·.schema) <;> simp
  | _ => rfl

private theorem retired_eq_toList {r r' : Registry} {tag : GroupTag} {entry : GroupEntry}
    {g' : GroupSchema} (hentry : r.group? tag.key = some entry)
    (hg' : (r'.group? tag.key).bind (·.schema) = some g')
    (hne : ∀ g, entry.schema = some g → g.header.key ≠ g'.header.key) (path auth : Value)
    (members : List Nat) :
    retired r r' (.group path auth (some tag) members) = entry.schema.toList := by
  rw [retired, hentry, Option.bind_some, hg']
  cases hg : entry.schema with
  | none => rfl
  | some g => simp [hne g hg]

/-- Declaring a class as an endpoint adds the endpoint to the group that is given. -/
theorem Sound.endpoint (h : s.Sound) (args : EndpointArguments) (target : Option Nat) :
    s.Leads (s.run (.classes (.endpoint args target))).2
      (s.added (.classes (.endpoint args target))) := by
  have hrun : (s.run (.classes (.endpoint args target))).2 =
      { s with registry := ((declareEndpoint args target).run.run s.registry).2 } := by
    simp only [run, ClassStep.run, run_discard, retired, List.append_nil]
  rw [hrun, added]
  rcases Declaring.run_declareEndpoint args target s.registry with
    ⟨f, -, hfail⟩ | ⟨key, r₀, rfl, hbegun, hbind⟩
  · rw [hfail]
    exact .refl h
  · obtain ⟨method, entry, -, hentry, rfl⟩ := ClassStep.begun?_endpoint_eq_some hbegun
    have hfirst := h.setContract key s.registry.nextKey
      { entry with declaration := some (args.declarationOf method entry.contract) } le_rfl
      fun e he => .inr ⟨key, entry, hentry, he⟩
    rw [hbind]
    rcases Declaring.bind_cases key args.group (s.registry.setContract key
        { entry with declaration := some (args.declarationOf method entry.contract) }) with
      ⟨f, hfail⟩ | ⟨e, r, hok, hbound⟩
    · rw [hfail]
      exact hfirst
    · rw [hok]
      exact hfirst.trans (hfirst.sound.bound hbound)

/-- After its first writing the declaration of a group leaves what its members leave when they are
bound. -/
theorem left_by_declareGroup {path auth : Value} {tag : GroupTag} {members : List Nat}
    {r r₀ : Registry} (h : ClassStep.begun? r (.group path auth (some tag) members) = some r₀) :
    ((declareGroup path auth (some tag) members).run.run r).2 =
      ((members.forM (Declaring.adopt tag)).run.run r₀).2 := by
  rw [Declaring.run_declareGroup h, Declaring.run_bind]
  rcases (members.forM (Declaring.adopt tag)).run.run r₀ with ⟨_ | _, r'⟩
  · rfl
  · exact congrArg Prod.snd (Declaring.run_ask _ r')

/-- Declaring a class as a group makes a new group, to which its classes are added. -/
theorem Sound.group (h : s.Sound) (path auth : Value) (target : Option GroupTag)
    (members : List Nat) : s.Leads (s.run (.classes (.group path auth target members))).2
      (s.added (.classes (.group path auth target members))) := by
  have hrun : (s.run (.classes (.group path auth target members))).2 =
      { s with
        registry := ((declareGroup path auth target members).run.run s.registry).2
        made := s.made ++ retired s.registry
          ((declareGroup path auth target members).run.run s.registry).2
          (.group path auth target members) } := by
    simp only [run, ClassStep.run, run_discard]
  rw [hrun]
  cases hbegun : ClassStep.begun? s.registry (.group path auth target members) with
  | none =>
    have hadded : s.added (.classes (.group path auth target members)) = [] := by
      cases target <;> simp [added, hbegun]
    have hretired := retired_eq_nil (Declaring.agrees_declareGroup hbegun).2
      (.group path auth target members)
    rw [hadded, hretired, List.append_nil]
    rcases Declaring.run_declareGroup_of_refused hbegun with hsame | hsame
    · rw [hsame]
      exact .refl h
    · rw [hsame]
      exact h.same (fun ref => by cases ref <;> rfl) (Nat.le_succ _)
        (fun key entry hentry => Nat.lt_succ_of_lt (h.classes key entry hentry)) h.headers
  | some r₀ =>
    cases target with
    | none => cases hbegun
    | some tag =>
      obtain ⟨a, g, entry, -, hstart, hentry, rfl⟩ := ClassStep.begun?_group_eq_some hbegun
      obtain ⟨-, -, hkey, hempty⟩ := GroupDeclaration.start_eq_ok hstart
      have hfirst := h.begin hentry hkey hempty
      have hnow : (({ s.registry with nextKey := s.registry.nextKey + 1 } : Registry).setGroup
          tag.key { entry with schema := some g, contracts := [] } |>.group? tag.key).bind
            (·.schema) = some g := by simp
      obtain ⟨hrest, g', hg', hheader⟩ := hfirst.sound.adopt hnow members
      -- The class has become another group, so the one that it was is kept.
      have hretired := retired_eq_toList hentry hg' (fun old hold => by
        have hlt := h.groups (.ofClass tag.key) old (by simp [hentry, hold])
        rw [hheader, hkey]
        exact hlt.2.ne) path auth members
      have hadded : s.added (.classes (.group path auth (some tag) members)) =
          (adopted (({ s.registry with nextKey := s.registry.nextKey + 1 } : Registry).setGroup
            tag.key { entry with schema := some g, contracts := [] }) tag members).map
              (g.header.key, ·) := by
        rw [added, hbegun, hkey]
      rw [hadded, left_by_declareGroup hbegun, hretired]
      exact hfirst.trans hrest

/-- Whatever is declared about classes leads to sound groups. -/
theorem Sound.declare (h : s.Sound) (step : ClassStep) :
    s.Leads (s.run (.classes step)).2 (s.added (.classes step)) := by
  cases step with
  | contract name parent fields resolver =>
    have hrun : (s.run (.classes (.contract name parent fields resolver))).2 =
        { s with
          registry := ({ s.registry with nextKey := s.registry.nextKey + 1 } : Registry).setContract
            s.registry.nextKey ⟨⟨RecordTag.of s.registry.nextKey name parent fields, fields,
              resolver⟩, none, none⟩ } := by
      simp only [run, retired, List.append_nil]
      rfl
    rw [hrun]
    exact h.setContract _ _ _ (Nat.le_succ _) (by rintro _ ⟨⟩)
  | plain name =>
    have hrun : (s.run (.classes (.plain name))).2 =
        { s with
          registry := ({ s.registry with nextKey := s.registry.nextKey + 1 } : Registry).setGroup
            s.registry.nextKey ⟨name, none, []⟩ } := by
      simp only [run, retired, List.append_nil]
      rfl
    rw [hrun]
    refine h.same (fun ref => ?_) (Nat.le_succ _) (fun key entry hentry => ?_) h.headers
    · cases ref with
      | made place => rfl
      | ofClass key =>
        rw [group?_ofClass, group?_ofClass, Registry.group?_setGroup]
        split
        next hk =>
          -- No class was known by the key that is given out.
          cases hentry : s.registry.group? key with
          | none => rfl
          | some entry => exact absurd (h.classes key entry hentry) (by omega)
        next => rfl
    · exact lt_of_setGroup (Nat.lt_succ_self _)
        (fun other found hfound => Nat.lt_succ_of_lt (h.classes other found hfound)) hentry
  | endpoint args target => exact h.endpoint args target
  | group path auth target members => exact h.group path auth target members

/-! ## Any steps -/

/-- A group that is put in the place of another one stands there, and the others stay. -/
theorem group?_setGroup {ref : GroupRef} {g : GroupSchema} (hg : s.group? ref = some g)
    (g' : GroupSchema) (other : GroupRef) :
    (s.setGroup g' ref).group? other = if other = ref then some g' else s.group? other := by
  cases ref with
  | made place =>
    have hlt : place < s.made.length := (List.getElem?_eq_some_iff.mp hg).1
    cases other with
    | made other =>
      simp only [setGroup, group?, List.getElem?_set, hlt, if_true, GroupRef.made.injEq]
      simp only [eq_comm]
    | ofClass key => rfl
  | ofClass key =>
    obtain ⟨entry, hentry, -⟩ := Option.bind_eq_some_iff.mp hg
    simp only [setGroup, hentry]
    cases other with
    | made place => rfl
    | ofClass other =>
      rw [group?_ofClass, group?_ofClass, Registry.group?_setGroup]
      simp only [GroupRef.ofClass.injEq]
      split <;> rfl

/-- Only groups change when a group is put in the place of another one. -/
theorem Sound.rest_setGroup (h : s.Sound) {ref : GroupRef} {g : GroupSchema}
    (hg : s.group? ref = some g) (g' : GroupSchema) :
    (s.setGroup g' ref).registry.nextKey = s.registry.nextKey ∧
      (∀ key entry, (s.setGroup g' ref).registry.group? key = some entry →
        key < (s.setGroup g' ref).registry.nextKey) ∧
      ∀ e, (s.setGroup g' ref).Knows e → s.Knows e := by
  cases ref with
  | made place => exact ⟨rfl, h.classes, fun _ hk => hk⟩
  | ofClass key =>
    obtain ⟨entry, hentry, -⟩ := Option.bind_eq_some_iff.mp hg
    simp only [setGroup, hentry]
    exact ⟨rfl, fun _ _ => lt_of_setGroup (h.classes key entry hentry) h.classes, fun _ hk => hk⟩

/-- An endpoint is added to a group by hand. -/
theorem Sound.add (h : s.Sound) (ref : GroupRef) (endpoint : EndpointRef) :
    s.Leads (s.run (.add ref endpoint)).2 (s.added (.add ref endpoint)) := by
  cases hg : s.group? ref with
  | none => simpa [run, added, hg] using Leads.refl h
  | some g =>
    cases he : s.endpoint? endpoint with
    | none => simpa [run, added, hg, he] using Leads.refl h
    | some e =>
      cases hadd : g.add e with
      | error f => simpa [run, added, hg, he, hadd] using Leads.refl h
      | ok g' =>
        have hjoining : s.joining (some ref) e = [(g.header.key, e)] := by simp [joining, hg]
        simp only [run, added, hg, he, hadd, hjoining]
        obtain ⟨hkey, hclasses, hknows⟩ := h.rest_setGroup hg g'
        exact h.grow ⟨hg, GroupSchema.header_of_add hadd, group?_setGroup hg g'⟩ hadd
          (fun header hheader => h.header_of_endpoint? he hheader) hkey hclasses
          fun e' hk => .inl (hknows e' hk)

private theorem filterMap_toOption {α β : Type} {f : α → Outcome β} {as : List α} {bs : List β}
    (h : List.Forall₂ (fun a b => f a = .ok b) as bs) :
    as.filterMap (fun a => (f a).toOption) = bs := by
  induction h with
  | nil => rfl
  | cons hab _ ih => rw [List.filterMap_cons_some (by rw [hab]; rfl), ih]

/-- Whatever happens leads to sound groups. -/
theorem Sound.run (h : s.Sound) (step : GroupStep) : s.Leads (s.run step).2 (s.added step) := by
  cases step with
  | start d =>
    cases hstart : d.start s.registry.nextKey with
    | error f => simpa [Assembly.run, added, hstart] using Leads.refl h
    | ok g =>
      obtain ⟨-, -, hkey, hempty⟩ := GroupDeclaration.start_eq_ok hstart
      simp only [Assembly.run, hstart, added]
      exact h.make (.of_empty hempty) hkey (by rw [hempty, addedTo_nil]) (List.forall_mem_nil _)
  | extractGroup d =>
    cases hextract : d.extract s.registry.nextKey with
    | error f => simpa [Assembly.run, added, hextract] using Leads.refl h
    | ok g =>
      obtain ⟨hsound, -, hkey, -, hmembers⟩ := GroupDeclaration.extract_eq_ok hextract
      simp only [Assembly.run, hextract, added, filterMap_toOption hmembers]
      exact h.make hsound hkey (by rw [addedTo_map]) (by simp)
  | extract d group =>
    cases he : d.extract ((group.bind s.group?).map (·.header)) with
    | error f =>
      simp only [Assembly.run, he, added]
      exact .refl h
    | ok e =>
      simp only [Assembly.run, he, added]
      refine h.same (fun ref => by cases ref <;> rfl) le_rfl h.classes fun e' header hk hgroup => ?_
      rcases hk with hk | hk
      · rcases List.mem_append.mp hk with hk | hk
        · exact h.headers e' header (.inl hk) hgroup
        · rw [List.mem_singleton.mp hk, EndpointDeclaration.group_of_extract he] at hgroup
          obtain ⟨g, hg, rfl⟩ := Option.map_eq_some_iff.mp hgroup
          obtain ⟨ref, -, hg⟩ := Option.bind_eq_some_iff.mp hg
          exact ⟨g, ⟨ref, hg⟩, rfl⟩
      · exact h.headers e' header (.inr hk) hgroup
  | add ref endpoint => exact h.add ref endpoint
  | classes step => exact h.declare step

/-- A step that fails adds nothing to the groups that were there. -/
theorem added_of_failed {step : GroupStep} {f : Failure} (hf : (s.run step).1 = .error f) :
    ∀ a ∈ s.added step, a.1 = s.registry.nextKey := by
  cases step with
  | start d => exact List.forall_mem_nil _
  | extractGroup d =>
    cases hextract : d.extract s.registry.nextKey with
    | error f => simp [added, hextract]
    | ok g => simp [Assembly.run, hextract] at hf
  | extract d group => exact List.forall_mem_nil _
  | add ref endpoint => simp [added, hf]
  | classes step =>
    cases step with
    | contract name parent fields resolver => exact List.forall_mem_nil _
    | plain name => exact List.forall_mem_nil _
    | endpoint args target =>
      simp only [Assembly.run, ClassStep.run, run_discard] at hf
      cases hrun : ((declareEndpoint args target).run.run s.registry).1 with
      | error f => simp [added, hrun]
      | ok e => simp [hrun, Except.map] at hf
    | group path auth target members =>
      cases target with
      | none => exact List.forall_mem_nil _
      | some tag =>
        simp only [added]
        split
        · simp
        · exact List.forall_mem_nil _

/-- Any steps lead to sound groups. -/
theorem Sound.after (h : s.Sound) (steps : List GroupStep) :
    s.Leads (s.after steps) (s.addedBy steps) := by
  induction steps generalizing s with
  | nil => exact .refl h
  | cons step rest ih => exact (h.run step).trans (ih (h.run step).sound)

/-- Where nothing has been made yet everything is sound. -/
theorem sound_empty : empty.Sound := by
  have hnone : ∀ ref, empty.group? ref = none := by rintro (_ | _) <;> rfl
  refine ⟨by simp [hnone], by simp [hnone], by rintro _ _ ⟨⟩, ?_⟩
  rintro e header (hk | ⟨key, entry, hentry, -⟩)
  · cases hk
  · cases hentry

/-- After any steps a group holds the endpoints that were added to it, in their order. They were
made for this very group, no two of them have the same name, and a name leads to the one that has it
or to none; they require what the group requires and lie below its path. A further step keeps the
group, and one that fails leaves it as it is. -/
theorem members_after {steps : List GroupStep} {g : GroupSchema}
    (hg : (empty.after steps).Holds g) :
    g.endpoints = (addedTo g.header.key (empty.addedBy steps)).map (·.descriptor) ∧
    (∀ m ∈ g.members, m.group = some g.header ∧ m.auth = g.header.auth ∧
      m.path = PathText.join g.header.basePath m.ownPath) ∧
    (∀ g', (empty.after steps).Holds g' → g'.header.key = g.header.key → g' = g) ∧
    (g.members.Pairwise fun a b => a.name.sameKey b.name = false) ∧
    (∀ name m, g.member? (.text name) = some m ↔ m ∈ g.members ∧ m.name.asText? = some name) ∧
    (∀ name, g.member? (.text name) = none ↔ ∀ m ∈ g.members, m.name.asText? ≠ some name) ∧
    ∀ step, ∃ g', (empty.after (steps ++ [step])).Holds g' ∧ g'.header = g.header ∧
      ∀ f, ((empty.after steps).run step).1 = .error f → g' = g := by
  have hleads := sound_empty.after steps
  have hsound : g.Sound := by
    obtain ⟨ref, hg⟩ := hg
    exact (hleads.sound.groups ref g hg).1
  have hmembers : g.members = addedTo g.header.key (empty.addedBy steps) := by
    rcases hleads.comes g hg with ⟨old, ⟨_ | _, hold⟩, -⟩ | ⟨-, hmembers⟩
    · cases hold
    · cases hold
    · exact hmembers
  refine ⟨by rw [GroupSchema.endpoints, hmembers], fun m hm => ?_, fun g' hg' hkey =>
    hleads.sound.eq_of_key hg' hg hkey, hsound.apart, fun name m => hsound.member?_text,
    fun name => ?_, fun step => ?_⟩
  · have hgroup := hsound.made m hm
    exact ⟨hgroup, by rw [EndpointSchema.auth, hgroup]; rfl,
      by rw [EndpointSchema.path, hgroup]; rfl⟩
  · rw [Option.eq_none_iff_forall_ne_some]
    simp only [Ne, hsound.member?_text, not_and]
  · have hstep := hleads.sound.run step
    have hafter : empty.after (steps ++ [step]) = ((empty.after steps).run step).2 := by
      simp [after]
    rw [hafter]
    cases hf : ((empty.after steps).run step).1 with
    | ok _ => exact ⟨_, hstep.grows g hg, rfl, by rintro _ ⟨⟩⟩
    | error f =>
      refine ⟨g, hstep.holds_of_ne hg fun a ha hsame => ?_, rfl, fun _ _ => rfl⟩
      have hlt := hleads.sound.key_lt hg
      have hnew := added_of_failed hf a ha
      omega

/-- A declaration of an endpoint for reading. -/
def listing : EndpointDeclaration :=
  ⟨.text "List", .text "get", .text "", [], .plain .null, false, true, none⟩

/-- A group takes an endpoint, and refuses it the second time and another one that was made for no
group. -/
def listingSteps : List GroupStep :=
  [.start ⟨.text "Users", .text "/users", .text "none", []⟩, .extract listing (some (.made 0)),
    .extract listing none, .add (.made 0) (.kept 0), .add (.made 0) (.kept 0),
    .add (.made 0) (.kept 1)]

/-- What the endpoints of the group have in common. -/
def listingHeader : GroupHeader := ⟨1, .text "Users", "/users", .anonymous⟩

/-- The group with its one endpoint. -/
def listingGroup : GroupSchema :=
  ⟨listingHeader,
    [⟨.text "List", .get, "", [], .plain .null, some listingHeader, false, none⟩]⟩

private theorem holds_listingGroup : (empty.after listingSteps).Holds listingGroup :=
  ⟨.made 0, by cbv⟩

/-- The group holds the one endpoint that was added to it. -/
theorem members_listingGroup :
    (empty.after listingSteps).Holds listingGroup ∧
      listingGroup.endpoints =
        (addedTo listingGroup.header.key (empty.addedBy listingSteps)).map (·.descriptor) :=
  ⟨holds_listingGroup, (members_after holds_listingGroup).1⟩

end Assembly
end RestContract
