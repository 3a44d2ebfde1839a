import RestContract.Proofs.Endpoint.Extraction

/-!
# The members of a group

A group takes an endpoint only when it was made for it and has a name that no member has yet. So
its members are apart, a name leads to the only member that has it, and a group that is declared
with endpoints holds them in their order.
-/

namespace RestContract

namespace GroupSchema

variable {g g' : GroupSchema} {e : EndpointSchema}

private theorem owns_of_add (h : g.add e = .ok g') : g.owns e = true := by
  unfold add at h
  split at h
  · cases h
  next howns => simpa using howns

/-- A group with one more endpoint has its old header. -/
theorem header_of_add (h : g.add e = .ok g') : g'.header = g.header := by
  rw [(add_eq_ok h).2]

/-- A group owns exactly the endpoints that were made for a group of its key. -/
theorem owns_iff : g.owns e = true ↔ ∃ header, e.group = some header ∧
    header.key = g.header.key := by
  unfold owns
  cases e.group <;> simp

/-- The members of a group were made for it, and no two of them have the same name. -/
structure Sound (g : GroupSchema) : Prop where
  /-- Every member was made for this group. -/
  made : ∀ m ∈ g.members, m.group = some g.header
  /-- No two members have the same name. -/
  apart : g.members.Pairwise fun a b => a.name.sameKey b.name = false

namespace Sound

/-- A group without members is sound. -/
theorem of_empty (h : g.members = []) : g.Sound where
  made := by simp [h]
  apart := by simp [h]

/-- A group stays sound with one more endpoint, when no other group has its key. -/
theorem add (hg : g.Sound) (h : g.add e = .ok g')
    (hkey : ∀ header, e.group = some header → header.key = g.header.key → header = g.header) :
    g'.Sound := by
  obtain ⟨header, hgroup, hsame⟩ := owns_iff.mp (owns_of_add h)
  obtain ⟨hnew, rfl⟩ := add_eq_ok h
  constructor
  · intro m hm
    rcases List.mem_append.mp hm with hm | hm
    · exact hg.made m hm
    · rw [List.mem_singleton.mp hm, hgroup, hkey header hgroup hsame]
  · refine List.pairwise_append.mpr ⟨hg.apart, List.pairwise_singleton _ _, fun a ha b hb => ?_⟩
    rw [List.mem_singleton.mp hb]
    simpa using List.find?_eq_none.mp hnew a ha

/-- The text of a name leads to the only member that has it. -/
theorem member?_text (hg : g.Sound) {s : String} {m : EndpointSchema} :
    g.member? (.text s) = some m ↔ m ∈ g.members ∧ m.name.asText? = some s := by
  have hsame : ∀ a : EndpointSchema, a.name.sameKey (.text s) = true ↔ a.name.asText? = some s :=
    fun a => by rw [Value.sameKey_comm, Value.sameKey_text_iff]
  constructor
  · intro h
    have hfound : m.name.sameKey (.text s) = true := by simpa using List.find?_some h
    exact ⟨List.mem_of_find?_eq_some h, (hsame m).mp hfound⟩
  · rintro ⟨hm, hname⟩
    obtain ⟨before, after, hsplit⟩ := List.append_of_mem hm
    refine List.find?_eq_some_iff_append.mpr ⟨(hsame m).mpr hname, before, after, hsplit, ?_⟩
    intro a ha
    have hapart := hg.apart
    rw [hsplit] at hapart
    -- An earlier member of the name would be the same key as this one.
    have hne : a.name.sameKey m.name = false :=
      (List.pairwise_append.mp hapart).2.2 a ha m List.mem_cons_self
    simp only [Bool.not_eq_true', Bool.eq_false_iff, Ne, hsame]
    intro hother
    rw [(Value.sameKey_of_asText? hother).mpr hname] at hne
    cases hne

end Sound
end GroupSchema

/-- An extracted endpoint belongs to the group that it was extracted for. -/
theorem EndpointDeclaration.group_of_extract {d : EndpointDeclaration} {group : Option GroupHeader}
    {e : EndpointSchema} (h : d.extract group = .ok e) : e.group = group := by
  obtain ⟨_, _, _, -, -, -, -, -, -, rfl⟩ := extract_eq_ok h
  rfl

/-- An extracted endpoint has the name of its declaration. -/
theorem EndpointDeclaration.name_of_extract {d : EndpointDeclaration} {group : Option GroupHeader}
    {e : EndpointSchema} (h : d.extract group = .ok e) : e.name = d.name := by
  obtain ⟨_, _, _, -, -, -, -, -, -, rfl⟩ := extract_eq_ok h
  rfl

namespace GroupDeclaration

variable {d : GroupDeclaration} {key : Nat} {g g' : GroupSchema}

/-- A group that could be started has the name of its declaration. -/
theorem name_of_start (h : d.start key = .ok g) : g.header.name = d.name := by
  unfold start at h
  split at h
  · cases h
  · split at h
    · cases h
    · split at h
      · cases h
      · obtain ⟨auth, -, h⟩ := Outcome.bind_eq_ok.mp h
        rw [← Except.ok.inj h]

/-- Declared endpoints become the last members of a group, in their order. -/
theorem members_of_foldlM {declarations : List EndpointDeclaration}
    (h : declarations.foldlM (fun g d => do g.add (← d.extract (some g.header))) g =
      (.ok g' : Outcome GroupSchema)) (hg : g.Sound) :
    g'.Sound ∧ g'.header = g.header ∧ ∃ added, g'.members = g.members ++ added ∧
      List.Forall₂ (fun d e => d.extract (some g.header) = .ok e) declarations added := by
  induction declarations generalizing g with
  | nil =>
    obtain rfl := Except.ok.inj h
    exact ⟨hg, rfl, [], by simp, .nil⟩
  | cons d rest ih =>
    rw [List.foldlM_cons] at h
    obtain ⟨next, hnext, h⟩ := Outcome.bind_eq_ok.mp h
    obtain ⟨e, he, hadd⟩ := Outcome.bind_eq_ok.mp hnext
    have hgroup := EndpointDeclaration.group_of_extract he
    have hsound : next.Sound := hg.add hadd fun header hheader _ => by
      rw [hgroup] at hheader
      exact (Option.some.inj hheader).symm
    obtain ⟨-, rfl⟩ := GroupSchema.add_eq_ok hadd
    obtain ⟨hg', hheader, added, hmembers, hadded⟩ := ih h hsound
    exact ⟨hg', hheader, e :: added, by simp [hmembers], .cons he hadded⟩

/-- What an extracted group is: it has the name of its declaration and the given key, requires what
the declaration says, and its members are the declared endpoints. -/
theorem extract_eq_ok (h : d.extract key = .ok g) :
    g.Sound ∧ g.header.name = d.name ∧ g.header.key = key ∧
      Auth.ofValue d.auth = .ok g.header.auth ∧
      List.Forall₂ (fun d e => d.extract (some g.header) = .ok e) d.endpoints g.members := by
  obtain ⟨start, hstart, h⟩ := Outcome.bind_eq_ok.mp h
  obtain ⟨-, hauth, hkey, hempty⟩ := start_eq_ok hstart
  obtain ⟨hg, hheader, added, hmembers, hadded⟩ := members_of_foldlM h (.of_empty hempty)
  rw [hempty, List.nil_append] at hmembers
  rw [hheader, hmembers]
  exact ⟨hg, name_of_start hstart, hkey, hauth, hadded⟩

end GroupDeclaration

end RestContract
