import RestContract.Document.Basic
import RestContract.Proofs.Document.Entries

/-!
# Endpoints by their qualified names

No two endpoints of a document have the same group and the same name. But a reference stands for
a qualified name and for a name alike, and a name may hold a point: so the qualified name of an
endpoint can be the name of another one, or the qualified name of one in another group. Where it is
not, it leads to its endpoint; where it is, it is refused as ambiguous. It never leads to another
endpoint and never to none.
-/

namespace RestContract

namespace EndpointSchema

/-- Where an endpoint stands in a document: the name of its group, if it has one, and its own. -/
def place (e : EndpointSchema) : Option Value × Value := (e.group.map (·.name), e.name)

/-- The qualified name of a member. -/
theorem qualifiedName_of_group {e : EndpointSchema} {g : GroupHeader} {s t : String}
    (hg : e.group = some g) (hs : g.name = .text s) (ht : e.name = .text t) :
    e.qualifiedName = .text (s ++ "." ++ t) := by
  rw [qualifiedName, hg]
  simp only [hs, ht, Value.plain]

/-- Outside every group the qualified name is the name. -/
theorem qualifiedName_of_none {e : EndpointSchema} (hg : e.group = none) :
    e.qualifiedName = e.name := by
  rw [qualifiedName, hg]

end EndpointSchema

namespace Document

variable {v : Value} {d : Document} {e o : EndpointSchema}

/-- The groups and the endpoints of a document have texts as names. -/
structure IsNamed (d : Document) : Prop where
  /-- The names of the groups. -/
  groups : ∀ g ∈ d.groups, ∃ s, g.header.name = .text s
  /-- The names of the endpoints. -/
  endpoints : ∀ e ∈ d.allEndpoints, ∃ s, e.name = .text s

/-- An endpoint of a document is a member of a group, for which it was made, or has none. -/
theorem mem_allEndpoints (h : ofValue v = .ok d) (he : e ∈ d.allEndpoints) :
    (∃ g ∈ d.groups, e ∈ g.members ∧ e.group = some g.header) ∨
      e ∈ d.endpoints ∧ e.group = none := by
  rcases List.mem_append.mp he with he | he
  · obtain ⟨g, hg, hmem⟩ := List.mem_flatMap.mp he
    exact Or.inl ⟨g, hg, hmem, (sound_of_mem h hg).made e hmem⟩
  · exact Or.inr ⟨he, group_of_mem h he⟩

/-- Items read from entries with different texts as keys have different texts as names. -/
theorem pairwise_names {R : Value × Value → α → Prop} {name : α → Value} {entries : Values}
    {items : List α} (h : List.Forall₂ R entries items) (hname : ∀ entry a, R entry a →
      name a = entry.1) (hkeys : (entries.filterMap (·.1.asText?)).Nodup)
    (htext : ∀ a ∈ items, ∃ s, name a = .text s) :
    items.Pairwise fun a b => name a ≠ name b := by
  induction h with
  | nil => exact .nil
  | @cons entry a entries items ha hrest ih =>
    obtain ⟨⟨s, hs⟩, htexts⟩ := List.forall_mem_cons.mp htext
    have hkey : entry.1.asText? = some s := by
      rw [← hname entry a ha, hs]
      rfl
    simp only [List.filterMap_cons, hkey] at hkeys
    obtain ⟨hnot, hkeys⟩ := List.nodup_cons.mp hkeys
    refine List.pairwise_cons.mpr ⟨fun b hb hsame => hnot ?_, ih hkeys htexts⟩
    obtain ⟨other, hother, hb⟩ := exists_mem_of_forall₂ hrest hb
    refine List.mem_filterMap.mpr ⟨other, hother, ?_⟩
    rw [← hname other b hb, ← hsame, hs]
    rfl

/-- No two endpoints of a document stand at the same place. -/
theorem pairwise_place (hv : v.TextsApart) (h : ofValue v = .ok d) (hn : d.IsNamed) :
    d.allEndpoints.Pairwise fun a b => a.place ≠ b.place := by
  obtain ⟨entries, groups, endpoints, hopened, ⟨hsg, hse⟩, hgroups, hendpoints⟩ := ofValue_eq_ok h
  have hentries : Value.TextsApartEntries entries := by
    have hmap := hv.opened
    rw [hopened, Value.TextsApart] at hmap
    exact hmap.2
  have hplace : ∀ g ∈ d.groups, ∀ m ∈ g.members, m.place = (some g.header.name, m.name) :=
    fun g hg m hm => by rw [EndpointSchema.place, (sound_of_mem h hg).made m hm, Option.map_some]
  have halone : ∀ m ∈ d.endpoints, m.place = (none, m.name) :=
    fun m hm => by rw [EndpointSchema.place, group_of_mem h hm, Option.map_none]
  refine List.pairwise_append.mpr ⟨List.pairwise_flatMap.mpr ⟨fun g hg => ?_, ?_⟩, ?_, ?_⟩
  · -- Inside a group the names are apart since it is sound.
    refine (sound_of_mem h hg).apart.imp_of_mem fun {a b} ha hb hne hsame => ?_
    rw [hplace g hg a ha, hplace g hg b hb] at hsame
    obtain ⟨s, hs⟩ := hn.endpoints b (List.mem_append_left _ (List.mem_flatMap.mpr ⟨g, hg, hb⟩))
    rw [(Prod.mk.inj hsame).2, hs, Value.sameKey_text, beq_self_eq_true] at hne
    cases hne
  · have hnames := pairwise_names hgroups (fun _ _ hg => hg.sound.1) (nodup_section? hentries hsg)
      hn.groups
    refine hnames.imp_of_mem fun {g g'} hg hg' hne a ha b hb hsame => hne ?_
    rw [hplace g hg a ha, hplace g' hg' b hb] at hsame
    exact Option.some.inj (Prod.mk.inj hsame).1
  · have hnames := pairwise_names hendpoints (fun _ _ he => he.name.1)
      (nodup_section? hentries hse) fun e he => hn.endpoints e (List.mem_append_right _ he)
    refine hnames.imp_of_mem fun {a b} ha hb hne hsame => hne ?_
    rw [halone a ha, halone b hb] at hsame
    exact (Prod.mk.inj hsame).2
  · intro a ha b hb hsame
    obtain ⟨g, hg, hm⟩ := List.mem_flatMap.mp ha
    rw [hplace g hg a hm, halone b hb] at hsame
    cases (Prod.mk.inj hsame).1

private theorem eq_of_place (hv : v.TextsApart) (h : ofValue v = .ok d) (hn : d.IsNamed)
    (he : e ∈ d.allEndpoints) (ho : o ∈ d.allEndpoints) (hsame : o.place = e.place) : o = e :=
  List.inj_on_of_nodup_map (List.pairwise_map.mpr (pairwise_place hv h hn)) ho he hsame

/-- Every endpoint of a named document has a text as qualified name, which can be shown. -/
theorem qualifiedName_text (h : ofValue v = .ok d) (hn : d.IsNamed) (he : e ∈ d.allEndpoints) :
    ∃ s, e.qualifiedName = .text s := by
  obtain ⟨t, ht⟩ := hn.endpoints e he
  rcases mem_allEndpoints h he with ⟨g, hg, -, hgroup⟩ | ⟨-, hgroup⟩
  · obtain ⟨s, hs⟩ := hn.groups g hg
    exact ⟨_, EndpointSchema.qualifiedName_of_group hgroup hs ht⟩
  · exact ⟨t, (EndpointSchema.qualifiedName_of_none hgroup).trans ht⟩

/-- A text refers to the endpoints that have it as name or as qualified name. -/
theorem refersTo_iff (h : ofValue v = .ok d) (hn : d.IsNamed) (ho : o ∈ d.allEndpoints)
    {s : String} : refersTo (.text s) o = true ↔
      o.name = .text s ∨ o.qualifiedName = .text s := by
  obtain ⟨t, ht⟩ := hn.endpoints o ho
  obtain ⟨q, hq⟩ := qualifiedName_text h hn ho
  rw [refersTo, ht, hq, Value.sameKey_text, Value.sameKey_text, Bool.or_eq_true, beq_iff_eq,
    beq_iff_eq, Value.text.injEq, Value.text.injEq, or_comm]
  exact or_congr eq_comm eq_comm

private theorem eq_singleton_iff {l : List α} (hl : l.Nodup) {a : α} (ha : a ∈ l) :
    l = [a] ↔ ∀ b ∈ l, b = a := by
  constructor
  · rintro rfl b hb
    exact List.mem_singleton.mp hb
  · intro hall
    exact List.perm_singleton.mp ((List.perm_ext_iff_of_nodup hl (List.nodup_singleton a)).mpr
      fun b => ⟨fun hb => List.mem_singleton.mpr (hall b hb),
        fun hb => List.mem_singleton.mp hb ▸ ha⟩)

/-- A qualified name leads to its endpoint when it refers to no other one, and is ambiguous
otherwise. -/
theorem find_cases (hv : v.TextsApart) (h : ofValue v = .ok d) (hn : d.IsNamed)
    (he : e ∈ d.allEndpoints) :
    ((∀ o ∈ d.allEndpoints, refersTo e.qualifiedName o = true → o = e) ∧
        d.find e.qualifiedName = .ok e) ∨
      (¬(∀ o ∈ d.allEndpoints, refersTo e.qualifiedName o = true → o = e) ∧
        d.find e.qualifiedName = .error (.reference (.ambiguous e.qualifiedName))) := by
  obtain ⟨s, hs⟩ := qualifiedName_text h hn he
  have hself : e ∈ d.allEndpoints.filter (refersTo e.qualifiedName) := by
    refine List.mem_filter.mpr ⟨he, ?_⟩
    rw [hs]
    exact (refersTo_iff h hn he).mpr (Or.inr hs)
  have hshown : d.allEndpoints.findSome? (·.unnamed?) = none := by
    refine List.findSome?_eq_none_iff.mpr fun o ho => ?_
    obtain ⟨t, ht⟩ := hn.endpoints o ho
    rcases mem_allEndpoints h ho with ⟨g, hg, -, hgroup⟩ | ⟨-, hgroup⟩
    · obtain ⟨u, hu⟩ := hn.groups g hg
      rw [EndpointSchema.unnamed?, hgroup, Option.bind_some, hu, ht]
      rfl
    · rw [EndpointSchema.unnamed?, hgroup, Option.bind_none]
  have hnodup : (d.allEndpoints.filter (refersTo e.qualifiedName)).Nodup :=
    ((pairwise_place hv h hn).imp fun hne hsame => hne (congrArg _ hsame)).filter _
  have honly : (∀ o ∈ d.allEndpoints, refersTo e.qualifiedName o = true → o = e) ↔
      d.allEndpoints.filter (refersTo e.qualifiedName) = [e] := by
    rw [eq_singleton_iff hnodup hself]
    simp only [List.mem_filter, and_imp]
  rw [honly, find, hshown]
  generalize d.allEndpoints.filter (refersTo e.qualifiedName) = found at hself
  match found, hself with
  | [o], hself =>
    obtain rfl := List.mem_singleton.mp hself
    exact Or.inl ⟨rfl, rfl⟩
  | _ :: _ :: _, _ => exact Or.inr ⟨by simp, rfl⟩

/-- No name of a group or an endpoint holds a point. -/
structure IsUndotted (d : Document) : Prop where
  /-- The names of the groups. -/
  groups : ∀ g ∈ d.groups, ∀ s, g.header.name = .text s → '.' ∉ s.toList
  /-- The names of the endpoints. -/
  endpoints : ∀ e ∈ d.allEndpoints, ∀ s, e.name = .text s → '.' ∉ s.toList

private theorem eq_of_dotted_eq {s t s' t' : String} (hs : '.' ∉ s.toList) (ht : '.' ∉ t.toList)
    (h : s' ++ "." ++ t' = s ++ "." ++ t) : s' = s ∧ t' = t := by
  have hlists : s.toList ++ '.' :: t.toList = s'.toList ++ '.' :: t'.toList := by
    simpa using congrArg String.toList h.symm
  obtain ⟨hleft, -, hright⟩ := (List.append_cons_inj_of_notMem hs ht).mp hlists
  exact ⟨String.toList_inj.mp hleft.symm, String.toList_inj.mp hright.symm⟩

/-- Without points in names, the qualified name of an endpoint refers to it alone, unless the
endpoint is outside every group and has the name of a member. -/
theorem refersTo_other_iff (hv : v.TextsApart) (h : ofValue v = .ok d) (hn : d.IsNamed)
    (hdot : d.IsUndotted) (he : e ∈ d.allEndpoints) :
    (∀ o ∈ d.allEndpoints, refersTo e.qualifiedName o = true → o = e) ↔
      (e.group = none → ∀ g ∈ d.groups, ∀ m ∈ g.members, m.name ≠ e.name) := by
  obtain ⟨t, ht⟩ := hn.endpoints e he
  have hdotted : ∀ {s t : String}, '.' ∈ (s ++ "." ++ t).toList := by simp
  constructor
  · intro honly hnone g hg m hm hname
    have hmem : m ∈ d.allEndpoints := List.mem_append_left _ (List.mem_flatMap.mpr ⟨g, hg, hm⟩)
    have hrefers : refersTo e.qualifiedName m = true := by
      rw [EndpointSchema.qualifiedName_of_none hnone, ht]
      exact (refersTo_iff h hn hmem).mpr (.inl (hname.trans ht))
    have hgroup := (sound_of_mem h hg).made m hm
    rw [honly m hmem hrefers, hnone] at hgroup
    cases hgroup
  · intro hfree o ho hrefers
    obtain ⟨u, hu⟩ := hn.endpoints o ho
    rcases mem_allEndpoints h he with ⟨g, hg, -, hgroup⟩ | ⟨-, hgroup⟩
    · obtain ⟨s, hs⟩ := hn.groups g hg
      have hq := EndpointSchema.qualifiedName_of_group hgroup hs ht
      rw [hq, refersTo_iff h hn ho] at hrefers
      rcases mem_allEndpoints h ho with ⟨g', hg', -, hgroup'⟩ | ⟨-, hgroup'⟩
      · obtain ⟨s', hs'⟩ := hn.groups g' hg'
        rw [EndpointSchema.qualifiedName_of_group hgroup' hs' hu] at hrefers
        rcases hrefers with hname | hqualified
        · exact absurd hdotted (hdot.endpoints o ho _ hname)
        · obtain ⟨rfl, rfl⟩ := eq_of_dotted_eq (hdot.groups g hg s hs) (hdot.endpoints e he t ht)
            (Value.text.inj hqualified)
          refine eq_of_place hv h hn he ho ?_
          simp only [EndpointSchema.place, hgroup, hgroup', Option.map_some, hs, hs', ht, hu]
      · rw [EndpointSchema.qualifiedName_of_none hgroup', or_self] at hrefers
        exact absurd hdotted (hdot.endpoints o ho _ hrefers)
    · rw [EndpointSchema.qualifiedName_of_none hgroup, ht, refersTo_iff h hn ho] at hrefers
      rcases mem_allEndpoints h ho with ⟨g', hg', hm, hgroup'⟩ | ⟨-, hgroup'⟩
      · obtain ⟨s', hs'⟩ := hn.groups g' hg'
        rw [EndpointSchema.qualifiedName_of_group hgroup' hs' hu] at hrefers
        rcases hrefers with hname | hqualified
        · exact absurd (hname.trans ht.symm) (hfree hgroup g' hg' o hm)
        · obtain rfl := Value.text.inj hqualified
          exact absurd hdotted (hdot.endpoints e he _ ht)
      · rw [EndpointSchema.qualifiedName_of_none hgroup', or_self] at hrefers
        refine eq_of_place hv h hn he ho ?_
        rw [EndpointSchema.place, EndpointSchema.place, hgroup, hgroup', ht, hrefers]

/-- The qualified name of an endpoint leads to it exactly when no other endpoint of the document has
that text as its name or its qualified name, and is refused as ambiguous otherwise. Without points
in names it does unless the endpoint is outside every group and has the name of a member. -/
theorem find_qualifiedName (hv : v.TextsApart) (h : ofValue v = .ok d) (hn : d.IsNamed)
    (he : e ∈ d.allEndpoints) :
    (d.find e.qualifiedName = .ok e ↔ ∀ o ∈ d.allEndpoints, o ≠ e →
        o.name ≠ e.qualifiedName ∧ o.qualifiedName ≠ e.qualifiedName) ∧
      (d.find e.qualifiedName = .ok e ∨
        d.find e.qualifiedName = .error (.reference (.ambiguous e.qualifiedName))) ∧
      (d.IsUndotted → (d.find e.qualifiedName = .ok e ↔
        (e.group = none → ∀ g ∈ d.groups, ∀ m ∈ g.members, m.name ≠ e.name))) := by
  obtain ⟨s, hs⟩ := qualifiedName_text h hn he
  have hothers : (∀ o ∈ d.allEndpoints, refersTo e.qualifiedName o = true → o = e) ↔
      ∀ o ∈ d.allEndpoints, o ≠ e →
        o.name ≠ e.qualifiedName ∧ o.qualifiedName ≠ e.qualifiedName := by
    refine forall₂_congr fun o ho => ?_
    rw [hs, refersTo_iff h hn ho, ← not_imp_not, not_or]
  have hfound : d.find e.qualifiedName = .ok e ↔
      ∀ o ∈ d.allEndpoints, refersTo e.qualifiedName o = true → o = e := by
    rcases find_cases hv h hn he with ⟨honly, hfind⟩ | ⟨hother, hfind⟩
    · exact iff_of_true hfind honly
    · exact iff_of_false (by rw [hfind]; exact nofun) hother
  refine ⟨hfound.trans hothers, ?_, fun hdot => ?_⟩
  · exact (find_cases hv h hn he).imp And.right And.right
  · exact hfound.trans (refersTo_other_iff hv h hn hdot he)

/-- A document in which a member of a group and an endpoint outside every group have one name. -/
def namesakesValue : Value :=
  .map [(.text "groups", .map [(.text "Users", .map [(.text "path", .text "/users"),
      (.text "endpoints", .map [(.text "Get", .map [(.text "method", .text "GET")])])])]),
    (.text "endpoints", .map [(.text "Get", .map [(.text "method", .text "GET")])])]

/-- The member. -/
def memberGet : EndpointSchema :=
  ⟨.text "Get", .get, "", [], .plain .null, some ⟨0, .text "Users", "/users", .required⟩, false,
    none⟩

/-- The endpoint outside every group. -/
def loneGet : EndpointSchema := ⟨.text "Get", .get, "", [], .plain .null, none, false, none⟩

/-- The document with both of them. -/
def namesakes : Document :=
  ⟨[⟨⟨0, .text "Users", "/users", .required⟩, [memberGet]⟩], [loneGet]⟩

/-- The document is accepted. -/
theorem ofValue_namesakesValue : ofValue namesakesValue = .ok namesakes := by cbv

private theorem textsApart_namesakesValue : namesakesValue.TextsApart := by
  simp [namesakesValue, Value.TextsApart, Value.TextsApartEntries, Value.asText?]

/-- All its names are texts. -/
theorem isNamed_namesakes : namesakes.IsNamed where
  groups := by simp [namesakes]
  endpoints := by simp [namesakes, allEndpoints, memberGet, loneGet]

private theorem isUndotted_namesakes : namesakes.IsUndotted where
  groups := by simp [namesakes]
  endpoints := by simp [namesakes, allEndpoints, memberGet, loneGet]

/-- The qualified name of the member leads to it. -/
theorem find_memberGet :
    namesakesValue.TextsApart ∧ ofValue namesakesValue = .ok namesakes ∧ namesakes.IsNamed ∧
      memberGet ∈ namesakes.allEndpoints ∧ namesakes.IsUndotted ∧
      namesakes.find memberGet.qualifiedName = .ok memberGet := by
  have hmem : memberGet ∈ namesakes.allEndpoints := by simp [namesakes, allEndpoints]
  have hfind := find_qualifiedName textsApart_namesakesValue ofValue_namesakesValue
    isNamed_namesakes hmem
  refine ⟨textsApart_namesakesValue, ofValue_namesakesValue, isNamed_namesakes, hmem,
    isUndotted_namesakes, (hfind.2.2 isUndotted_namesakes).mpr fun hnone => ?_⟩
  cases hnone

/-- Not every endpoint of a document can be referred to by its qualified name. -/
theorem not_find_loneGet :
    ofValue namesakesValue = .ok namesakes ∧ namesakes.IsNamed ∧
      ¬∀ e ∈ namesakes.allEndpoints, namesakes.find e.qualifiedName = .ok e := by
  refine ⟨ofValue_namesakesValue, isNamed_namesakes, fun h => ?_⟩
  have hlone := h loneGet (by simp [namesakes, allEndpoints])
  have hambiguous : namesakes.find loneGet.qualifiedName =
      .error (.reference (.ambiguous (.text "Get"))) := by cbv
  rw [hambiguous] at hlone
  cases hlone

end Document

end RestContract
