import RestContract.Endpoint.Input
import RestContract.Proofs.Endpoint.Extraction
import RestContract.Proofs.Template.Filling
import RestContract.Proofs.Template.Resolving

/-!
# The texts of the path fields

Where every path field is given a value whose text can fill a segment, the client finds a
text for every field. The texts have the names of the fields, each name once, and all of
them can fill segments. With such texts a path is made that fills the template.
-/

namespace RestContract

open Template (FillsSegment IsName pieces spread tokens)

/-- A parameter is given a value whose text can fill a segment. -/
def GivesSegment (values : Values) (p : Parameter) : Prop :=
  ∃ v text, lookupKey p.name values = some v ∧ v.isNull = false ∧ p.encode v = .ok text ∧
    FillsSegment text.toList

/-- Texts that can fill segments, each name once. -/
structure SegmentTexts (named : List (String × String)) : Prop where
  /-- Each name stands once. -/
  nodup : (named.map (·.1)).Nodup
  /-- Every text can fill a segment. -/
  fills : ∀ t ∈ named, FillsSegment t.2.toList

/-- The text under a name. -/
def textOf (named : List (String × String)) (name : String) : List Char :=
  ((named.lookup name).getD "").toList

/-- Texts under names that stand once are the texts under their names. -/
theorem SegmentTexts.textOf_eq {named : List (String × String)} (h : SegmentTexts named)
    {t : String × String} (ht : t ∈ named) : textOf named t.1 = t.2.toList := by
  rw [textOf, lookup_of_mem h.nodup ht, Option.getD_some]

/-- The text under a name that is there can fill a segment. -/
theorem SegmentTexts.fills_textOf {named : List (String × String)} (h : SegmentTexts named)
    {name : String} (hname : name ∈ named.map (·.1)) : FillsSegment (textOf named name) := by
  obtain ⟨t, ht, rfl⟩ := List.mem_map.mp hname
  rw [h.textOf_eq ht]
  exact h.fills t ht

/-- With a text for every hole the path made from a template fills the template. -/
theorem resolved_toList {template : String} {named : List (String × String)}
    (h : SegmentTexts named) (hnames : ∀ name ∈ named.map (·.1), IsName name)
    (hgiven : ∀ name ∈ tokens template, name ∈ named.map (·.1)) :
    (if named = [] then template else Template.resolve template named).toList =
      spread (textOf named) (pieces template.toList) := by
  by_cases he : named = []
  · subst he
    have hnone : ∀ name ∈ tokens template, textOf [] name = Template.mark name := fun name hm =>
      absurd (hgiven name hm) (by simp)
    rw [if_pos rfl, Template.spread_congr hnone, Template.spread_mark_pieces]
  · rw [if_neg he]
    refine Template.resolve_toList (fun v hv => hnames v.1 (List.mem_map_of_mem hv))
      (fun v hv => h.textOf_eq hv) fun name hm => ?_
    obtain ⟨v, hv, hname⟩ := List.mem_map.mp (hgiven name hm)
    exact ⟨v, hv, hname⟩

namespace EndpointSchema

/-- A value that can be sent adds its text under the name of the field. -/
theorem addPathText_eq_ok {values : Values} {p : Parameter} {v : Value} {text : String}
    (hl : lookupKey p.name values = some v) (hn : v.isNull = false) (ht : p.encode v = .ok text)
    (texts : PathTexts) : addPathText values texts p = .ok (storeKey p.name text texts) := by
  unfold addPathText
  rw [hl, Option.getD_some]
  cases v with
  | null => cases hn
  | _ =>
    simp only [ht]
    rfl

/-- Adding the texts of some fields adds their names and keeps the texts in order. -/
theorem foldlM_addPathText {values : Values} {parameters : List Parameter}
    (hn : ∀ p ∈ parameters, ∃ name, p.name.asText? = some name)
    (hv : ∀ p ∈ parameters, GivesSegment values p) {start : PathTexts}
    {named : List (String × String)} (hs : named? start = some named) (hfit : SegmentTexts named) :
    ∃ texts all, parameters.foldlM (addPathText values) start = .ok texts ∧
      named? texts = some all ∧
      SegmentTexts all ∧ ∀ name, name ∈ all.map (·.1) ↔
        name ∈ named.map (·.1) ∨ ∃ p ∈ parameters, p.name.asText? = some name := by
  induction parameters generalizing start named with
  | nil => exact ⟨start, named, rfl, hs, hfit, by simp⟩
  | cons p rest ih =>
    obtain ⟨name, hname⟩ := hn p List.mem_cons_self
    obtain ⟨v, text, hl, hnull, ht, hfills⟩ := hv p List.mem_cons_self
    have hfit' : SegmentTexts (storeName name text named) := by
      refine ⟨nodup_storeName hfit.nodup name text, fun t htm => ?_⟩
      rcases mem_storeName htm with h | h
      · rwa [h]
      · exact hfit.fills t h
    obtain ⟨texts, all, hfold, hall, hfits, hmem⟩ :=
      ih (fun q hq => hn q (List.mem_cons_of_mem _ hq))
        (fun q hq => hv q (List.mem_cons_of_mem _ hq))
        (storeKey_named hs hname text) hfit'
    refine ⟨texts, all, ?_, hall, hfits, fun other => ?_⟩
    · rw [List.foldlM_cons, addPathText_eq_ok hl hnull ht]
      exact hfold
    · simp only [hmem, mem_map_storeName, List.mem_cons, exists_eq_or_imp, hname, Option.some.injEq,
        eq_comm (a := name), or_assoc, or_left_comm (a := other = name)]

/-- The client finds a text for every path field. -/
theorem pathTexts_eq_ok {e : EndpointSchema} {values : Values}
    (hn : ∀ p ∈ e.ofRole .path, ∃ name, p.name.asText? = some name)
    (hv : ∀ p ∈ e.ofRole .path, GivesSegment values p) :
    ∃ texts named, e.pathTexts values = .ok texts ∧ named? texts = some named ∧ SegmentTexts named ∧
      ∀ name, name ∈ named.map (·.1) ↔ ∃ p ∈ e.ofRole .path, p.name.asText? = some name := by
  obtain ⟨texts, named, hfold, hnamed, hfit, hmem⟩ :=
    foldlM_addPathText hn hv named?_nil ⟨List.nodup_nil, by simp⟩
  exact ⟨texts, named, hfold, hnamed, hfit, by simpa using hmem⟩

/-- Without a resolver of its own an endpoint makes its path from its template. -/
theorem resolvePath_eq_ok {e : EndpointSchema} (hr : e.resolver = none) {texts : PathTexts}
    {named : List (String × String)} (hnamed : named? texts = some named) :
    ∃ path, e.resolvePath texts = .ok path ∧
      path.text = if named = [] then e.pathTemplate else Template.resolve e.pathTemplate named := by
  unfold resolvePath
  rw [hr]
  cases texts with
  | nil =>
    obtain rfl := Option.some.inj hnamed
    exact ⟨e.path, rfl, rfl⟩
  | cons t rest =>
    have hne : named ≠ [] := by
      obtain ⟨name, others, -, -, rfl⟩ := named?_cons.mp hnamed
      exact List.cons_ne_nil _ _
    unfold named? at hnamed
    refine ⟨Template.resolve e.pathTemplate named, ?_, by rw [if_neg hne]; rfl⟩
    simp only [hnamed, List.isEmpty_cons, Bool.false_eq_true, if_false]

end EndpointSchema

end RestContract
