import RestContract.Document.Layout
import RestContract.Proofs.Contract.Failing
import RestContract.Proofs.Endpoint.Description

/-!
# Two forms of a description

A described endpoint can be declared as a contract class with marks or be an entry of a document.
Both forms realize the description, but the fields of a class may have more defaults: one that is
given none has as its default what every class has under its name. So the document is accepted
exactly when the description is sound, and the class exactly when it is sound with these defaults
too.
-/

namespace RestContract

/-! ## Classes of texts -/

namespace EnumClass

/-- A text that can name a member of a class for itself. -/
structure NamesMember (className text : String) : Prop where
  /-- It is a name. -/
  notEmpty : text ≠ ""
  /-- It is not the name for the order of base classes. -/
  notOrder : text ≠ "mro"
  /-- It says nothing about the class. -/
  notSetting : hasSingleEnds text.toList = false
  /-- It has no meaning of its own. -/
  notSpecial : hasDoubleEnds text.toList = false
  /-- It is not private to the class. -/
  notPrivate : isPrivate className.toList text.toList = false

/-- A draft in which texts have become members. -/
def Draft.ofTexts (texts : List String) : Draft := ⟨texts, texts.map fun t => (t, t), [], [], []⟩

/-- Texts become members one after the other. -/
theorem foldlM_put {className : String} {texts : List String} (done : List String)
    (hd : (done ++ texts).Nodup) (h : ∀ t ∈ texts, NamesMember className t) :
    (texts.map fun t => (t, t)).foldlM (Draft.put className) (Draft.ofTexts done) =
      .ok (Draft.ofTexts (done ++ texts)) := by
  induction texts generalizing done with
  | nil => simp [Pure.pure, Except.pure]
  | cons t rest ih =>
    obtain ⟨ht, hrest⟩ := List.forall_mem_cons.mp h
    have hnew : t ∉ done := fun hmem =>
      (List.nodup_append.mp hd).2.2 t hmem t List.mem_cons_self rfl
    have hput : Draft.put className (Draft.ofTexts done) (t, t) =
        .ok (Draft.ofTexts (done ++ [t])) := by
      simp [Draft.put, Draft.ofTexts, Draft.addMember, ht.notSetting, ht.notSpecial, ht.notPrivate,
        hnew]
    rw [List.map_cons, List.foldlM_cons, hput]
    have hsplit : done ++ t :: rest = (done ++ [t]) ++ rest := by simp
    rw [hsplit] at hd ⊢
    exact ih _ hd hrest

/-- Different texts that can name members make a class with these members, which can be told apart
from other texts, unless its own name keeps it from being made. -/
theorem of_texts {className : String} {texts : List String} (hd : texts.Nodup)
    (h : ∀ t ∈ texts, NamesMember className t) :
    ∃ lacks, Ability.lookup ∉ lacks ∧
      of className (texts.map fun t => (t, t)) =
        match nameFault? className with
        | none => .ok ⟨className, texts.map fun t => (t, t), lacks⟩
        | some fault => .error fault := by
  have hmro : texts.contains "mro" = false := by
    simpa using fun hmem => (h "mro" hmem).notOrder rfl
  have hempty : texts.contains "" = false := by
    simpa using fun hmem => (h "" hmem).notEmpty rfl
  have hfold : (texts.map fun t => (t, t)).foldlM (Draft.put className) Draft.empty =
      .ok (Draft.ofTexts texts) := foldlM_put [] hd h
  refine ⟨(Draft.ofTexts texts).lacks, ?_, ?_⟩
  · have hnames : ∀ name ability, memberNames.lookup name = some ability → ability ≠ .lookup := by
      intro name ability hname
      have hmem : (name, ability) ∈ memberNames := by
        obtain ⟨before, after, hsplit, -⟩ := List.lookup_eq_some_iff.mp hname
        simp [hsplit]
      have hall : ∀ m ∈ memberNames, m.2 ≠ .lookup := by decide
      exact hall _ hmem
    simp only [Draft.lacks, Draft.ofTexts, List.filter_nil, List.flatMap_nil, List.nil_append,
      List.mem_filterMap, not_exists, not_and]
    exact fun name _ hname => hnames name _ hname rfl
  · have hfault : (Draft.ofTexts texts).fault? className = nameFault? className := by
      simp only [Draft.fault?, Draft.ofTexts, hmro, hempty, Draft.partFault?]
      cases nameFault? className <;> rfl
    rw [of, hfold]
    simp only [Bind.bind, Except.bind, hfault]
    cases nameFault? className <;> rfl

/-- So they make one when its name can name a class. -/
theorem of_texts_eq_ok {className : String} {texts : List String} (hd : texts.Nodup)
    (h : ∀ t ∈ texts, NamesMember className t) (hname : nameFault? className = none) :
    ∃ lacks, Ability.lookup ∉ lacks ∧
      of className (texts.map fun t => (t, t)) =
        .ok ⟨className, texts.map fun t => (t, t), lacks⟩ := by
  obtain ⟨lacks, hlookup, hclass⟩ := of_texts hd h
  exact ⟨lacks, hlookup, by rw [hclass, hname]⟩

end EnumClass

/-- A document makes a class of different texts that can name members, if it can be named. -/
theorem Document.classOf_texts {endpoint field : String} {texts : List String} (hne : texts ≠ [])
    (hd : texts.Nodup) (h : ∀ t ∈ texts, EnumClass.NamesMember (endpoint ++ "_" ++ field) t)
    (hname : EnumClass.nameFault? (endpoint ++ "_" ++ field) = none) :
    ∃ lacks, classOf (.text endpoint) (.text field) (some (.list (texts.map .text))) =
      .ok ⟨endpoint ++ "_" ++ field, texts.map fun t => (t, t), lacks⟩ := by
  obtain ⟨lacks, -, hclass⟩ := EnumClass.of_texts_eq_ok hd h hname
  have hshown : ∀ texts : List String, (texts.map Value.text).findSome? (·.unplain?) = none := by
    intro texts
    rw [List.findSome?_eq_none_iff]
    simp [Value.unplain?, Value.unquoted?]
  cases texts with
  | nil => exact absurd rfl hne
  | cons t rest =>
    refine ⟨lacks, ?_⟩
    have hmembers : ((t :: rest).map Value.text).map (fun v => (v.plain, v.plain)) =
        (t :: rest).map fun t => (t, t) := by simp
    have hshown' := hshown (t :: rest)
    rw [List.map_cons] at hmembers hshown'
    have hmade : classWith (endpoint ++ "_" ++ field) ((t :: rest).map fun t => (t, t)) =
        .ok ⟨endpoint ++ "_" ++ field, (t :: rest).map fun t => (t, t), lacks⟩ := by
      rw [classWith, hclass]
    simp only [List.map_cons, classOf, Option.map_some, Value.opened, className,
      Value.uninserted?_text, Value.plain_text, hshown', hmembers]
    exact hmade

/-! ## Fields of classes -/

/-- Steps that succeed for every item with a result that is related to it give related results. -/
theorem Outcome.exists_mapM {f : α → Outcome β} {R : α → β → Prop} {as : List α}
    (h : ∀ a ∈ as, ∃ b, f a = .ok b ∧ R a b) :
    ∃ bs, as.mapM f = .ok bs ∧ List.Forall₂ R as bs := by
  induction as with
  | nil => exact ⟨[], rfl, .nil⟩
  | cons a rest ih =>
    obtain ⟨⟨b, hb, hab⟩, hrest⟩ := List.forall_mem_cons.mp h
    obtain ⟨bs, hbs, hall⟩ := ih hrest
    exact ⟨b :: bs, by rw [List.mapM_cons, hb, hbs]; rfl, .cons hab hall⟩

private theorem Outcome.mapM_eq_ok {f : α → Outcome β} {g : α → β} {as : List α}
    (h : ∀ a ∈ as, f a = .ok (g a)) : as.mapM f = .ok (as.map g) := by
  obtain ⟨bs, hbs, hall⟩ : ∃ bs, as.mapM f = .ok bs ∧ List.Forall₂ (fun a b => g a = b) as bs :=
    exists_mapM fun a ha => ⟨g a, h a ha, rfl⟩
  have hsame : as.map g = bs := by
    rw [← List.forall₂_eq_eq_eq]
    exact List.forall₂_map_left_iff.mpr hall
  rw [hbs, hsame]

namespace ListedField

/-- Fields of different names are added one behind the other. -/
theorem foldl_add (done : List ListedField) {listed : List ListedField}
    (h : ((done ++ listed).map name).Nodup) :
    listed.foldl add done = done ++ listed := by
  induction listed generalizing done with
  | nil => simp
  | cons f rest ih =>
    have hsplit : done ++ f :: rest = (done ++ [f]) ++ rest := by simp
    have hnew : (done.any fun g => g.name = f.name) = false := by
      rw [List.any_eq_false]
      intro g hg hsame
      rw [List.map_append, List.map_cons, List.nodup_append] at h
      exact h.2.2 g.name (List.mem_map_of_mem hg) f.name List.mem_cons_self (by simpa using hsame)
    rw [List.foldl_cons, add, hnew, if_neg (by simp), hsplit]
    rw [hsplit] at h
    exact ih _ h

/-- A field that a class can have as it is listed. -/
structure Plain (library : ClassLibrary) (f : ListedField) : Prop where
  /-- Its name makes a field. -/
  shown : f.isHidden = false
  /-- Its name is not that of the settings of a class. -/
  own : f.name ≠ "model_config"
  /-- Its name hides no part that may not be hidden. -/
  unguarded : f.name ∉ library.guarded
  /-- Values can be checked for its shape. -/
  checkable : f.own.field.shape.isCheckable = true
  /-- It has no bounds. -/
  unbounded : f.own.field.least = none ∧ f.own.field.most = none

/-- The field that a class makes of a listed one: without a default it has as its default what every
class of the sort has under its name. -/
def madeIn (sort : ClassSort) (library : ClassLibrary) (f : ListedField) : ClassField :=
  { f.own with
    field := { f.own.field with fallback := f.own.field.fallback.or (sort.part? library f.name) } }

/-- A class makes fields of different names in their order. -/
theorem fieldsOf_eq_ok {sort : ClassSort} {library : ClassLibrary} {listed : List ListedField}
    (hd : (listed.map name).Nodup) (h : ∀ f ∈ listed, f.Plain library) :
    fieldsOf sort listed library = .ok (listed.map (madeIn sort library)) := by
  have hown : (listed.any fun f => f.name = "model_config") = false := by
    simpa using fun f hf => (h f hf).own
  have hhidden : (listed.any fun f => f.isHidden && f.madeAnew) = false := by
    rw [List.any_eq_false]
    intro f hf
    simp [(h f hf).shown]
  have hguarded : (listed.any fun f => library.guarded.contains f.name) = false := by
    simpa using fun f hf => (h f hf).unguarded
  have hshown : listed.filter (!·.isHidden) = listed :=
    List.filter_eq_self.mpr fun f hf => by simp [(h f hf).shown]
  unfold fieldsOf
  simp only [foldl_add [] hd, List.nil_append, hown, hhidden, hshown, hguarded,
    Bool.false_eq_true, if_false]
  refine Outcome.mapM_eq_ok fun f hf => ?_
  obtain ⟨hleast, hmost⟩ := (h f hf).unbounded
  have hcheckable := (h f hf).checkable
  obtain ⟨⟨⟨n, shape, fallback, least, most⟩, markers⟩, madeAnew⟩ := f
  obtain rfl : least = none := hleast
  obtain rfl : most = none := hmost
  cases fallback <;> simp only [bounded, madeIn, hcheckable] <;> rfl

end ListedField

/-! ## The form of a class -/

/-- The shape of a field of a described type. -/
def DescribedType.shape : DescribedType → Outcome Shape
  | .string => .ok .text
  | .integer => .ok .integer
  | .float => .ok .float
  | .boolean => .ok .boolean
  | .date => .ok .moment
  | .dateOnly => .ok .date
  | .enum className texts =>
    (Document.classWith className (texts.map fun t => (t, t))).map Shape.enumeration
  | .payload s => .ok s

/-- A default of a shape: for a class of texts a member, for any other shape the value itself. -/
def Shape.default (s : Shape) (v : Value) : Value :=
  match s with
  | .enumeration c => ((v.asText?.bind c.find?).map Value.member).getD v
  | _ => v

/-- The shape of a field that declares a parameter whose values have the given shape. -/
def DescribedParameter.taken (p : DescribedParameter) (s : Shape) : Shape :=
  if p.optional then Shape.oneOf [s, .null] else s

/-- The field of a class that declares a parameter. -/
def DescribedParameter.listed (p : DescribedParameter) : Outcome ListedField := do
  let shape ← p.type.shape
  pure ⟨⟨⟨p.name, p.taken shape, p.fallback.map shape.default, none, none⟩, [p.marker]⟩, false⟩

/-- Declares an endpoint as a contract class, with a library of classes beneath it. -/
def EndpointDescription.declare (d : EndpointDescription) (library : ClassLibrary := .usual) :
    Declaring EndpointSchema := do
  let listed ← Declaring.lift (d.parameters.mapM (·.listed))
  let fields ← Declaring.lift (ListedField.fieldsOf .contract listed library)
  let key ← Declaring.fresh
  Declaring.addContract ⟨RecordTag.of key d.name none fields, fields, none⟩
  declareEndpoint ⟨.text d.method, .text d.path, .plain .null, none, true, d.streaming⟩ (some key)

/-! ## The form of a document -/

/-- The text of a type in a document; a question mark says that values may be left out. -/
def ParamType.documentText (t : ParamType) (optional : Bool) : String :=
  t.name ++ if optional then "?" else ""

namespace DescribedParameter

/-- The text of the type of a parameter in a document. -/
def typeText (p : DescribedParameter) : String := p.type.paramType.documentText p.optional

/-- The entries of a parameter in a document. -/
def entries (p : DescribedParameter) : Values :=
  [(.text "type", .text p.typeText), (.text "role", .text p.role.name)] ++
    (p.wireName.map fun w => (Value.text "name", Value.text w)).toList ++
      (p.fallback.map fun v => (Value.text "default", v)).toList ++
        match p.type with
        | .enum _ texts => [(.text "values", .list (texts.map .text))]
        | _ => []

end DescribedParameter

namespace EndpointDescription

/-- The entries of an endpoint in a document. -/
def entries (d : EndpointDescription) : Values :=
  [(.text "method", .text d.method), (.text "path", .text d.path),
    (.text "stream", .bool d.streaming),
    (.text "params", .map (d.parameters.map fun p => (.text p.name, .map p.entries)))]

/-- The document with the endpoint alone. -/
def document (d : EndpointDescription) : Value :=
  .map [(.text "endpoints", .map [(.text d.name, .map d.entries)])]

end EndpointDescription

/-! ## Descriptions that both forms can say -/

/-- A type of parameters with the given default that both forms can say; the document makes a class
of texts of the given name. -/
def DescribedType.Sayable (documentName : String) (optional : Bool) (fallback : Option Value) :
    DescribedType → Prop
  | .enum className texts =>
    texts ≠ [] ∧ texts.Nodup ∧
      (∀ name ∈ [className, documentName],
        EnumClass.nameFault? name = none ∧ ∀ t ∈ texts, EnumClass.NamesMember name t) ∧
        ∀ v, fallback = some v → v = .null ∨ ∃ t ∈ texts, v = .text t
  | .payload s =>
    s.paramType = .json ∧ s.isCheckable = true ∧ s.isNull = false ∧ s.withoutNull? = none ∧
      (optional = true → s.options = [s])
  | _ => True

/-- A parameter that both forms can say. -/
structure DescribedParameter.Sayable (library : ClassLibrary) (endpoint : String)
    (p : DescribedParameter) : Prop where
  /-- Its name makes a field of a class. -/
  shown : p.name.toList.head? ≠ some '_'
  /-- It is not the name of the settings of a class. -/
  own : p.name ≠ "model_config"
  /-- It hides no part of a class that may not be hidden. -/
  unguarded : p.name ∉ library.guarded
  /-- Only queries have other names on the wire. -/
  renamed : p.role ≠ .query → p.wireName = none
  /-- Both forms can say its type. -/
  type : p.type.Sayable (endpoint ++ "_" ++ p.name) p.optional p.fallback

/-- A description that both forms can say. -/
structure EndpointDescription.Sayable (library : ClassLibrary) (d : EndpointDescription) :
    Prop where
  /-- A class can have its name. -/
  named : EnumClass.nameFault? d.name = none
  /-- Both forms can say the parameters. -/
  parameters : ∀ p ∈ d.parameters, p.Sayable library d.name
  /-- The parameters have different names. -/
  apart : (d.parameters.map (·.name)).Nodup

/-! ## Both forms realize the description -/

/-- A default of a shape is the same text. -/
theorem Shape.raw_default (s : Shape) (v : Value) : (s.default v).raw = v.raw := by
  cases s with
  | enumeration c =>
    simp only [Shape.default]
    cases hfound : v.asText?.bind c.find? with
    | none => rfl
    | some m =>
      obtain ⟨t, ht, hm⟩ := Option.bind_eq_some_iff.mp hfound
      rw [Option.map_some, Option.getD_some, Value.raw, (EnumClass.find?_eq_some hm).2.1]
      cases v with
      | text t' => exact congrArg Value.text (Option.some.inj ht).symm
      | member m' => exact congrArg Value.text (Option.some.inj ht).symm
      | _ => cases ht
  | _ => rfl

namespace DescribedParameter

variable {library : ClassLibrary} {p : DescribedParameter} {endpoint : String}

/-- The default of a field of a class, which may be what every class has under its name. -/
def classFallback (library : ClassLibrary) (p : DescribedParameter) : Option Value :=
  p.fallback.or (ClassSort.contract.part? library p.name)

/-- Values that may be left out have the type of the others, and they can be checked as well. -/
theorem taken_spec {s : Shape} (hsingle : p.optional = true → s.options = [s])
    (hnull : s.isNull = false) (hwithout : s.withoutNull? = none) :
    (p.taken s).isCheckable = s.isCheckable ∧
      FieldType.of (.shape (p.taken s)) = .ok ⟨s.paramType, p.optional, .shape s⟩ := by
  unfold taken
  cases hoptional : p.optional with
  | false =>
    refine ⟨rfl, ?_⟩
    rw [if_neg (by simp), FieldType.of, hwithout]
  | true =>
    have hsame : Shape.null.same s = false := by cases s <;> first | rfl | cases hnull
    have hunion : Shape.oneOf [s, .null] = .union [s, .null] := by
      have hoptions : Shape.null.options = [.null] := rfl
      simp [Shape.oneOf, hsingle hoptional, hoptions, hsame]
    have hinner : (Shape.union [s, .null]).withoutNull? = some s := by
      rw [Shape.withoutNull?, hnull]
      rfl
    rw [if_pos rfl, hunion]
    refine ⟨by simp [Shape.isCheckable, Shape.areCheckable], ?_⟩
    rw [FieldType.of, hinner]

/-- A type that both forms can say has a shape, whose values can be checked. -/
theorem Sayable.exists_shape (h : p.Sayable library endpoint) :
    ∃ s, p.type.shape = .ok s ∧ (p.taken s).isCheckable = true ∧
      FieldType.of (.shape (p.taken s)) = .ok ⟨p.type.paramType, p.optional, .shape s⟩ := by
  have hsay := h.type
  cases htype : p.type with
  | enum className texts =>
    rw [htype] at hsay
    obtain ⟨-, hd, hnames, -⟩ := hsay
    obtain ⟨hname, hmembers⟩ := hnames className List.mem_cons_self
    obtain ⟨lacks, hlookup, hclass⟩ := EnumClass.of_texts_eq_ok hd hmembers hname
    obtain ⟨hcheckable, hof⟩ := p.taken_spec
      (s := .enumeration ⟨className, texts.map fun t => (t, t), lacks⟩) (fun _ => rfl) rfl rfl
    refine ⟨_, ?_, hcheckable.trans (by simpa [Shape.isCheckable] using hlookup), hof⟩
    rw [DescribedType.shape, Document.classWith, hclass]
    rfl
  | payload s =>
    rw [htype] at hsay
    obtain ⟨hjson, hs, hnull, hwithout, hsingle⟩ := hsay
    obtain ⟨hcheckable, hof⟩ := taken_spec hsingle hnull hwithout
    exact ⟨s, rfl, hcheckable.trans hs, by rw [hof, hjson, DescribedType.paramType]⟩
  | _ =>
    refine ⟨_, rfl, ?_⟩
    exact p.taken_spec (fun _ => rfl) rfl rfl

/-- A parameter that both forms can say is a field of a class, which realizes it with the default
that the class gives it. -/
theorem Sayable.exists_listed (h : p.Sayable library endpoint) :
    ∃ f, p.listed = .ok f ∧ f.name = p.name ∧ f.Plain library ∧
      p.Realizes (p.classFallback library)
        ⟨.text (f.madeIn .contract library).field.name,
          .shape (f.madeIn .contract library).field.shape, (f.madeIn .contract library).markers,
          (f.madeIn .contract library).field.fallback⟩ := by
  obtain ⟨s, hs, hcheckable, hof⟩ := h.exists_shape
  refine ⟨⟨⟨⟨p.name, p.taken s, p.fallback.map s.default, none, none⟩, [p.marker]⟩, false⟩, ?_, rfl,
    ?_, ?_⟩
  · rw [listed, hs]
    rfl
  · refine ⟨?_, h.own, h.unguarded, hcheckable, rfl, rfl⟩
    exact decide_eq_false h.shown
  · refine ⟨rfl, rfl, ⟨_, hof⟩, ?_⟩
    simp only [ListedField.madeIn, ListedField.name, classFallback]
    cases p.fallback with
    | none => rfl
    | some v => exact congrArg some (s.raw_default v)

end DescribedParameter

/-! ### Entries of a document -/

namespace ParamType

private theorem ofName?_documentText {t : ParamType} (h : t ≠ .enum) (optional : Bool) :
    FieldType.ofName? (t.documentText optional) = some ⟨t, optional, .plain .null⟩ := by
  cases t <;> cases optional <;> first | rfl | exact absurd rfl h

private theorem isEnumName_documentText (t : ParamType) (optional : Bool) :
    Document.isEnumName (t.documentText optional) = decide (t = .enum) := by
  cases t <;> cases optional <;> rfl

private theorem getLast?_documentText (t : ParamType) (optional : Bool) :
    (t.documentText optional).toList.getLast? = some '?' ↔ optional = true := by
  cases t <;> cases optional <;> decide

end ParamType

namespace DescribedParameter

open Document (under?)

variable {library : ClassLibrary} {p : DescribedParameter} {endpoint : String}

@[simp] theorem under?_type (p : DescribedParameter) :
    under? "type" p.entries = some (.text p.typeText) := rfl

@[simp] theorem under?_role (p : DescribedParameter) :
    under? "role" p.entries = some (.text p.role.name) := rfl

@[simp] theorem under?_name (p : DescribedParameter) :
    under? "name" p.entries = p.wireName.map .text := by
  unfold under? lookupKey entries
  cases p.wireName <;> cases p.fallback <;> cases p.type <;> rfl

@[simp] theorem under?_default (p : DescribedParameter) :
    under? "default" p.entries = p.fallback := by
  unfold under? lookupKey entries
  cases p.wireName <;> cases p.fallback <;> cases p.type <;> rfl

@[simp] theorem under?_values {className : String} {texts : List String}
    (h : p.type = .enum className texts) :
    under? "values" p.entries = some (.list (texts.map .text)) := by
  unfold under? lookupKey entries
  rw [h]
  cases p.wireName <;> cases p.fallback <;> rfl

private theorem markerOf_entries (p : DescribedParameter) (endpoint name : Value) :
    Document.markerOf endpoint name (.text p.role.name) p.entries = .ok p.marker := by
  rw [Document.markerOf, under?_name, marker]
  cases p.role <;> rfl

/-- The field that is read from the entries of a parameter. -/
theorem fieldOf_entries (hrenamed : p.role ≠ .query → p.wireName = none) (endpoint : Value) :
    Document.fieldOf endpoint (.text p.name) (.map p.entries) =
      if Document.isEnumName p.typeText then do
        let c ← Document.classOf endpoint (.text p.name) (under? "values" p.entries)
        let fallback ← Document.memberDefault c endpoint (.text p.name) p.fallback
        let shape := if p.typeText.toList.getLast? = some '?' then .union [.enumeration c, .null]
          else .enumeration c
        pure ⟨.text p.name, .shape shape, [p.marker], fallback⟩
      else .ok ⟨.text p.name, .plain (.text p.typeText), [p.marker], p.fallback⟩ := by
  have hname : ¬(((p.wireName.map Value.text).getD .null).isTruthy &&
      decide ((Value.text p.role.name).asText? ≠ some "query")) = true := by
    cases hrole : p.role with
    | query => simp [Value.asText?, Role.name]
    | _ => simp [hrenamed (by simp [hrole]), Value.isTruthy]
  rw [Document.fieldOf]
  simp only [Value.opened, Document.fieldOfEntries, under?_role, under?_name, under?_type,
    under?_default, Option.getD_some, markerOf_entries]
  exact if_neg hname

/-- A parameter that both forms can say is an entry of a document, which realizes it. -/
theorem Sayable.exists_field (h : p.Sayable library endpoint) :
    ∃ f, Document.fieldOf (.text endpoint) (.text p.name) (.map p.entries) = .ok f ∧
      p.Realizes p.fallback f := by
  rw [fieldOf_entries h.renamed, typeText, ParamType.isEnumName_documentText]
  have hsay := h.type
  by_cases henum : p.type.paramType = .enum
  · rw [henum]
    cases htype : p.type with
    | enum className texts =>
      rw [htype] at hsay
      obtain ⟨hne, hd, hnames, hfallback⟩ := hsay
      obtain ⟨hname, hmembers⟩ := hnames (endpoint ++ "_" ++ p.name) (by simp)
      obtain ⟨lacks, hclass⟩ := Document.classOf_texts hne hd hmembers hname
      obtain ⟨fallback, hmember, hraw⟩ : ∃ fallback,
          Document.memberDefault ⟨endpoint ++ "_" ++ p.name, texts.map fun t => (t, t), lacks⟩
            (.text endpoint) (.text p.name) p.fallback = .ok fallback ∧
          fallback.map Value.raw = p.fallback.map Value.raw := by
        cases hv : p.fallback with
        | none => exact ⟨none, rfl, rfl⟩
        | some v =>
          rcases hfallback v hv with rfl | ⟨t, ht, rfl⟩
          · exact ⟨some .null, rfl, rfl⟩
          · obtain ⟨m, hm⟩ := EnumClass.exists_find? (c := ⟨endpoint ++ "_" ++ p.name,
              texts.map fun t => (t, t), lacks⟩) (List.mem_map_of_mem ht)
            obtain ⟨-, rfl, -⟩ := EnumClass.find?_eq_some hm
            refine ⟨some (.member m), ?_, rfl⟩
            simp only [Document.memberDefault, Value.asText?, Option.bind_some, hm]
      rw [under?_values htype, hclass]
      refine ⟨⟨.text p.name,
        .shape (if p.optional = true then
            .union
              [.enumeration ⟨endpoint ++ "_" ++ p.name, texts.map fun t => (t, t), lacks⟩, .null]
          else .enumeration ⟨endpoint ++ "_" ++ p.name, texts.map fun t => (t, t), lacks⟩),
        [p.marker], fallback⟩, ?_, rfl, rfl, ?_, hraw⟩
      · rw [if_pos (decide_eq_true rfl)]
        simp only [Bind.bind, Except.bind, hmember, ParamType.getLast?_documentText]
        rfl
      · rw [henum]
        cases p.optional <;> exact ⟨_, rfl⟩
    | _ => simp [htype, DescribedType.paramType] at henum
  · refine ⟨⟨.text p.name, .plain (.text p.typeText), [p.marker], p.fallback⟩, ?_, rfl, rfl,
      ⟨.plain .null, ?_⟩, rfl⟩
    · rw [decide_eq_false henum, if_neg (by simp)]
      rfl
    · simp only [FieldType.of, Value.asText?, typeText, ParamType.ofName?_documentText henum]

end DescribedParameter

/-! ### Declaring the class -/

namespace Declaring

private theorem run_bind_alone {r : Registry} {key : Nat} {entry : ContractEntry}
    {d : EndpointDeclaration} (hentry : r.contract? key = some entry)
    (hd : entry.declaration = some d) : ((bind key none).run.run r).1 = d.extract none := by
  unfold bind
  simp only [run_bind, run_pure, run_get, hentry, Option.bind_some, hd, run_lift]
  cases d.extract none with
  | error f => rfl
  | ok e => simp only [run_onContract, hentry]

end Declaring

namespace EndpointDescription

variable {library : ClassLibrary} {d : EndpointDescription}

/-- What is given with the declaration of the class. -/
def arguments (d : EndpointDescription) : EndpointArguments :=
  ⟨.text d.method, .text d.path, .plain .null, none, true, d.streaming⟩

/-- The class with its fields, known by a key. -/
def classOf (d : EndpointDescription) (key : Nat) (fields : List ClassField) : ContractClass :=
  ⟨RecordTag.of key d.name none fields, fields, none⟩

/-- Declaring the class extracts its declaration, when it names a method. -/
theorem run_declare {listed : List ListedField} {fields : List ClassField}
    (hlisted : d.parameters.mapM (·.listed) = .ok listed)
    (hfields : ListedField.fieldsOf .contract listed library = .ok fields) (r : Registry) :
    ((d.declare library).run.run r).1 = Method.ofValue (.text d.method) >>= fun method =>
      (d.arguments.declarationOf method (d.classOf r.nextKey fields)).extract none := by
  unfold declare declareEndpoint
  simp only [Declaring.run_bind, hlisted, hfields, Declaring.run_lift, Declaring.run_fresh]
  cases hmethod : Method.ofValue (.text d.method) with
  | error f => rfl
  | ok method =>
    have hentry : (({ r with nextKey := r.nextKey + 1 } : Registry).setContract r.nextKey
        ⟨d.classOf r.nextKey fields, none, none⟩).contract? r.nextKey =
          some ⟨d.classOf r.nextKey fields, none, none⟩ := by
      rw [Registry.contract?_setContract, if_pos rfl]
    have hadd : (Declaring.addContract (d.classOf r.nextKey fields)).run.run
        { r with nextKey := r.nextKey + 1 } = (.ok (),
          ({ r with nextKey := r.nextKey + 1 } : Registry).setContract r.nextKey
            ⟨d.classOf r.nextKey fields, none, none⟩) := rfl
    simp only [classOf] at hadd hentry
    simp only [hadd, Value.asText?, Option.isNone_some, Bool.false_eq_true, if_false,
      Declaring.run_bind, Declaring.run_get, Option.bind_some, hentry, Option.map_some,
      Declaring.run_onContract]
    exact Declaring.run_bind_alone (by rw [Registry.contract?_setContract, if_pos rfl]) rfl

/-- A class that can be declared has fields that realize the parameters. -/
theorem Sayable.exists_fields (h : d.Sayable library) :
    ∃ listed fields, d.parameters.mapM (·.listed) = .ok listed ∧
      ListedField.fieldsOf .contract listed library = .ok fields ∧
      ∀ key, List.Forall₂ (fun p f => p.Realizes (p.classFallback library) f) d.parameters
        (d.classOf key fields).declaredFields := by
  obtain ⟨listed, hlisted, hall⟩ :=
    Outcome.exists_mapM fun p hp => (h.parameters p hp).exists_listed
  refine ⟨listed, listed.map (ListedField.madeIn .contract library), hlisted,
    ListedField.fieldsOf_eq_ok ?_ fun f hf => ?_, fun key => ?_⟩
  · have hnames : listed.map ListedField.name = d.parameters.map (·.name) := by
      clear hlisted
      generalize d.parameters = parameters at hall
      induction hall with
      | nil => rfl
      | cons hp _ ih => rw [List.map_cons, List.map_cons, hp.1, ih]
    rw [hnames]
    exact h.apart
  · obtain ⟨p, -, -, hplain, -⟩ := exists_mem_of_forall₂ hall hf
    exact hplain
  · rw [ContractClass.declaredFields, classOf, List.map_map, List.forall₂_map_right_iff]
    exact hall.imp fun _ _ hp => hp.2.2

/-- A declaration of the class realizes the description. -/
theorem realizes_declarationOf {fields : List ClassField} {key : Nat} {method : Method}
    (hfields : List.Forall₂ (fun p f => p.Realizes (p.classFallback library) f) d.parameters
      (d.classOf key fields).declaredFields)
    (hmethod : Method.ofName? (Text.upper d.method) = some method) :
    d.Realizes (·.classFallback library)
      (d.arguments.declarationOf method (d.classOf key fields)) where
  method := by
    have hupper : Method.ofName? (Text.upper method.name) = some method := by
      cases method <;> rfl
    exact ⟨method.name, rfl, hupper.trans hmethod.symm⟩
  path := rfl
  fields := hfields
  streaming := rfl
  checkPath := rfl
  resolver := rfl

private theorem ofValue_text (s : String) {m : Method} :
    Method.ofValue (.text s) = .ok m ↔ Method.ofName? (Text.upper s) = some m := by
  simp only [Method.ofValue, Value.asText?, Option.bind_some]
  cases Method.ofName? (Text.upper s) <;> simp

/-- The class is accepted exactly when the description is sound with the defaults of its fields, and
then gives what is described. -/
theorem Sayable.declare_spec (h : d.Sayable library) (r : Registry) :
    ((∃ e, ((d.declare library).run.run r).1 = .ok e) ↔ d.Accepts (·.classFallback library)) ∧
      ∀ e, ((d.declare library).run.run r).1 = .ok e → d.Gives (·.classFallback library) e := by
  obtain ⟨listed, fields, hlisted, hfields, hall⟩ := h.exists_fields
  rw [run_declare hlisted hfields r]
  cases hmethod : Method.ofName? (Text.upper d.method) with
  | none =>
    have hfail : ∀ e, (Method.ofValue (.text d.method) >>= fun method =>
        (d.arguments.declarationOf method (d.classOf r.nextKey fields)).extract none) ≠ .ok e := by
      intro e he
      obtain ⟨m, hm, -⟩ := Outcome.bind_eq_ok.mp he
      rw [ofValue_text, hmethod] at hm
      cases hm
    refine ⟨iff_of_false (fun ⟨e, he⟩ => hfail e he) fun haccepts => ?_, fun e he =>
      absurd he (hfail e)⟩
    obtain ⟨m, hm⟩ := haccepts.method
    rw [hmethod] at hm
    cases hm
  | some m =>
    rw [(ofValue_text d.method).mpr hmethod]
    have hrealizes := realizes_declarationOf (hall r.nextKey) hmethod
    exact ⟨hrealizes.accepts_iff, fun e he => hrealizes.gives he⟩

/-! ### Loading the document -/

/-- The declaration that is read from the document realizes the description. -/
theorem Sayable.exists_declaration (h : d.Sayable library) :
    ∃ D, Document.endpointOf (.text d.name) (.map d.entries) = .ok D ∧
      d.Realizes (·.fallback) D := by
  have hentries : Document.section? "params" d.entries =
      .ok (d.parameters.map fun p => (Value.text p.name, Value.map p.entries)) := rfl
  obtain ⟨fields, hfields, hall⟩ :=
    Outcome.exists_mapM fun p hp => (h.parameters p hp).exists_field
  refine ⟨⟨.text d.name, .text d.method, .text d.path, fields, .plain .null, d.streaming, true,
    none⟩, ?_, ⟨d.method, rfl, rfl⟩, rfl, hall, rfl, rfl, rfl⟩
  have hmapped : (d.parameters.map fun p => (Value.text p.name, Value.map p.entries)).mapM
      (fun p => Document.fieldOf (.text d.name) p.1 p.2) = .ok fields := by
    rw [List.mapM_map]
    exact hfields
  have hmethod : Document.under? "method" d.entries = some (.text d.method) := rfl
  simp only [Document.endpointOf, Value.opened, hmethod, hentries, Bind.bind, Except.bind, hmapped]
  rfl

/-- The document is accepted exactly when the description is sound, and then holds the endpoint that
is described and nothing else. -/
theorem Sayable.document_spec (h : d.Sayable library) :
    ((∃ doc, Document.ofValue d.document = .ok doc) ↔ d.Accepts (·.fallback)) ∧
      ∀ doc, Document.ofValue d.document = .ok doc →
        ∃ e, doc = ⟨[], [e]⟩ ∧ d.Gives (·.fallback) e := by
  obtain ⟨D, hD, hrealizes⟩ := h.exists_declaration
  have hload : Document.ofValue d.document = D.extract none >>= fun e => .ok ⟨[], [e]⟩ := by
    have hgroups : Document.section? "groups"
        [(.text "endpoints", .map [(.text d.name, .map d.entries)])] = .ok [] := rfl
    have hendpoints : Document.section? "endpoints"
        [(.text "endpoints", .map [(.text d.name, .map d.entries)])] =
          .ok [(.text d.name, .map d.entries)] := rfl
    simp only [Document.ofValue, document, Value.opened, hgroups, hendpoints, Bind.bind,
      Except.bind, Document.groupsFrom, List.mapM_cons, List.mapM_nil, hD]
    cases D.extract none <;> rfl
  rw [← hrealizes.accepts_iff, hload]
  constructor
  · constructor
    · rintro ⟨doc, hdoc⟩
      obtain ⟨e, he, -⟩ := Outcome.bind_eq_ok.mp hdoc
      exact ⟨e, he⟩
    · rintro ⟨e, he⟩
      exact ⟨_, by rw [he]; rfl⟩
  · intro doc hdoc
    obtain ⟨e, he, hdoc⟩ := Outcome.bind_eq_ok.mp hdoc
    exact ⟨e, (Except.ok.inj hdoc).symm, hrealizes.gives he⟩

end EndpointDescription

/-! ## Both forms agree -/

/-- What every class has under the name of a parameter that is given no default. -/
def DescribedParameter.inherited? (library : ClassLibrary) (p : DescribedParameter) :
    Option Value :=
  if p.fallback.isSome then none else ClassSort.contract.part? library p.name

/-- Two endpoints are the same but for the defaults of their parameters and the classes that stand
behind their types. -/
structure EndpointSchema.Agrees (e e' : EndpointSchema) : Prop where
  /-- They have one method. -/
  method : e.method = e'.method
  /-- They have one path. -/
  ownPath : e.ownPath = e'.ownPath
  /-- They have one template. -/
  pathTemplate : e.pathTemplate = e'.pathTemplate
  /-- They send results in the same way. -/
  streaming : e.streaming = e'.streaming
  /-- Their parameters have the same names, types, roles and names on the wire, and may be left out
  in the same places. -/
  parameters : List.Forall₂ (fun q q' : Parameter => q.name = q'.name ∧ q.type = q'.type ∧
    q.role = q'.role ∧ q.optional = q'.optional ∧ q.wireName = q'.wireName)
      e.parameters e'.parameters

/-- The defaults of an endpoint, members of classes as texts. -/
def EndpointSchema.defaults (e : EndpointSchema) : List (Option Value) :=
  e.parameters.map fun q => q.fallback.map Value.raw

/-- A library of classes gives every class functions, methods and the like: none of its parts is the
absent value or a member of a class of texts. -/
def ClassLibrary.IsOrdinary (library : ClassLibrary) : Prop :=
  ∀ name part, library.part? name = some part → part.isNull = false ∧ part.raw = part

private theorem forall_part_of_lookup {parts : List (String × Value)}
    (h : ∀ part ∈ parts, part.2.isNull = false ∧ part.2.raw = part.2) {name : String} {v : Value}
    (hv : parts.lookup name = some v) : v.isNull = false ∧ v.raw = v := by
  obtain ⟨before, after, hsplit, -⟩ := List.lookup_eq_some_iff.mp hv
  exact h (name, v) (by simp [hsplit])

/-- The usual library is ordinary. -/
theorem ClassLibrary.isOrdinary_usual : ClassLibrary.usual.IsOrdinary := by
  refine fun name part => forall_part_of_lookup ?_
  simp [Value.isNull, Value.raw]

/-- So is what the classes of inputs have. -/
theorem ClassSort.part?_spec {library : ClassLibrary} (h : library.IsOrdinary) {name : String}
    {v : Value} (hv : ClassSort.contract.part? library name = some v) :
    v.isNull = false ∧ v.raw = v := by
  rcases Option.or_eq_some_iff.mp hv with hown | ⟨-, hshared⟩
  · refine forall_part_of_lookup ?_ hown
    simp [contractParts, Value.isNull, Value.raw]
  · exact h name v hshared

namespace DescribedParameter

variable {library : ClassLibrary} {p : DescribedParameter}

/-- A parameter is sound with the default of a class exactly when it is with its own and inherits
none outside the query. -/
theorem accepts_classFallback_iff (hlibrary : library.IsOrdinary) :
    p.Accepts (p.classFallback library) ↔
      p.Accepts p.fallback ∧ ((p.inherited? library).isSome = true → p.role = .query) := by
  cases hfallback : p.fallback with
  | some v => simp [classFallback, inherited?, hfallback]
  | none =>
    simp only [classFallback, inherited?, hfallback, Option.none_or, Option.isSome_none,
      Bool.false_eq_true, if_false]
    constructor
    · refine fun haccepts => ⟨⟨haccepts.payload, by simp⟩, fun hinherits => ?_⟩
      obtain ⟨v, hv⟩ := Option.isSome_iff_exists.mp hinherits
      by_contra hquery
      obtain ⟨hnull, -⟩ := haccepts.fallback hquery v hv
      rw [(ClassSort.part?_spec hlibrary hv).1] at hnull
      cases hnull
    · rintro ⟨haccepts, hinherits⟩
      exact ⟨haccepts.payload, fun hquery v hv =>
        absurd (hinherits (Option.isSome_iff_exists.mpr ⟨v, hv⟩)) hquery⟩

/-- The default of a class that counts is the parameter's own exactly when it inherits none. -/
theorem effective_classFallback_iff (hlibrary : library.IsOrdinary) :
    p.effective (p.classFallback library) = p.effective p.fallback ↔
      p.inherited? library = none := by
  cases hfallback : p.fallback with
  | some v => simp [classFallback, inherited?, hfallback]
  | none =>
    simp only [classFallback, inherited?, hfallback, Option.none_or, Option.isSome_none,
      Bool.false_eq_true, if_false]
    cases hpart : ClassSort.contract.part? library p.name with
    | none => simp
    | some v => simp [effective, Option.filter, (ClassSort.part?_spec hlibrary hpart).1]

end DescribedParameter

namespace EndpointDescription

variable {library : ClassLibrary} {d : EndpointDescription}
  {fallback fallback' : DescribedParameter → Option Value} {e e' : EndpointSchema}

/-- Endpoints that are described alike are the same but for their defaults. -/
theorem Gives.agrees (h : d.Gives fallback e) (h' : d.Gives fallback' e') : e.Agrees e' where
  method := Option.some.inj (h.method.symm.trans h'.method)
  ownPath := h.ownPath.trans h'.ownPath.symm
  pathTemplate := by
    rw [EndpointSchema.pathTemplate, EndpointSchema.path, h.group, h.ownPath,
      EndpointSchema.pathTemplate, EndpointSchema.path, h'.group, h'.ownPath]
  streaming := h.streaming.trans h'.streaming.symm
  parameters := by
    refine forall₂_chain (R := fun q p => DescribedParameter.Gives p (fallback p) q)
      (S := fun p q' => DescribedParameter.Gives p (fallback' p) q') (fun q p q' hq hq' => ?_)
      h.parameters.flip h'.parameters
    exact ⟨hq.name.trans hq'.name.symm, hq.type.trans hq'.type.symm, hq.role.trans hq'.role.symm,
      hq.optional.trans hq'.optional.symm, hq.wireName.trans hq'.wireName.symm⟩

private theorem Gives.defaults (h : d.Gives fallback e) :
    e.defaults = d.parameters.map fun p => p.effective (fallback p) := by
  have hparameters := h.parameters
  rw [EndpointSchema.defaults]
  generalize e.parameters = parameters at hparameters
  generalize d.parameters = described at hparameters
  induction hparameters with
  | nil => rfl
  | cons hq _ ih => rw [List.map_cons, List.map_cons, ih, hq.fallback]

/-- A class with marks is accepted exactly when the document of the same description is, and no
parameter in the path or the body has a name under which every class has something, which would be
its default. When both are accepted they are the same endpoint; its defaults are the same exactly
when no parameter inherits one. -/
theorem forms_agree (hlibrary : library.IsOrdinary) (h : d.Sayable library) (r : Registry) :
    ((∃ e, ((d.declare library).run.run r).1 = .ok e) ↔
      (∃ doc, Document.ofValue d.document = .ok doc) ∧
        ∀ p ∈ d.parameters, (p.inherited? library).isSome = true → p.role = .query) ∧
    ∀ e doc, ((d.declare library).run.run r).1 = .ok e → Document.ofValue d.document = .ok doc →
      ∃ e', doc = ⟨[], [e']⟩ ∧ e.Agrees e' ∧
        (e.defaults = e'.defaults ↔ ∀ p ∈ d.parameters, p.inherited? library = none) := by
  obtain ⟨hclass, hgives⟩ := h.declare_spec r
  obtain ⟨hdocument, hholds⟩ := h.document_spec
  refine ⟨?_, fun e doc he hdoc => ?_⟩
  · rw [hclass, hdocument]
    constructor
    · intro haccepts
      have hsplit := fun p hp =>
        (DescribedParameter.accepts_classFallback_iff hlibrary).mp (haccepts.parameters p hp)
      exact ⟨{ haccepts with parameters := fun p hp => (hsplit p hp).1 },
        fun p hp => (hsplit p hp).2⟩
    · rintro ⟨haccepts, hinherits⟩
      exact { haccepts with
        parameters := fun p hp => (DescribedParameter.accepts_classFallback_iff hlibrary).mpr
          ⟨haccepts.parameters p hp, hinherits p hp⟩ }
  · obtain ⟨e', rfl, he'⟩ := hholds doc hdoc
    refine ⟨e', rfl, (hgives e he).agrees he', ?_⟩
    rw [(hgives e he).defaults, he'.defaults, List.map_inj_left]
    simp only [DescribedParameter.effective_classFallback_iff hlibrary]

/-- An endpoint whose parameters are of every role, with a default and another name on the wire. -/
def searching : EndpointDescription :=
  ⟨"Search", "post", "/:shelf", false,
    [⟨"shelf", .path, none, .integer, false, none⟩,
      ⟨"sort", .query, some "order", .enum "Sort" ["asc", "desc"], false, some (.text "asc")⟩,
      ⟨"after", .query, none, .date, true, some .null⟩,
      ⟨"filter", .body, none, .payload .anyMap, true, none⟩]⟩

/-- Both forms can say it. -/
theorem sayable_searching : searching.Sayable .usual := by
  have hnames : ∀ className ∈ ["Sort", "Search_sort"], EnumClass.nameFault? className = none ∧
      ∀ t ∈ ["asc", "desc"], EnumClass.NamesMember className t := by
    intro className hclass
    fin_cases hclass <;> refine ⟨by decide, fun t ht => ?_⟩ <;> fin_cases ht <;>
      exact ⟨by decide, by decide, rfl, rfl, rfl⟩
  constructor
  case named => decide
  case parameters =>
    simp only [searching, List.forall_mem_cons]
    refine ⟨⟨by decide, by decide, by decide, by simp, trivial⟩,
      ⟨by decide, by decide, by decide, by simp, ?_⟩,
      ⟨by decide, by decide, by decide, by simp, trivial⟩,
      ⟨by decide, by decide, by decide, by simp, rfl, rfl, rfl, rfl, fun _ => rfl⟩,
      List.forall_mem_nil _⟩
    refine ⟨by simp, by decide, hnames, ?_⟩
    rintro v ⟨⟩
    exact .inr ⟨"asc", by simp, rfl⟩
  case apart => decide

/-- It is sound. -/
theorem accepts_searching : searching.Accepts (·.fallback) where
  method := ⟨.post, by cbv⟩
  parameters := by
    simp only [searching, List.forall_mem_cons]
    refine ⟨⟨by decide, by simp⟩, ⟨by decide, by simp⟩, ⟨by decide, by simp⟩,
      ⟨fun _ => rfl, by simp⟩, List.forall_mem_nil _⟩
  bodies := by decide
  queries := by decide
  holes name := by
    have htokens : Template.tokens searching.path = ["shelf"] := by cbv
    rw [htokens]
    simp [searching, eq_comm]

/-- Both forms are accepted, and they are the same endpoint. -/
theorem forms_searching :
    searching.Sayable .usual ∧ ∃ e e', (searching.declare.run.run .empty).1 = .ok e ∧
      Document.ofValue searching.document = .ok ⟨[], [e']⟩ ∧ e.Agrees e' ∧
        e.defaults = e'.defaults := by
  have hagree := forms_agree ClassLibrary.isOrdinary_usual sayable_searching .empty
  have hinherits : ∀ p ∈ searching.parameters, p.inherited? .usual = none := by
    simp only [searching, List.forall_mem_cons]
    exact ⟨rfl, rfl, rfl, rfl, List.forall_mem_nil _⟩
  obtain ⟨doc, hdoc⟩ := sayable_searching.document_spec.1.mpr accepts_searching
  obtain ⟨e, he⟩ := hagree.1.mpr ⟨⟨doc, hdoc⟩, fun p hp hsome => by simp [hinherits p hp] at hsome⟩
  obtain ⟨e', rfl, hsame, hdefaults⟩ := hagree.2 e doc he hdoc
  exact ⟨sayable_searching, e, e', he, hdoc, hsame, hdefaults.mpr hinherits⟩

/-- An endpoint whose path parameter has the name of a part of every class. -/
def streamed : EndpointDescription :=
  ⟨"A", "GET", "/:stream", false, [⟨"stream", .path, none, .string, false, none⟩]⟩

/-- Both forms can say it, and the document is accepted, but the class is refused: the part of the
class counts as the default of its field. -/
theorem not_forms_streamed :
    streamed.Sayable .usual ∧ (∃ doc, Document.ofValue streamed.document = .ok doc) ∧
      (streamed.declare.run.run .empty).1 =
        .error (.refuse (.misplacedDefault (.text "stream"))) := by
  have hsay : streamed.Sayable .usual := by
    refine ⟨by decide, ?_, by decide⟩
    simp only [streamed, List.forall_mem_cons]
    exact ⟨⟨by decide, by decide, by decide, by simp, trivial⟩, List.forall_mem_nil _⟩
  have haccepts : streamed.Accepts (·.fallback) := by
    have htokens : Template.tokens streamed.path = ["stream"] := by cbv
    refine ⟨⟨.get, by cbv⟩, ?_, by decide, by decide, fun name => ?_⟩
    · simp only [streamed, List.forall_mem_cons]
      exact ⟨⟨by decide, by simp⟩, List.forall_mem_nil _⟩
    · rw [htokens]
      simp [streamed, eq_comm]
  exact ⟨hsay, hsay.document_spec.1.mpr haccepts, rfl⟩

end EndpointDescription

end RestContract
