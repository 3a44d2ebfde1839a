import RestContract.Proofs.Keys
import RestContract.Proofs.Template.Resolving

/-!
# Which holes a resolved template fills

Resolving looks for given names behind colons, and not for the names of holes. So a hole
whose name is given holds the text of that name, and a hole whose name begins with no
given name is left as it stands, but a hole whose name merely begins with a given one is
filled with the text of that one, and what is left of its name stays behind. Resolving is
the substitution of whole names exactly where no hole is of the last kind.
-/

namespace RestContract.Template

/-- What a hole holds where whole names are substituted: the text of its name if that is given, and
its own mark otherwise. -/
def substituted (values : List (String × String)) (name : String) : List Char :=
  ((values.lookup name).map String.toList).getD (mark name)

/-- A template in which whole names are substituted. -/
def substitute (template : String) (values : List (String × String)) : String :=
  String.ofList (spread (substituted values) (pieces template.toList))

/-- No hole of a template begins with a name of a list, unless its own name is in the list. -/
def KeepsNames (names : List String) (template : String) : Prop :=
  ∀ hole ∈ tokens template, hole ∉ names → ∀ name ∈ names, ¬name.toList <+: hole.toList

instance (names : List String) (template : String) : Decidable (KeepsNames names template) :=
  inferInstanceAs (Decidable (∀ hole ∈ tokens template, _))

/-- What a hole holds after the given texts were put into a template. -/
inductive Holds (values : List (String × String)) (hole : String) : List Char → Prop
  /-- The text of its name. -/
  | whole {text : String} (given : values.lookup hole = some text) : Holds values hole text.toList
  /-- The text of the longest given name with which its name begins, and the rest of its name. -/
  | part {v : String × String} (ungiven : values.lookup hole = none) (mem : v ∈ values)
    (begins : v.1.toList <+: hole.toList)
    (longest : ∀ w ∈ values, w.1.toList <+: hole.toList → w.1.length ≤ v.1.length) :
    Holds values hole (v.2.toList ++ hole.toList.drop v.1.length)
  /-- Its own mark. -/
  | none (free : ∀ v ∈ values, ¬v.1.toList <+: hole.toList) : Holds values hole (mark hole)

section

variable {values : List (String × String)}

/-- A hole whose name is given holds the text of that name. -/
theorem filled_of_lookup (hd : (values.map (·.1)).Nodup) {hole text : String}
    (h : values.lookup hole = some text) : filled values hole = text.toList := by
  obtain ⟨v, hv, rfl, hfilled⟩ := filled_of_given ⟨_, mem_of_lookup h, rfl⟩
  rw [lookup_of_mem hd hv] at h
  rw [hfilled, Option.some.inj h]

/-- A hole whose name begins with a given name holds the text of the longest one, and the rest of
its name. -/
theorem exists_longest {hole : String} {u : String × String} (hu : u ∈ values)
    (hbegins : u.1.toList <+: hole.toList) :
    ∃ v ∈ values, v.1.toList <+: hole.toList ∧
      (∀ w ∈ values, w.1.toList <+: hole.toList → w.1.length ≤ v.1.length) ∧
      filled values hole = v.2.toList ++ hole.toList.drop v.1.length := by
  obtain ⟨v, hv⟩ := exists_nameAt? hu hbegins
  obtain ⟨hmem, hbegin, hlongest⟩ := nameAt?_longest hv
  exact ⟨v, hmem, hbegin, hlongest, by rw [filled, hv]⟩

/-- Every hole holds one of the three. -/
theorem holds_filled (hd : (values.map (·.1)).Nodup) (hole : String) :
    Holds values hole (filled values hole) := by
  cases hgiven : values.lookup hole with
  | some text =>
    rw [filled_of_lookup hd hgiven]
    exact .whole hgiven
  | none =>
    by_cases hfree : ∀ v ∈ values, ¬v.1.toList <+: hole.toList
    · have hmark := filled_of_not_prefix hfree
      rw [hmark]
      exact .none hfree
    · push Not at hfree
      obtain ⟨u, hu, hbegins⟩ := hfree
      obtain ⟨v, hv, hbegin, hlongest, hfilled⟩ := exists_longest hu hbegins
      rw [hfilled]
      exact .part hgiven hv hbegin hlongest

/-- A name is not found exactly when it is not given. -/
theorem lookup_eq_none_iff {hole : String} :
    values.lookup hole = none ↔ hole ∉ values.map (·.1) := by
  rw [← isSome_lookup_iff, Option.not_isSome_iff_eq_none]

/-- Where no hole begins with a given name but for its own, whole names are substituted. -/
theorem KeepsNames.resolve_eq (hn : ∀ v ∈ values, IsName v.1) (hd : (values.map (·.1)).Nodup)
    {template : String} (h : KeepsNames (values.map (·.1)) template) :
    resolve template values = substitute template values := by
  have hsame : ∀ hole ∈ tokens template, filled values hole = substituted values hole := by
    intro hole hhole
    unfold substituted
    cases hgiven : values.lookup hole with
    | some text => exact filled_of_lookup hd hgiven
    | none =>
      refine filled_of_not_prefix fun v hv => ?_
      exact h hole hhole (lookup_eq_none_iff.mp hgiven) v.1 (List.mem_map_of_mem hv)
  apply String.toList_injective
  rw [substitute, String.toList_ofList, resolve_toList_filled hn, spread_congr hsame]

/-! ## Holes that begin with another name -/

/-- Where all holes hold no more, and one of them holds less, the whole text is shorter. -/
theorem length_spread_lt {f g : String → List Char} {ps : List Piece}
    (hle : ∀ hole ∈ holes ps, (f hole).length ≤ (g hole).length)
    (hlt : ∃ hole ∈ holes ps, (f hole).length < (g hole).length) :
    (spread f ps).length < (spread g ps).length := by
  have hall : ∀ qs : List Piece, (∀ hole ∈ holes qs, (f hole).length ≤ (g hole).length) →
      (spread f qs).length ≤ (spread g qs).length := by
    intro qs hqs
    induction qs with
    | nil => exact Nat.le_refl _
    | cons q qs ih =>
      cases q with
      | char c => exact Nat.succ_le_succ (ih hqs)
      | hole name =>
        have hfirst := hqs name List.mem_cons_self
        have hrest := ih fun hole hm => hqs hole (List.mem_cons_of_mem _ hm)
        simp only [spread_hole, List.length_append]
        omega
  induction ps with
  | nil =>
    obtain ⟨_, hm, -⟩ := hlt
    cases hm
  | cons p ps ih =>
    cases p with
    | char c => exact Nat.succ_lt_succ (ih hle hlt)
    | hole name =>
      have hfirst := hle name List.mem_cons_self
      have hrest := fun hole hm => hle hole (List.mem_cons_of_mem _ hm)
      obtain ⟨hole, hm, hless⟩ := hlt
      simp only [spread_hole, List.length_append]
      rcases List.mem_cons.mp hm with rfl | hm
      · have := hall ps hrest
        omega
      · have := ih hrest ⟨hole, hm, hless⟩
        omega

/-- A hole holds no more than its whole name if no text is given, and less if it begins with another
name. -/
theorem length_filled_le (hd : (values.map (·.1)).Nodup) (hempty : ∀ v ∈ values, v.2 = "")
    (hole : String) : (filled values hole).length ≤ (substituted values hole).length ∧
      (values.lookup hole = none → (∃ v ∈ values, v.1.toList <+: hole.toList) →
        (filled values hole).length < (substituted values hole).length) := by
  unfold substituted
  cases hgiven : values.lookup hole with
  | some text =>
    rw [filled_of_lookup hd hgiven]
    exact ⟨Nat.le_refl _, nofun⟩
  | none =>
    have hless : (∃ v ∈ values, v.1.toList <+: hole.toList) →
        (filled values hole).length < (mark hole).length := by
      rintro ⟨u, hu, hbegins⟩
      obtain ⟨v, hv, -, -, hfilled⟩ := exists_longest hu hbegins
      rw [hfilled, hempty v hv, mark]
      simp only [String.toList_empty, List.nil_append, List.length_drop, List.length_cons]
      omega
    refine ⟨?_, fun _ => hless⟩
    by_cases hbegins : ∃ v ∈ values, v.1.toList <+: hole.toList
    · exact Nat.le_of_lt (hless hbegins)
    · push Not at hbegins
      have hmark := filled_of_not_prefix hbegins
      rw [hmark]
      exact Nat.le_refl _

/-- With empty texts a template with a hole that begins with another name is resolved to less than
the substitution of whole names. -/
theorem resolve_ne_substitute (hn : ∀ v ∈ values, IsName v.1) (hd : (values.map (·.1)).Nodup)
    (hempty : ∀ v ∈ values, v.2 = "") {template : String}
    (h : ¬KeepsNames (values.map (·.1)) template) :
    resolve template values ≠ substitute template values := by
  unfold KeepsNames at h
  push Not at h
  obtain ⟨hole, hhole, hnot, name, hname, hbegins⟩ := h
  obtain ⟨v, hv, rfl⟩ := List.mem_map.mp hname
  have hshorter := length_spread_lt (fun hole _ => (length_filled_le hd hempty hole).1)
    ⟨hole, hhole, (length_filled_le hd hempty hole).2 (lookup_eq_none_iff.mpr hnot)
      ⟨v, hv, hbegins⟩⟩
  intro hsame
  rw [← resolve_toList_filled hn, hsame, substitute, String.toList_ofList] at hshorter
  exact Nat.lt_irrefl _ hshorter

end

/-- Resolving keeps all literal characters and puts into every hole the text of its name, or the
text of the longest given name with which its name begins and the rest of that name, or leaves it
as it stands. It is the substitution of whole names, whatever the texts are, exactly when no hole
begins with a given name but for its own. -/
theorem resolve_substitutes {values : List (String × String)} (hn : ∀ v ∈ values, IsName v.1)
    (hd : (values.map (·.1)).Nodup) (template : String) :
    (∃ held : String → List Char,
      (resolve template values).toList = spread held (pieces template.toList) ∧
        ∀ hole ∈ tokens template, Holds values hole (held hole)) ∧
    ((∀ text : String → String, resolve template (values.map fun v => (v.1, text v.1)) =
        substitute template (values.map fun v => (v.1, text v.1))) ↔
      KeepsNames (values.map (·.1)) template) := by
  have hnames : ∀ text : String → String,
      (values.map fun v => (v.1, text v.1)).map (·.1) = values.map (·.1) := fun text => by
    rw [List.map_map]
    rfl
  have hidentifiers : ∀ text : String → String,
      ∀ v ∈ values.map fun v => (v.1, text v.1), IsName v.1 := by
    intro text v hv
    obtain ⟨w, hw, rfl⟩ := List.mem_map.mp hv
    exact hn w hw
  have hempty : ∀ v ∈ values.map fun v => (v.1, ""), v.2 = "" := by
    intro v hv
    obtain ⟨w, -, rfl⟩ := List.mem_map.mp hv
    rfl
  refine ⟨⟨filled values, resolve_toList_filled hn template, fun hole _ => holds_filled hd hole⟩,
    ?_, ?_⟩
  · intro hall
    by_contra hnot
    have hsame := hnames fun _ => ""
    exact resolve_ne_substitute (hidentifiers fun _ => "") (hsame ▸ hd) hempty (hsame ▸ hnot)
      (hall fun _ => "")
  · intro hkeeps text
    exact KeepsNames.resolve_eq (hidentifiers text) (by rwa [hnames]) (by rwa [hnames])

/-- Names that begin alike, a name that is not given, a colon without a name and a text that looks
like a hole are no trouble as long as every name is given whole. -/
theorem resolve_substitutes_alike :
    (∀ v ∈ [("id", ":idx"), ("idx", "2")], IsName v.1) ∧
      ([("id", ":idx"), ("idx", "2")].map (·.1)).Nodup ∧
      KeepsNames ["id", "idx"] "/:idx/:id/:i/:" ∧
      resolve "/:idx/:id/:i/:" [("id", ":idx"), ("idx", "2")] = "/2/:idx/:i/:" := by
  have hn : ∀ v ∈ [("id", ":idx"), ("idx", "2")], IsName v.1 := by
    simp only [List.forall_mem_cons, List.not_mem_nil, false_implies, implies_true, and_true]
    exact ⟨⟨'i', ['d'], rfl, rfl, rfl⟩, ⟨'i', ['d', 'x'], rfl, rfl, rfl⟩⟩
  have hd : ([("id", ":idx"), ("idx", "2")].map (·.1)).Nodup := by decide
  have hkeeps : KeepsNames ["id", "idx"] "/:idx/:id/:i/:" := by decide +kernel
  have hall := (resolve_substitutes hn hd "/:idx/:id/:i/:").2.mpr hkeeps
    fun name => if name = "id" then ":idx" else "2"
  refine ⟨hn, hd, hkeeps, hall.trans ?_⟩
  decide +kernel

/-- The hole of a longer name is taken for that of a given name with which it begins. -/
theorem not_substitute_longer_hole :
    (∀ v ∈ [("id", "7")], IsName v.1) ∧ ([("id", "7")].map (·.1)).Nodup ∧
      resolve "/:idx" [("id", "7")] = "/7x" ∧ substitute "/:idx" [("id", "7")] = "/:idx" ∧
      resolve "/:idx" [("id", "7")] ≠ substitute "/:idx" [("id", "7")] := by
  have hresolved : resolve "/:idx" [("id", "7")] = "/7x" := by cbv
  have hwhole : substitute "/:idx" [("id", "7")] = "/:idx" := by decide +kernel
  refine ⟨?_, by decide, hresolved, hwhole, by rw [hresolved, hwhole]; decide⟩
  rw [List.forall_mem_singleton]
  exact ⟨'i', ['d'], rfl, rfl, rfl⟩

end RestContract.Template
