import Mathlib
import RestContract.Value.Basic

/-!
# Entries under names

A key that is a text, or a member that stands for one, is the same key as every other key
with that text and as no other key. Entries under such keys are therefore entries under
names: looking a key up and storing under it are what they are for the texts of the keys.
-/

namespace RestContract

private theorem Number.compare_then_eq_comm (a b : Int) (m n : Nat) :
    ((compare a b).then (compare m n) = .eq) ↔ ((compare b a).then (compare n m) = .eq) := by
  simp only [Ordering.then_eq_eq, Int.compare_eq_eq, Nat.compare_eq_eq]
  exact and_congr eq_comm eq_comm

/-- Whether two unpacked numbers are equal does not depend on their order. -/
theorem Number.unpacked_beq_comm (a b : Float.Model.UnpackedFloat) : a.beq b = b.beq a := by
  cases a with
  | notANumber => cases b <;> rfl
  | infinity s =>
    cases b with
    | infinity t => cases s <;> cases t <;> rfl
    | _ => cases s <;> rfl
  | zero s =>
    cases b with
    | infinity t => cases t <;> rfl
    | finite t m e h => cases t <;> rfl
    | _ => rfl
  | finite s m e h =>
    cases b with
    | infinity t => cases s <;> cases t <;> rfl
    | finite t m' e' h' =>
      have hcomm := Number.compare_then_eq_comm e e' m m'
      have hsame : ∀ o o' : Ordering, (o = .eq ↔ o' = .eq) →
          (some o == some .eq) = (some o' == some .eq) := by
        decide
      cases s with
      | negative =>
        cases t with
        | negative => exact hsame _ _ (by rw [Ordering.swap_eq_eq, Ordering.swap_eq_eq, hcomm])
        | positive => rfl
      | positive =>
        cases t with
        | negative => rfl
        | positive => exact hsame _ _ hcomm
    | _ => cases s <;> rfl

private theorem Number.float_beq_comm (x y : Float) : (x == y) = (y == x) := unpacked_beq_comm _ _

/-- Whether two keys are the same does not depend on their order. -/
theorem Value.sameKey_comm (a b : Value) : a.sameKey b = b.sameKey a := by
  unfold sameKey
  cases ha : a.wholeKey? with
  | some m =>
    cases hb : b.wholeKey? with
    | some n => exact Bool.beq_comm
    | none => rfl
  | none =>
    cases hb : b.wholeKey? with
    | some n => rfl
    | none =>
      cases a <;> cases b <;> simp only [Bool.beq_comm, asText?]
      next x y => rw [Number.float_beq_comm, Bool.and_comm]

private theorem Number.unpacked_beq_self {a b : Float.Model.UnpackedFloat} (h : a.beq b = true) :
    b.beq b = true := by
  cases b with
  | notANumber => cases a <;> cases h
  | infinity s => cases s <;> rfl
  | zero s => rfl
  | finite s m e hm =>
    cases s with
    | negative => simp [Float.Model.UnpackedFloat.beq, Float.Model.UnpackedFloat.compare]
    | positive => simp [Float.Model.UnpackedFloat.beq, Float.Model.UnpackedFloat.compare]

private theorem Number.float_beq_self {x y : Float} (h : (x == y) = true) :
    (y == y) = true :=
  unpacked_beq_self h

/-- A key that is the same as another one is the same as itself. -/
theorem Value.sameKey_self {a b : Value} (h : a.sameKey b = true) : b.sameKey b = true := by
  unfold sameKey at h ⊢
  cases hb : b.wholeKey? with
  | some n => exact beq_self_eq_true n
  | none =>
    rw [hb] at h
    cases ha : a.wholeKey? with
    | some m => simp [ha] at h
    | none =>
      rw [ha] at h
      cases b with
      | float y =>
        cases a with
        | float x =>
          simp only [Bool.or_eq_true, Bool.and_eq_true, and_self] at h ⊢
          exact h.imp Number.float_beq_self And.right
        | _ => exact absurd h (by simp [asText?])
      | _ => cases a <;> simp [asText?] at h ⊢

/-- A key that is found is the same as itself. -/
theorem Value.sameKey_self_of_lookupKey {key : Value} {entries : List (Value × α)} {value : α}
    (h : lookupKey key entries = some value) : key.sameKey key = true := by
  obtain ⟨e, he, -⟩ := Option.map_eq_some_iff.mp h
  have hsame : e.1.sameKey key = true := by simpa using List.find?_some he
  exact sameKey_self hsame

/-- A key is the same as a text exactly when it has that text. -/
theorem Value.sameKey_text_iff {s : String} {v : Value} :
    (Value.text s).sameKey v = true ↔ v.asText? = some s := by
  cases v with
  | text t => rw [sameKey_text, beq_iff_eq, asText?, Option.some.injEq, eq_comm]
  | member m =>
    change (s == m.value) = true ↔ some m.value = some s
    rw [beq_iff_eq, Option.some.injEq, eq_comm]
  | float x =>
    refine iff_of_false ?_ (by simp [asText?])
    unfold sameKey
    cases h : (Value.float x).wholeKey? <;> simp [wholeKey?, asText?]
  | _ => exact iff_of_false (by exact Bool.false_ne_true) (by simp [asText?])

private theorem Value.sameKey_member (m : EnumMember) (v : Value) :
    (Value.member m).sameKey v = (Value.text m.value).sameKey v := by
  cases v <;> rfl

/-- A key with a text is the same as another key exactly when that has the same text. -/
theorem Value.sameKey_of_asText? {a b : Value} {s : String} (h : a.asText? = some s) :
    a.sameKey b = true ↔ b.asText? = some s := by
  cases a with
  | text t =>
    obtain rfl := Option.some.inj h
    exact sameKey_text_iff
  | member m =>
    obtain rfl := Option.some.inj h
    rw [sameKey_member, sameKey_text_iff]
  | _ => simp [asText?] at h

/-- The entries by the texts of their keys, when all keys have one. -/
def named? (entries : List (Value × α)) : Option (List (String × α)) :=
  entries.mapM fun e => e.1.asText?.map fun name => (name, e.2)

@[simp] theorem named?_nil : named? ([] : List (Value × α)) = some [] := rfl

/-- Entries have names when the first one and the others have. -/
theorem named?_cons {e : Value × α} {rest : List (Value × α)} {named : List (String × α)} :
    named? (e :: rest) = some named ↔
      ∃ name others, e.1.asText? = some name ∧ named? rest = some others ∧
        named = (name, e.2) :: others := by
  cases he : e.1.asText? <;>
    cases hr : rest.mapM fun e => e.1.asText?.map fun name => (name, e.2) <;>
    simp [named?, he, hr, eq_comm]

/-- Entries under texts have those texts as names. -/
theorem named?_text (entries : List (String × α)) :
    named? (entries.map fun e => (Value.text e.1, e.2)) = some entries := by
  induction entries with
  | nil => rfl
  | cons e rest ih => exact named?_cons.mpr ⟨e.1, rest, rfl, ih, rfl⟩

/-- Every named entry is one of the entries. -/
theorem mem_of_named? {entries : List (Value × α)} {named : List (String × α)}
    (h : named? entries = some named) {v : String × α} (hv : v ∈ named) :
    ∃ e ∈ entries, e.2 = v.2 := by
  induction entries generalizing named with
  | nil =>
    obtain rfl := Option.some.inj h
    cases hv
  | cons e rest ih =>
    obtain ⟨name, others, -, hr, rfl⟩ := named?_cons.mp h
    rcases List.mem_cons.mp hv with rfl | hv
    · exact ⟨e, List.mem_cons_self, rfl⟩
    · obtain ⟨e', he', hsame⟩ := ih hr hv
      exact ⟨e', List.mem_cons_of_mem _ he', hsame⟩

/-- A key is looked up by its text. -/
theorem lookupKey_named {entries : List (Value × α)} {named : List (String × α)}
    (h : named? entries = some named) (key : Value) :
    lookupKey key entries = key.asText?.bind fun name => named.lookup name := by
  induction entries generalizing named with
  | nil =>
    obtain rfl := Option.some.inj h
    cases key.asText? <;> rfl
  | cons e rest ih =>
    obtain ⟨name, others, he, hr, rfl⟩ := named?_cons.mp h
    have hrest := ih hr
    have hsame := Value.sameKey_of_asText? (b := key) he
    unfold lookupKey at hrest ⊢
    by_cases hk : key.asText? = some name
    · rw [List.find?_cons, hsame.mpr hk, hk]
      simp
    · rw [List.find?_cons, Bool.eq_false_iff.mpr fun hs => hk (hsame.mp hs), hrest]
      cases hkey : key.asText? with
      | none => rfl
      | some other =>
        have hne : (other == name) = false := by simpa [hkey] using hk
        simp [List.lookup, hne]

/-- Keys with one text lead to the same. -/
theorem lookupKey_congr {a b : Value} {name : String} (ha : a.asText? = some name)
    (hb : b.asText? = some name) (entries : List (Value × α)) :
    lookupKey a entries = lookupKey b entries := by
  have hsame : ∀ e ∈ entries, e.1.sameKey a = e.1.sameKey b := by
    intro e _
    rw [Value.sameKey_comm, Value.sameKey_comm e.1, Bool.eq_iff_iff, Value.sameKey_of_asText? ha,
      Value.sameKey_of_asText? hb]
  rw [lookupKey, lookupKey, List.find?_congr hsame]

theorem storeKey_cons_of_same {e : Value × α} {key : Value} (h : e.1.sameKey key = true)
    (value : α) (rest : List (Value × α)) :
    storeKey key value (e :: rest) = (e.1, value) :: rest := if_pos h

theorem storeKey_cons_of_other {e : Value × α} {key : Value} (h : ¬e.1.sameKey key = true)
    (value : α) (rest : List (Value × α)) :
    storeKey key value (e :: rest) = e :: storeKey key value rest := if_neg h

/-- Storing under a key is storing under its text. -/
theorem storeKey_named {entries : List (Value × α)} {named : List (String × α)}
    (h : named? entries = some named) {key : Value} {name : String} (hk : key.asText? = some name)
    (value : α) : named? (storeKey key value entries) = some (storeName name value named) := by
  induction entries generalizing named with
  | nil =>
    obtain rfl := Option.some.inj h
    exact named?_cons.mpr ⟨name, [], hk, rfl, rfl⟩
  | cons e rest ih =>
    obtain ⟨other, others, he, hr, rfl⟩ := named?_cons.mp h
    have hsame := Value.sameKey_of_asText? (b := key) he
    rw [hk, Option.some.injEq] at hsame
    by_cases ho : name = other
    · rw [storeKey_cons_of_same (hsame.mpr ho), storeName, if_pos ho.symm]
      exact named?_cons.mpr ⟨other, others, he, hr, rfl⟩
    · rw [storeKey_cons_of_other fun hs => ho (hsame.mp hs), storeName, if_neg (Ne.symm ho)]
      exact named?_cons.mpr ⟨other, _, he, ih hr, rfl⟩

/-- Storing under a name makes it a name and keeps the others. -/
theorem mem_map_storeName {entries : List (String × α)} {name other : String} {value : α} :
    other ∈ (storeName name value entries).map (·.1) ↔ other = name ∨
      other ∈ entries.map (·.1) := by
  induction entries with
  | nil => simp [storeName]
  | cons e rest ih =>
    by_cases he : e.1 = name
    · rw [storeName, if_pos he, List.map_cons, List.map_cons, List.mem_cons, ← he]
      simp
    · rw [storeName, if_neg he, List.map_cons, List.map_cons, List.mem_cons, ih, List.mem_cons]
      exact or_left_comm

/-- Texts stored under a name are the stored one and old ones. -/
theorem mem_storeName {entries : List (String × α)} {name : String} {value : α} {e : String × α}
    (h : e ∈ storeName name value entries) : e.2 = value ∨ e ∈ entries := by
  induction entries with
  | nil =>
    rw [storeName, List.mem_singleton] at h
    exact Or.inl (h ▸ rfl)
  | cons d rest ih =>
    by_cases hd : d.1 = name
    · rw [storeName, if_pos hd, List.mem_cons] at h
      rcases h with rfl | h
      · exact Or.inl rfl
      · exact Or.inr (List.mem_cons_of_mem _ h)
    · rw [storeName, if_neg hd, List.mem_cons] at h
      rcases h with rfl | h
      · exact Or.inr List.mem_cons_self
      · exact (ih h).imp_right (List.mem_cons_of_mem _)

/-- Storing keeps the names apart. -/
theorem nodup_storeName {entries : List (String × α)} (h : (entries.map (·.1)).Nodup)
    (name : String) (value : α) : ((storeName name value entries).map (·.1)).Nodup := by
  induction entries with
  | nil => simp [storeName]
  | cons e rest ih =>
    obtain ⟨hnot, hrest⟩ := List.nodup_cons.mp h
    by_cases he : e.1 = name
    · rwa [storeName, if_pos he]
    · rw [storeName, if_neg he]
      refine List.nodup_cons.mpr ⟨fun hm => ?_, ih hrest⟩
      rcases mem_map_storeName.mp hm with h | h
      · exact he h
      · exact hnot h

/-- Where names are apart every entry is found under its name. -/
theorem lookup_of_mem {entries : List (String × α)} (h : (entries.map (·.1)).Nodup) {e : String × α}
    (he : e ∈ entries) : entries.lookup e.1 = some e.2 := by
  induction entries with
  | nil => simp at he
  | cons d rest ih =>
    obtain ⟨hnot, hrest⟩ := List.nodup_cons.mp h
    rcases List.mem_cons.mp he with rfl | he
    · exact List.lookup_cons_self
    · have hne : (e.1 == d.1) = false := by
        rw [beq_eq_false_iff_ne]
        intro heq
        exact hnot (List.mem_map.mpr ⟨e, he, heq⟩)
      rw [List.lookup, hne]
      exact ih hrest he

/-- An entry that is found is there. -/
theorem mem_of_lookup {entries : List (String × α)} {name : String} {value : α}
    (h : entries.lookup name = some value) : (name, value) ∈ entries := by
  induction entries with
  | nil => simp at h
  | cons d rest ih =>
    by_cases hd : name = d.1
    · subst hd
      rw [List.lookup_cons_self, Option.some.injEq] at h
      exact h ▸ List.mem_cons_self
    · have hne : (name == d.1) = false := by simpa using hd
      rw [List.lookup, hne] at h
      exact List.mem_cons_of_mem _ (ih h)

/-- Exactly the names that are there lead to something. -/
theorem isSome_lookup_iff {entries : List (String × α)} {name : String} :
    (entries.lookup name).isSome = true ↔ name ∈ entries.map (·.1) := by
  constructor
  · intro h
    obtain ⟨value, hv⟩ := Option.isSome_iff_exists.mp h
    exact List.mem_map.mpr ⟨_, mem_of_lookup hv, rfl⟩
  · intro h
    induction entries with
    | nil => simp at h
    | cons e rest ih =>
      by_cases he : name = e.1
      · subst he
        rw [List.lookup_cons_self]
        rfl
      · have hne : (name == e.1) = false := by simpa using he
        rw [List.lookup, hne]
        exact ih ((List.mem_cons.mp h).resolve_left he)

/-- A key that is not there yet is stored at the end. -/
theorem storeKey_of_new {entries : List (Value × α)} {key : Value}
    (h : ∀ e ∈ entries, e.1.sameKey key = false) (value : α) :
    storeKey key value entries = entries ++ [(key, value)] := by
  induction entries with
  | nil => rfl
  | cons e rest ih =>
    have hne : ¬e.1.sameKey key = true := by simp [h e List.mem_cons_self]
    rw [storeKey_cons_of_other hne, ih fun d hd => h d (List.mem_cons_of_mem _ hd),
      List.cons_append]

/-- Entries of which no key stands twice are merged as they are. -/
theorem mergeKeys_of_pairwise {entries : List (Value × α)}
    (h : entries.Pairwise fun a b => a.1.sameKey b.1 = false) : mergeKeys entries = entries := by
  have hfold : ∀ before after : List (Value × α),
      (before ++ after).Pairwise (fun a b => a.1.sameKey b.1 = false) →
      after.foldl (fun merged e => storeKey e.1 e.2 merged) before = before ++ after := by
    intro before after hd
    induction after generalizing before with
    | nil => simp
    | cons e rest ih =>
      have hnew : ∀ d ∈ before, d.1.sameKey e.1 = false := fun d hmem =>
        (List.pairwise_append.mp hd).2.2 d hmem e List.mem_cons_self
      have hstep := ih (before ++ [e]) (by simpa using hd)
      rw [List.foldl_cons, storeKey_of_new hnew]
      simpa using hstep
  exact hfold [] entries h

/-- The entries of some items under their keys; an item without content has none. -/
def gather (key : β → Value) (content? : β → Option α) (items : List β) : List (Value × α) :=
  items.filterMap fun b => (content? b).map fun c => (key b, c)

section

variable {key : β → Value} {content? : β → Option α} {items : List β}

private theorem exists_key_of_mem_gather {e : Value × α} (h : e ∈ gather key content? items) :
    ∃ b ∈ items, e.1 = key b := by
  obtain ⟨b, hb, he⟩ := List.mem_filterMap.mp h
  obtain ⟨c, -, rfl⟩ := Option.map_eq_some_iff.mp he
  exact ⟨b, hb, rfl⟩

/-- Where keys are apart the content of every item is found under its key. -/
theorem lookupKey_gather (hd : items.Pairwise fun a b => (key a).sameKey (key b) = false)
    {b : β} (hb : b ∈ items) (hr : (key b).sameKey (key b) = true) :
    lookupKey (key b) (gather key content? items) = content? b := by
  induction items with
  | nil => simp at hb
  | cons a rest ih =>
    obtain ⟨hfirst, hrest⟩ := List.pairwise_cons.mp hd
    have htail := ih hrest
    have hcons : gather key content? (a :: rest) =
        ((content? a).map fun c => (key a, c)).toList ++ gather key content? rest := by
      rw [gather, List.filterMap_cons, gather]
      cases content? a <;> rfl
    rw [hcons, lookupKey, List.find?_append]
    rcases List.mem_cons.mp hb with rfl | hb
    · cases hc : content? b with
      | some c => simp [hr]
      | none =>
        have hnone : (gather key content? rest).find? (fun e => e.1.sameKey (key b)) = none := by
          refine List.find?_eq_none.mpr fun e he => ?_
          obtain ⟨c, hcr, hec⟩ := exists_key_of_mem_gather he
          rw [hec, Value.sameKey_comm, hfirst c hcr]
          exact Bool.false_ne_true
        simp [hnone]
    · rw [← htail hb, lookupKey]
      cases content? a with
      | none => rfl
      | some c => simp [hfirst b hb]

/-- Going through items that each store their content under their own key gathers the contents. -/
theorem foldlM_gather {step : List (Value × α) → β → Except ε (List (Value × α))}
    (hs : ∀ b ∈ items, ∀ entries,
      step entries b = .ok ((content? b).elim entries fun c => storeKey (key b) c entries))
    (hd : items.Pairwise fun a b => (key a).sameKey (key b) = false) {start : List (Value × α)}
    (hn : ∀ e ∈ start, ∀ b ∈ items, e.1.sameKey (key b) = false) :
    items.foldlM step start = .ok (start ++ gather key content? items) := by
  induction items generalizing start with
  | nil =>
    rw [gather, List.filterMap_nil, List.append_nil]
    rfl
  | cons a rest ih =>
    obtain ⟨hfirst, hrest⟩ := List.pairwise_cons.mp hd
    have hs' : ∀ b ∈ rest, ∀ entries, _ := fun b hb => hs b (List.mem_cons_of_mem _ hb)
    rw [List.foldlM_cons, hs a List.mem_cons_self]
    cases hc : content? a with
    | none =>
      have hgather : gather key content? (a :: rest) = gather key content? rest := by
        rw [gather, List.filterMap_cons, hc]
        rfl
      rw [hgather]
      exact ih hs' hrest fun e he b hb => hn e he b (List.mem_cons_of_mem _ hb)
    | some c =>
      have hgather : gather key content? (a :: rest) = (key a, c) :: gather key content? rest := by
        rw [gather, List.filterMap_cons, hc]
        rfl
      have hnew := storeKey_of_new (fun e he => hn e he a List.mem_cons_self) c
      rw [hgather, List.append_cons, ← hnew]
      refine ih hs' hrest fun e he b hb => ?_
      rw [Option.elim_some, hnew, List.mem_append, List.mem_singleton] at he
      rcases he with he | rfl
      · exact hn e he b (List.mem_cons_of_mem _ hb)
      · exact hfirst b hb

/-- Where keys are apart nothing is found under the key of an item without content. -/
theorem lookupKey_gather_of_none (hd : items.Pairwise fun a b => (key a).sameKey (key b) = false)
    {b : β} (hb : b ∈ items) (hnone : content? b = none) :
    lookupKey (key b) (gather key content? items) = none := by
  cases hfound : lookupKey (key b) (gather key content? items) with
  | none => rfl
  | some c =>
    have hself := Value.sameKey_self_of_lookupKey hfound
    rw [← hfound, lookupKey_gather hd hb hself, hnone]

end

/-! ## Steps that can fail -/

section

variable {key : β → Value} {items : List β} {content : β → Except ε (Option α)}
  {step : List (Value × α) → β → Except ε (List (Value × α))}

/-- Going through items that each store their content, if they have one, succeeds exactly when every
item tells its content. -/
theorem exists_foldlM_store_iff
    (hs : ∀ b ∈ items, ∀ entries, step entries b =
      (content b).map fun c? => c?.elim entries fun c => storeKey (key b) c entries)
    {start : List (Value × α)} :
    (∃ entries, items.foldlM step start = .ok entries) ↔ ∀ b ∈ items, ∃ c?, content b = .ok c? := by
  induction items generalizing start with
  | nil => exact iff_of_true ⟨start, rfl⟩ (by simp)
  | cons b rest ih =>
    rw [List.foldlM_cons, hs b List.mem_cons_self, List.forall_mem_cons]
    cases hc : content b with
    | error f =>
      refine iff_of_false ?_ (by simp)
      rintro ⟨entries, h⟩
      cases h
    | ok c? =>
      have hrest := fun c hc => hs c (List.mem_cons_of_mem b hc)
      refine Iff.trans (ih hrest) ?_
      simp

/-- It stops with the error of the first item that does not tell its content. -/
theorem foldlM_store_eq_error_iff
    (hs : ∀ b ∈ items, ∀ entries, step entries b =
      (content b).map fun c? => c?.elim entries fun c => storeKey (key b) c entries)
    {start : List (Value × α)} {f : ε} :
    items.foldlM step start = .error f ↔ ∃ before b after, items = before ++ b :: after ∧
      (∀ a ∈ before, ∃ c?, content a = .ok c?) ∧ content b = .error f := by
  induction items generalizing start with
  | nil => simp [pure, Except.pure]
  | cons b rest ih =>
    rw [List.foldlM_cons, hs b List.mem_cons_self]
    have hrest := fun c hc => hs c (List.mem_cons_of_mem b hc)
    cases hc : content b with
    | error fault =>
      change Except.error fault = Except.error f ↔ _
      constructor
      · intro h
        exact ⟨[], b, rest, rfl, nofun, Except.error.inj h ▸ hc⟩
      · rintro ⟨before, first, after, hsplit, hbefore, hfirst⟩
        -- The first item has no content, so none can be in front of the one that fails.
        cases before with
        | nil =>
          obtain ⟨rfl, -⟩ := List.cons.inj hsplit
          exact congrArg Except.error (Except.error.inj (hc.symm.trans hfirst))
        | cons a before =>
          obtain ⟨rfl, -⟩ := List.cons.inj hsplit
          obtain ⟨c?, hok⟩ := hbefore b List.mem_cons_self
          cases hc.symm.trans hok
    | ok c? =>
      refine Iff.trans (ih hrest) ?_
      constructor
      · rintro ⟨before, first, after, rfl, hbefore, hfirst⟩
        exact ⟨b :: before, first, after, rfl, List.forall_mem_cons.mpr ⟨⟨c?, hc⟩, hbefore⟩, hfirst⟩
      · rintro ⟨before, first, after, hsplit, hbefore, hfirst⟩
        cases before with
        | nil =>
          obtain ⟨rfl, -⟩ := List.cons.inj hsplit
          cases hc.symm.trans hfirst
        | cons a before =>
          obtain ⟨rfl, rfl⟩ := List.cons.inj hsplit
          exact ⟨before, first, after, rfl, (List.forall_mem_cons.mp hbefore).2, hfirst⟩

/-- Where keys are apart it gathers the contents. -/
theorem eq_gather_of_foldlM
    (hs : ∀ b ∈ items, ∀ entries, step entries b =
      (content b).map fun c? => c?.elim entries fun c => storeKey (key b) c entries)
    (hd : items.Pairwise fun a b => (key a).sameKey (key b) = false) {entries : List (Value × α)}
    (h : items.foldlM step [] = .ok entries) :
    entries = gather key (fun b => (content b).toOption.join) items := by
  have hall := (exists_foldlM_store_iff hs).mp ⟨entries, h⟩
  have hgather : items.foldlM step [] =
      .ok ([] ++ gather key (fun b => (content b).toOption.join) items) := by
    refine foldlM_gather (fun b hb entries => ?_) hd nofun
    obtain ⟨c?, hc⟩ := hall b hb
    rw [hs b hb, hc]
    rfl
  rw [h] at hgather
  exact Except.ok.inj hgather

end

/-- Storing keeps the keys in their order; a new one comes last. -/
theorem map_fst_storeKey (key : Value) (value : α) (entries : List (Value × α)) :
    (storeKey key value entries).map (·.1) = entries.map (·.1) ∨
      (storeKey key value entries).map (·.1) = entries.map (·.1) ++ [key] := by
  induction entries with
  | nil => exact .inr rfl
  | cons e rest ih =>
    by_cases he : e.1.sameKey key = true
    · rw [storeKey_cons_of_same he]
      exact .inl rfl
    · rw [storeKey_cons_of_other he]
      simp only [List.map_cons, List.cons_append, List.cons.injEq, true_and]
      exact ih

/-- Going through items that each store their content, if they have one, leaves keys of items in the
order of the items. -/
theorem sublist_foldlM_store {key : β → Value} {items : List β}
    {content : β → Except ε (Option α)} {step : List (Value × α) → β → Except ε (List (Value × α))}
    (hs : ∀ b ∈ items, ∀ entries, step entries b =
      (content b).map fun c? => c?.elim entries fun c => storeKey (key b) c entries)
    {start entries : List (Value × α)} (h : items.foldlM step start = .ok entries) :
    (entries.map (·.1)).Sublist (start.map (·.1) ++ items.map key) := by
  induction items generalizing start with
  | nil =>
    obtain rfl := Except.ok.inj h
    simp
  | cons b rest ih =>
    rw [List.foldlM_cons, hs b List.mem_cons_self] at h
    have hrest := @ih fun c hc => hs c (List.mem_cons_of_mem b hc)
    cases hc : content b with
    | error f =>
      rw [hc] at h
      cases h
    | ok c? =>
      rw [hc] at h
      have hnext : ((c?.elim start fun c => storeKey (key b) c start).map (·.1)).Sublist
          (start.map (·.1) ++ [key b]) := by
        cases c? with
        | none => exact List.sublist_append_left _ _
        | some c =>
          obtain hkeys | hkeys := map_fst_storeKey (key b) c start
          · exact hkeys ▸ List.sublist_append_left _ _
          · exact hkeys ▸ List.Sublist.refl _
      have hall := (hrest h).trans (hnext.append_right _)
      rwa [List.append_assoc, List.singleton_append, ← List.map_cons] at hall

/-- What is stored under a text is found under it, and nothing else is under another text. -/
theorem lookupKey_storeKey_text (name other : String) (value : α) (entries : List (Value × α)) :
    lookupKey (.text other) (storeKey (.text name) value entries) =
      if other = name then some value else lookupKey (.text other) entries := by
  have hsame : ∀ (e : Value × α) (name : String),
      e.1.sameKey (.text name) = true ↔ e.1.asText? = some name := by
    intro e name
    rw [Value.sameKey_comm, Value.sameKey_text_iff]
  unfold lookupKey
  induction entries with
  | nil =>
    by_cases ho : other = name
    · simp [storeKey, ho]
    · simp [storeKey, ho, Ne.symm ho]
  | cons e rest ih =>
    by_cases he : e.1.asText? = some name
    · rw [storeKey_cons_of_same ((hsame e name).mpr he)]
      by_cases ho : other = name
      · simp [ho, (hsame e name).mpr he]
      · have hne : e.1.sameKey (.text other) = false := by
          rw [Bool.eq_false_iff, Ne, hsame, he, Option.some.injEq]
          exact Ne.symm ho
        simp [ho, hne]
    · rw [storeKey_cons_of_other fun h => he ((hsame e name).mp h)]
      cases hother : e.1.sameKey (.text other) with
      | true =>
        have hne : other ≠ name := by
          rintro rfl
          exact he ((hsame e other).mp hother)
        simp [hother, hne]
      | false => simp only [List.find?_cons, hother, ih]

/-- Where items of one name have one content, going through them leaves that content under the
name, even if the name stands several times. -/
theorem lookupKey_foldlM_store {name : β → String} {items : List β}
    {content : β → Except ε (Option α)}
    {step : List (Value × α) → β → Except ε (List (Value × α))}
    (hs : ∀ b ∈ items, ∀ entries, step entries b = (content b).map fun c? =>
      c?.elim entries fun c => storeKey (.text (name b)) c entries) {other : String} {c? : Option α}
    (hc : ∀ b ∈ items, name b = other → content b = .ok c?) {start entries : List (Value × α)}
    (h : items.foldlM step start = .ok entries) :
    lookupKey (.text other) entries =
      if items.any fun b => name b = other then c?.or (lookupKey (.text other) start)
      else lookupKey (.text other) start := by
  induction items generalizing start with
  | nil =>
    obtain rfl := Except.ok.inj h
    rfl
  | cons b rest ih =>
    rw [List.foldlM_cons, hs b List.mem_cons_self] at h
    have hrest := @ih (fun c hm => hs c (List.mem_cons_of_mem _ hm))
      (fun c hm => hc c (List.mem_cons_of_mem _ hm))
    cases hcontent : content b with
    | error f =>
      rw [hcontent] at h
      cases h
    | ok content? =>
      rw [hcontent] at h
      rw [hrest h, List.any_cons]
      by_cases hname : name b = other
      · obtain rfl : content? = c? :=
          Except.ok.inj (hcontent.symm.trans (hc b List.mem_cons_self hname))
        cases content? <;> simp [hname, lookupKey_storeKey_text]
      · cases content? <;> simp [hname, Ne.symm hname, lookupKey_storeKey_text]

/-- Two lists of entries are the same mapping when every key leads to the same in both. -/
def SameMapping (entries others : List (Value × α)) : Prop :=
  ∀ key, lookupKey key entries = lookupKey key others

/-- Entries under names are the same mapping when every name leads to the same in both. -/
theorem sameMapping_iff_of_named {entries others : List (Value × α)}
    {named namedOthers : List (String × α)}
    (h : named? entries = some named) (ho : named? others = some namedOthers) :
    SameMapping entries others ↔ ∀ name, named.lookup name = namedOthers.lookup name := by
  constructor
  · intro hs name
    have := hs (.text name)
    rwa [lookupKey_named h, lookupKey_named ho] at this
  · intro hs key
    rw [lookupKey_named h, lookupKey_named ho]
    cases key.asText? with
    | none => rfl
    | some name => exact hs name

end RestContract
