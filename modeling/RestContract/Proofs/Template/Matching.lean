import RestContract.Proofs.Request.Url
import RestContract.Proofs.Template.Binding
import RestContract.Proofs.Template.Overlap

/-!
# The one way in which a coded path can match its template

A path is made by filling the holes of a template and coding the whole. A literal character that is
coded as itself is matched by itself; any other is coded as several, of which at most the first one
is matched, and then the literals of the segment run out before its characters do. So if the path
matches the template at all, then every literal of it stood for itself, and each hole holds exactly
the coded text that was put into it.
-/

namespace RestContract.Template

open Percent (escape escapeChar)
open Url (isPathSafe)

/-- No line feed stands in a coded text. -/
theorem feed_notMem_escape (cs : List Char) : '\n' ∉ escape isPathSafe cs := by
  intro hm
  rcases Url.mem_escape hm with hsafe | hfeed
  · exact absurd hsafe (by decide)
  · exact absurd hfeed (by decide)

/-- A character that does not stand for itself is coded as several. -/
theorem escapeChar_eq_cons {c : Char} (h : isPathSafe c = false) :
    ∃ first second rest, escapeChar isPathSafe c = first :: second :: rest := by
  obtain ⟨b, bs, he, -⟩ := Utf8.step_encodeChar c
  have hne : ¬isPathSafe c = true := by simp [h]
  rw [Percent.escapeChar, if_neg hne, he, List.flatMap_cons]
  exact ⟨_, _, _, rfl⟩

/-- What stands before a slash or the end of a text, without slashes itself, is determined. -/
theorem eq_of_append_eq {cs ds more rest : List Char} (hc : '/' ∉ cs) (hd : '/' ∉ ds)
    (hm : more = [] ∨ more.head? = some '/') (hr : rest = [] ∨ rest.head? = some '/')
    (h : cs ++ more = ds ++ rest) : cs = ds ∧ more = rest := by
  have htake : ∀ front back : List Char, '/' ∉ front → (back = [] ∨ back.head? = some '/') →
      (front ++ back).takeWhile (· ≠ '/') = front := by
    intro front back hfront hback
    have hall : ∀ c ∈ front, decide (c ≠ '/') = true := by
      intro c hmem
      rw [decide_eq_true_iff]
      rintro rfl
      exact hfront hmem
    rw [List.takeWhile_append_of_pos hall]
    rcases hback with rfl | hback
    · simp
    · obtain ⟨tail, rfl⟩ := List.head?_eq_some_iff.mp hback
      simp
  have hsame : cs = ds := by rw [← htake cs more hc hm, h, htake ds rest hd hr]
  subst hsame
  exact ⟨rfl, List.append_cancel_left h⟩

/-- A path is coded piece by piece. -/
theorem escape_spread_cons (value : String → List Char) (p : Piece) (ps : List Piece) :
    escape isPathSafe (spread value (p :: ps)) =
      escape isPathSafe (p.fill value) ++ escape isPathSafe (spread value ps) := by
  rw [spread, List.flatMap_cons, Percent.escape, List.flatMap_append]
  rfl

/-- A literal is coded as its character. -/
theorem escape_fill_char (value : String → List Char) (c : Char) :
    escape isPathSafe ((Piece.char c).fill value) = escapeChar isPathSafe c :=
  List.flatMap_singleton _ _

/-- Literals match no text of one segment that goes on where the template would begin. -/
theorem fill?_of_ahead {value : String → List Char} {ps : List Piece} (h : Segmented ps)
    (hstart : ∀ name, ps.head? ≠ some (.hole name)) {ahead : List Char} (hne : ahead ≠ [])
    (hslash : '/' ∉ ahead) (hfeed : '\n' ∉ ahead) :
    fill? ps (ahead ++ escape isPathSafe (spread value ps)) = none := by
  induction ps generalizing ahead with
  | nil =>
    obtain ⟨d, rest, rfl⟩ := List.exists_cons_of_ne_nil hne
    simp only [List.mem_cons, not_or] at hslash hfeed
    simp [fill?, isTail, Ne.symm hslash.1, Ne.symm hfeed.1]
  | cons p ps ih =>
    obtain ⟨d, rest, rfl⟩ := List.exists_cons_of_ne_nil hne
    cases p with
    | hole name => exact absurd rfl (hstart name)
    | char c =>
      rw [List.cons_append, fill?]
      by_cases hc : c = d
      · subst hc
        simp only [List.mem_cons, not_or] at hslash hfeed
        have hcoded := feed_notMem_escape ((Piece.char c).fill value)
        rw [escape_fill_char] at hcoded
        rw [if_pos rfl, escape_spread_cons, escape_fill_char, ← List.append_assoc]
        apply ih h.tail (h.head?_ne_hole (Ne.symm hslash.1))
        · simp [Percent.escapeChar_ne_nil]
        · rw [List.mem_append, not_or]
          exact ⟨hslash.2, Percent.slash_notMem_escapeChar _ (Ne.symm hslash.1)⟩
        · rw [List.mem_append, not_or]
          exact ⟨hfeed.2, hcoded⟩
      · rw [if_neg hc]

/-- What follows a hole matches only behind the whole text of the hole. -/
theorem eq_of_cut {cs rest text left : List Char} {ps : List Piece}
    (hstart : ps = [] ∨ ps.head? = some (.char '/')) (hslash : '/' ∉ cs)
    (hrest : rest = [] ∨ rest.head? = some '/') (htext : '/' ∉ text) (hfeed : '\n' ∉ cs ++ rest)
    (hcut : cs ++ rest = text ++ left) {texts : List (List Char)}
    (hf : fill? ps left = some texts) : text = cs ∧ left = rest := by
  have hleft : left = [] ∨ left.head? = some '/' := by
    rcases hstart with rfl | hstart
    · rw [fill?] at hf
      split at hf
      next htail =>
        rw [hcut] at hfeed
        simp only [isTail, Bool.or_eq_true, decide_eq_true_eq] at htail
        rcases htail with ((rfl | rfl) | rfl) | rfl
        · exact .inl rfl
        · exact .inr rfl
        · simp at hfeed
        · exact .inr rfl
      next => cases hf
    · obtain ⟨qs, rfl⟩ := List.head?_eq_some_iff.mp hstart
      cases left with
      | nil => cases hf
      | cons d left =>
        rw [fill?] at hf
        split at hf
        next hd => exact .inr (congrArg some hd.symm)
        next => cases hf
  exact eq_of_append_eq htext hslash hleft hrest hcut.symm

/-- A coded path that matches its template has in every hole the coded text that was put there. -/
theorem fill?_escape_spread {value : String → List Char} {ps : List Piece} (h : Segmented ps)
    (hv : ∀ name ∈ holes ps, FillsSegment (value name)) {texts : List (List Char)}
    (hf : fill? ps (escape isPathSafe (spread value ps)) = some texts) :
    texts = (holes ps).map fun name => escape isPathSafe (value name) := by
  induction ps generalizing texts with
  | nil => exact (Option.some.inj hf).symm
  | cons p ps ih =>
    cases p with
    | char c =>
      rw [escape_spread_cons, escape_fill_char] at hf
      by_cases hsafe : isPathSafe c = true
      · rw [Percent.escapeChar_safe hsafe, List.singleton_append, fill?, if_pos rfl] at hf
        exact ih h.tail hv hf
      · -- A coded character begins as the literal does, if at all, and then goes on.
        have hne : c ≠ '/' := by
          rintro rfl
          exact hsafe Url.isPathSafe_slash
        obtain ⟨first, second, rest, he⟩ := escapeChar_eq_cons (by simpa using hsafe)
        have hslash : '/' ∉ escapeChar isPathSafe c := Percent.slash_notMem_escapeChar _ hne
        have hfeed := feed_notMem_escape ((Piece.char c).fill value)
        rw [escape_fill_char] at hfeed
        rw [he, List.mem_cons, not_or] at hslash hfeed
        rw [he, List.cons_append, fill?, fill?_of_ahead h.tail (h.head?_ne_hole hne)
          (List.cons_ne_nil _ _) hslash.2 hfeed.2] at hf
        split at hf <;> cases hf
    | hole name =>
      have hfeed := feed_notMem_escape (spread value (.hole name :: ps))
      have hrest : escape isPathSafe (spread value ps) = [] ∨
          (escape isPathSafe (spread value ps)).head? = some '/' := by
        rcases h.after_hole with rfl | hps
        · exact .inl rfl
        · obtain ⟨qs, rfl⟩ := List.head?_eq_some_iff.mp hps
          refine .inr ?_
          rw [escape_spread_cons, escape_fill_char, Percent.escapeChar_safe Url.isPathSafe_slash]
          rfl
      rw [escape_spread_cons] at hf hfeed
      rw [fill?] at hf
      obtain ⟨cut, hmem, hcut⟩ := List.exists_of_findSome?_eq_some hf
      obtain ⟨others, ho, rfl⟩ := Option.map_eq_some_iff.mp hcut
      obtain ⟨hsplit, -, hfree⟩ := segmentCuts_sound hmem
      have hfills := hv name List.mem_cons_self
      obtain ⟨htext, hleft⟩ := eq_of_cut h.after_hole
        (Percent.slash_notMem_escape _ hfills.2) hrest hfree hfeed hsplit ho
      rw [hleft] at ho
      have hothers := ih h.tail (fun other hm => hv other (List.mem_cons_of_mem _ hm)) ho
      rw [htext, hothers]
      rfl

/-- Normalizing a coded path of a template is coding a path of the normalized template. -/
theorem normalize_escape_spread {template : String} {value : String → List Char}
    (hv : ∀ name ∈ tokens template, FillsSegment (value name)) :
    (normalize (String.ofList (escape isPathSafe (spread value (pieces template.toList))))).toList =
      escape isPathSafe (spread value (pattern template)) := by
  have hcoded : ∀ ps : List Piece, escape isPathSafe (spread value ps) =
      ps.flatMap fun p => escape isPathSafe (p.fill value) := fun ps => List.flatMap_assoc
  have hslash : ∀ p : Piece, p.isSlash = true → escape isPathSafe (p.fill value) = ['/'] := by
    intro p hp
    rw [of_decide_eq_true hp, escape_fill_char, Percent.escapeChar_safe Url.isPathSafe_slash]
  have hother : ∀ p ∈ pieces template.toList, p.isSlash = false →
      escape isPathSafe (p.fill value) ≠ [] ∧ '/' ∉ escape isPathSafe (p.fill value) := by
    intro p hp hs
    cases p with
    | char c =>
      have hne : c ≠ '/' := by simpa using hs
      rw [escape_fill_char]
      exact ⟨Percent.escapeChar_ne_nil _ c, Percent.slash_notMem_escapeChar _ hne⟩
    | hole name =>
      obtain ⟨hne, hfree⟩ := hv name (mem_holes.mpr hp)
      exact ⟨Percent.escape_ne_nil _ hne, Percent.slash_notMem_escape _ hfree⟩
  rw [pattern_eq, escape_spread_cons, escape_fill_char,
    Percent.escapeChar_safe Url.isPathSafe_slash, normalize, String.toList_ofList,
    String.toList_ofList, hcoded, hcoded, trim_flatMap hslash hother]
  rfl

/-- A coded path that was made from a template, and that the template matches, gives to its names
the texts that were put into it. -/
theorem lookup_params?_appended {template path : String} {value : String → List Char}
    (hp : path.toList = spread value (pieces template.toList))
    (hs : Segmented (pieces template.toList))
    (hv : ∀ name ∈ tokens template, FillsSegment (value name)) {params : List (String × String)}
    (hm : params? (pattern template) (normalize (String.ofList (Url.appended path))) = some params)
    (name : String) : params.lookup name =
      if name ∈ tokens template then some (String.ofList (value name)) else none := by
  rw [Url.normalize_appended, hp] at hm
  obtain ⟨texts, hfill, rfl⟩ := Option.map_eq_some_iff.mp hm
  rw [normalize_escape_spread hv] at hfill
  have htexts := fill?_escape_spread (segmented_pattern hs)
    (fun name hname => hv name (by rwa [holes_pattern] at hname)) hfill
  rw [htexts, lookup_bind_map, Percent.unescape_escape Url.isPathSafe_percent, holes_pattern]

end RestContract.Template
