import Mathlib
import RestContract.Proofs.Identity.Bearer
import RestContract.Proofs.Request.Url

/-!
# Where an address with a path behind it leads

A base address without a query, a fragment, blanks and controls is split into its scheme, its
host and its path, and nothing is dropped from it. A coded path brings no character that ends
a path and none that addresses cannot hold. So whatever the path is, the address made from the
two has the scheme and the host of the base address, and its path is that of the base address
with the coded path behind it.
-/

namespace RestContract.Url

/-- Whether a character belongs to the part of an address that it stands in: it is no blank,
no control, and begins neither a query nor a fragment. -/
def isPlain (c : Char) : Bool := 0x20 < c.toNat && c ≠ '?' && c ≠ '#'

/-- A character that stands for itself in a path is plain. -/
theorem isPlain_of_isPathSafe {c : Char} (h : isPathSafe c = true) : isPlain c = true := by
  have hlow : ∀ n ≤ 0x20, isPathSafe (Char.ofNat n) = false := by decide
  have hnat : 0x20 < c.toNat := by
    by_contra hle
    have hc := hlow c.toNat (by omega)
    rw [Char.ofNat_toNat, h] at hc
    cases hc
  have hquery : c ≠ '?' := by
    rintro rfl
    exact absurd h (by decide)
  have hfragment : c ≠ '#' := by
    rintro rfl
    exact absurd h (by decide)
  simp [isPlain, hnat, hquery, hfragment]

private theorem isPlain_of_mem_escape {cs : List Char} {c : Char}
    (h : c ∈ Percent.escape isPathSafe cs) : isPlain c = true := by
  obtain hc | rfl := mem_escape h
  · exact isPlain_of_isPathSafe hc
  · rfl

/-- A character that is not plain stands in no plain text. -/
theorem notMem_of_isPlain {cs : List Char} (h : ∀ c ∈ cs, isPlain c = true) {mark : Char}
    (hmark : isPlain mark = false) : mark ∉ cs := by
  intro hm
  rw [h mark hm] at hmark
  cases hmark

/-- Nothing is dropped from a plain text, whatever follows it. -/
theorem clean_append {front : List Char} (h : ∀ c ∈ front, isPlain c = true) (hne : front ≠ [])
    (back : List Char) :
    clean (front ++ back) =
      front ++ back.filter fun c => c ≠ '\t' && c ≠ '\r' && c ≠ '\n' := by
  have hnat : ∀ c ∈ front, 0x20 < c.toNat := by
    intro c hc
    have hplain := h c hc
    simp only [isPlain, Bool.and_eq_true, decide_eq_true_eq] at hplain
    exact hplain.1.1
  have hdrop : (front ++ back).dropWhile (fun c => decide (c.toNat ≤ 0x20)) = front ++ back := by
    cases front with
    | nil => exact absurd rfl hne
    | cons c cs =>
      have hc : ¬c.toNat ≤ 0x20 := Nat.not_le.mpr (hnat c List.mem_cons_self)
      simp [hc]
  rw [clean, hdrop, List.filter_append, List.append_left_inj, List.filter_eq_self]
  intro c hc
  have hlow := hnat c hc
  have hother : c ≠ '\t' ∧ c ≠ '\r' ∧ c ≠ '\n' := by
    refine ⟨?_, ?_, ?_⟩ <;>
    · rintro rfl
      exact absurd hlow (by decide)
  simp [hother]

/-- Nothing is dropped from a plain text. -/
theorem clean_of_isPlain {cs : List Char} (h : ∀ c ∈ cs, isPlain c = true) : clean cs = cs := by
  cases cs with
  | nil => rfl
  | cons c cs => simpa using clean_append h (List.cons_ne_nil c cs) []

/-- What stands before a text without the mark belongs to the first part. -/
theorem cut_append_of_notMem {mark : Char} {front : List Char} (h : mark ∉ front)
    (back : List Char) :
    Text.cut mark (front ++ back) = (front ++ (Text.cut mark back).1, (Text.cut mark back).2) := by
  induction front with
  | nil => rfl
  | cons c cs ih =>
    have hc : ¬c = mark := fun he => h (he ▸ List.mem_cons_self)
    rw [List.cons_append, Text.cut, if_neg hc, ih fun hm => h (List.mem_cons_of_mem _ hm)]
    rfl

/-- A text without the mark is not cut. -/
theorem cut_of_notMem {mark : Char} {cs : List Char} (h : mark ∉ cs) :
    Text.cut mark cs = (cs, none) := by
  simpa [Text.cut] using cut_append_of_notMem h []

/-- A scheme is taken when a letter and characters of schemes stand before the first colon. -/
theorem takeScheme_eq {cs scheme rest : List Char} (hne : scheme ≠ []) :
    takeScheme cs = (scheme, rest) ↔ ∃ c front, cs = c :: front ++ ':' :: rest ∧
      c.isAlpha = true ∧ front.all isSchemeChar = true ∧
      scheme = Number.lowerAscii (c :: front) := by
  unfold takeScheme
  constructor
  · intro h
    split at h
    next c front after hcut =>
      split at h
      next hchars =>
        obtain ⟨rfl, rfl⟩ := Prod.mk.inj h
        obtain ⟨halpha, hall⟩ := Bool.and_eq_true_iff.mp hchars
        exact ⟨c, front, (Text.cut_eq_some_iff.mp hcut).1, halpha, hall, rfl⟩
      next => exact absurd (Prod.mk.inj h).1.symm hne
    next => exact absurd (Prod.mk.inj h).1.symm hne
  · rintro ⟨c, front, rfl, halpha, hall, rfl⟩
    have hcolon : ':' ∉ c :: front := by
      intro hm
      rcases List.mem_cons.mp hm with rfl | hm
      · exact absurd halpha (by decide)
      · exact absurd (List.all_eq_true.mp hall _ hm) (by decide)
    have hcut : Text.cut ':' (c :: front ++ ':' :: rest) = (c :: front, some rest) :=
      Text.cut_eq_some_iff.mpr ⟨rfl, hcolon⟩
    rw [hcut]
    simp only [halpha, hall, Bool.and_self, if_true]

/-- A host is what stands behind two slashes up to the first character that ends it. -/
theorem takeHost_eq {cs host rest : List Char} (hne : host ≠ []) :
    takeHost cs = (host, rest) ↔ cs = '/' :: '/' :: (host ++ rest) ∧
      (∀ c ∈ host, endsHost c = false) ∧ ∀ c ∈ rest.head?, endsHost c = true := by
  unfold takeHost
  constructor
  · intro h
    split at h
    next cs =>
      obtain ⟨rfl, rfl⟩ := Prod.mk.inj h
      refine ⟨by rw [List.takeWhile_append_dropWhile], fun c hc => ?_, fun c hc => ?_⟩
      · simpa using List.mem_takeWhile_imp hc
      · have hhead := List.head?_dropWhile_not (fun c => !endsHost c) cs
        rw [Option.mem_def.mp hc] at hhead
        simpa using hhead
    next => exact absurd (Prod.mk.inj h).1.symm hne
  · rintro ⟨rfl, hhost, hrest⟩
    have hall : ∀ c ∈ host, (!endsHost c) = true := fun c hc => by rw [hhost c hc, Bool.not_false]
    simp only [List.takeWhile_append_of_pos hall, List.dropWhile_append_of_pos hall]
    cases rest with
    | nil => simp
    | cons c rest => simp [hrest c rfl]

/-- What a plain address with a scheme and a host consists of. -/
structure Consists (cs : List Char) (parts : Parts) : Prop where
  /-- The scheme stands before the first colon, in any case, and two slashes follow it. -/
  text : ∃ c front, cs = c :: front ++ ':' :: '/' :: '/' :: (parts.host ++ parts.path) ∧
    c.isAlpha = true ∧ front.all isSchemeChar = true ∧
    parts.scheme = Number.lowerAscii (c :: front)
  /-- The host is not empty. -/
  host_ne : parts.host ≠ []
  /-- Nothing in the host ends it. -/
  inHost : ∀ c ∈ parts.host, endsHost c = false
  /-- The path begins with what ends the host. -/
  path : ∀ c ∈ parts.path.head?, endsHost c = true
  /-- The host is well formed. -/
  fits : bracketsFit parts.host = true
  /-- No character of the host stands for a mark of addresses. -/
  undisguised : parts.host.any (fun c => disguisedMarks.contains c.toNat) = false
  /-- There is no query. -/
  query : parts.query = []
  /-- There is no fragment. -/
  fragment : parts.fragment = []

private theorem isSuffix_of_text {cs front host path : List Char}
    (h : cs = front ++ ':' :: '/' :: '/' :: (host ++ path)) : path <:+ cs :=
  ⟨front ++ ':' :: '/' :: '/' :: host, by simp [h]⟩

/-- Splitting a plain address leaves its path whole. -/
theorem split?_of_isPlain {url : String} (h : ∀ c ∈ url.toList, isPlain c = true)
    {scheme host rest path : List Char} (hscheme : takeScheme url.toList = (scheme, rest))
    (hhost : takeHost rest = (host, path)) (hpath : path <:+ url.toList) :
    split? url =
      if !bracketsFit host || host.any fun c => disguisedMarks.contains c.toNat then none
      else some ⟨scheme, host, path, [], []⟩ := by
  have hplain : ∀ c ∈ path, isPlain c = true := fun c hc => h c (hpath.subset hc)
  have hfragment : Text.cut '#' path = (path, none) :=
    cut_of_notMem (notMem_of_isPlain hplain (by decide))
  have hquery : Text.cut '?' path = (path, none) :=
    cut_of_notMem (notMem_of_isPlain hplain (by decide))
  simp only [split?, clean_of_isPlain h, hscheme, hhost, hfragment, hquery, Option.getD_none]

/-- A plain address with a scheme and a host is split into what it consists of. -/
theorem split?_eq_some {url : String} {parts : Parts} (h : ∀ c ∈ url.toList, isPlain c = true) :
    split? url = some parts ∧ parts.scheme ≠ [] ∧ parts.host ≠ [] ↔ Consists url.toList parts := by
  constructor
  · rintro ⟨hsplit, hscheme, hhost⟩
    -- what is cut off at a number sign or a question mark is nothing, once the path is known
    -- to be a part of the text
    have hparts : ∃ rest path, takeScheme url.toList = (parts.scheme, rest) ∧
        takeHost rest = (parts.host, path) := by
      unfold split? at hsplit
      rw [clean_of_isPlain h] at hsplit
      generalize takeScheme url.toList = taken at hsplit ⊢
      simp only at hsplit
      split at hsplit
      · cases hsplit
      next =>
        obtain rfl := Option.some.inj hsplit
        exact ⟨_, _, rfl, rfl⟩
    obtain ⟨rest, path, hts, hth⟩ := hparts
    obtain ⟨c, front, hurl, halpha, hall, hlower⟩ := (takeScheme_eq hscheme).mp hts
    obtain ⟨rfl, hin, hhead⟩ := (takeHost_eq hhost).mp hth
    rw [split?_of_isPlain h hts hth (isSuffix_of_text hurl)] at hsplit
    split at hsplit
    · cases hsplit
    next hgood =>
      rw [Bool.not_eq_true, Bool.or_eq_false_iff, Bool.not_eq_false'] at hgood
      obtain ⟨scheme, host, path', query, fragment⟩ := parts
      cases hsplit
      exact ⟨⟨c, front, hurl, halpha, hall, hlower⟩, hhost, hin, hhead, hgood.1, hgood.2, rfl, rfl⟩
  · rintro ⟨⟨c, front, hurl, halpha, hall, hlower⟩, hhost, hin, hhead, hfits, hundisguised, hquery,
      hfragment⟩
    have hscheme : parts.scheme ≠ [] := by simp [hlower, Number.lowerAscii]
    have hts := (takeScheme_eq hscheme).mpr ⟨c, front, hurl, halpha, hall, hlower⟩
    have hth := (takeHost_eq hhost).mpr ⟨rfl, hin, hhead⟩
    rw [split?_of_isPlain h hts hth (isSuffix_of_text hurl), hfits, hundisguised]
    obtain ⟨scheme, host, path, query, fragment⟩ := parts
    obtain rfl : query = [] := hquery
    obtain rfl : fragment = [] := hfragment
    exact ⟨rfl, hscheme, hhost⟩

/-- A query behind a plain address changes neither where the address leads nor its path. -/
theorem Consists.split?_query {url : String} {parts : Parts} (h : Consists url.toList parts)
    (hplain : ∀ c ∈ url.toList, isPlain c = true) (query : String) :
    ∃ parts', split? (url ++ "?" ++ query) = some parts' ∧ parts'.scheme = parts.scheme ∧
      parts'.host = parts.host ∧ parts'.path = parts.path := by
  obtain ⟨c, front, hurl, halpha, hall, hlower⟩ := h.text
  have hclean : ∃ kept, clean (url ++ "?" ++ query).toList = url.toList ++ '?' :: kept := by
    have hne : url.toList ≠ [] := by simp [hurl]
    rw [String.toList_append, String.toList_append, List.append_assoc, clean_append hplain hne]
    exact ⟨_, rfl⟩
  obtain ⟨kept, hkept⟩ := hclean
  have hts : takeScheme (url.toList ++ '?' :: kept) =
      (parts.scheme, '/' :: '/' :: (parts.host ++ (parts.path ++ '?' :: kept))) := by
    refine (takeScheme_eq (by simp [hlower, Number.lowerAscii])).mpr
      ⟨c, front, ?_, halpha, hall, hlower⟩
    simp [hurl]
  have hth : takeHost ('/' :: '/' :: (parts.host ++ (parts.path ++ '?' :: kept))) =
      (parts.host, parts.path ++ '?' :: kept) := by
    refine (takeHost_eq h.host_ne).mpr ⟨rfl, h.inHost, ?_⟩
    intro d hd
    cases hpath : parts.path with
    | nil =>
      rw [hpath] at hd
      obtain rfl := Option.some.inj hd
      rfl
    | cons e rest =>
      rw [hpath] at hd
      exact h.path d (by rw [hpath]; exact hd)
  have hpath : ∀ d ∈ parts.path, isPlain d = true := fun d hd => hplain d (by simp [hurl, hd])
  have hfragment : Text.cut '#' (parts.path ++ '?' :: kept) =
      (parts.path ++ '?' :: (Text.cut '#' kept).1, (Text.cut '#' kept).2) :=
    cut_append_of_notMem (notMem_of_isPlain hpath (by decide)) _
  have hquery : Text.cut '?' (parts.path ++ '?' :: (Text.cut '#' kept).1) =
      (parts.path, some (Text.cut '#' kept).1) :=
    Text.cut_eq_some_iff.mpr ⟨rfl, notMem_of_isPlain hpath (by decide)⟩
  have hsplit : split? (url ++ "?" ++ query) = some ⟨parts.scheme, parts.host, parts.path,
      (Text.cut '#' kept).1, (Text.cut '#' kept).2.getD []⟩ := by
    simp only [split?, hkept, hts, hth, h.fits, h.undisguised, hfragment, hquery]
    rfl
  exact ⟨_, hsplit, rfl, rfl, rfl⟩

/-- Trailing slashes are removed from the path only, when something else stands before it. -/
theorem trimEnd_append {front : List Char} (h : ∀ c ∈ front.getLast?, c ≠ '/')
    (path : List Char) :
    Text.trimEnd (· = '/') (front ++ path) = front ++ Text.trimEnd (· = '/') path := by
  have hfront : front.reverse.dropWhile (· = '/') = front.reverse := by
    rw [← List.head?_reverse] at h
    cases hrev : front.reverse with
    | nil => rfl
    | cons c cs =>
      have hc : ¬c = '/' := h c (by rw [hrev]; rfl)
      simp [hc]
  rw [Text.trimEnd, Text.trimEnd, List.reverse_append, List.dropWhile_append, hfront]
  cases (path.reverse.dropWhile (· = '/')) with
  | nil => simp
  | cons c cs => simp

/-- Putting a coded path behind a base address changes its path only. -/
theorem Consists.append {base : String} {parts : Parts} (h : Consists base.toList parts)
    {path : String} (hpath : path ≠ "") :
    Consists (trimmedBase base path ++ appended path)
      { parts with path := Text.trimEnd (· = '/') parts.path ++ appended path } := by
  obtain ⟨c, front, hbase, halpha, hall, hlower⟩ := h.text
  have hempty : ¬path.isEmpty = true := by simpa using hpath
  have hlast : ∀ last ∈ ((c :: front ++ [':', '/', '/']) ++ parts.host).getLast?, last ≠ '/' := by
    intro last hlast
    rw [List.getLast?_append_of_ne_nil _ h.host_ne] at hlast
    rintro rfl
    exact absurd (h.inHost '/' (List.mem_of_mem_getLast? hlast)) (by decide)
  have htext : trimmedBase base path = (c :: front ++ [':', '/', '/']) ++ parts.host ++
      Text.trimEnd (· = '/') parts.path := by
    rw [trimmedBase, if_neg hempty, ← trimEnd_append hlast, hbase]
    simp
  refine { h with text := ⟨c, front, by simp [htext], halpha, hall, hlower⟩, path := ?_ }
  intro d hd
  cases htrim : Text.trimEnd (· = '/') parts.path with
  | nil =>
    rw [htrim, appended, if_neg hempty, List.nil_append, List.head?_cons] at hd
    obtain rfl := Option.some.inj hd
    rfl
  | cons e rest =>
    obtain ⟨behind, hparts⟩ : Text.trimEnd (· = '/') parts.path <+: parts.path :=
      List.rdropWhile_prefix _ _
    rw [htrim] at hparts hd
    refine h.path d ?_
    rw [← hparts]
    exact hd

/-- A coded path brings nothing but plain characters behind a base address. -/
theorem mem_or_isPlain_of_mem_append {base path : String} {c : Char}
    (h : c ∈ trimmedBase base path ++ appended path) : c ∈ base.toList ∨ isPlain c = true := by
  rcases List.mem_append.mp h with h | h
  · left
    unfold trimmedBase at h
    split at h
    · exact h
    · exact (List.rdropWhile_prefix _ _).subset h
  · right
    unfold appended at h
    split at h
    · cases h
    · rcases List.mem_cons.mp h with rfl | h
      · rfl
      · exact isPlain_of_mem_escape h

private theorem isPlain_of_mem_append {base path : String}
    (h : ∀ c ∈ base.toList, isPlain c = true) :
    ∀ c ∈ trimmedBase base path ++ appended path, isPlain c = true :=
  fun c hc => (mem_or_isPlain_of_mem_append hc).elim (h c) id

/-- A base address can be joined when it has a scheme and a host. -/
theorem isSome_join? {base path : String} :
    (join? base path).isSome = true ↔
      ∃ parts, split? base = some parts ∧ parts.scheme ≠ [] ∧ parts.host ≠ [] := by
  unfold join?
  cases split? base with
  | none => simp
  | some parts => by_cases hpath : path.isEmpty = true <;> simp [hpath]

/-- The address made from a base address and a path is split like the base address, with the coded
path behind its path. -/
theorem exists_split?_join? {base other : String} (hplain : ∀ c ∈ base.toList, isPlain c = true)
    (hjoin : (join? base other).isSome = true) (path : String) :
    ∃ b url, split? base = some b ∧ join? base path = some url ∧
      Consists url.toList { b with
        path := (if path.isEmpty then b.path else Text.trimEnd (· = '/') b.path) ++
          appended path } ∧ ∀ c ∈ url.toList, isPlain c = true := by
  obtain ⟨b, hb⟩ := isSome_join?.mp hjoin
  have hbase := (split?_eq_some hplain).mp hb
  have hurl : join? base path = some (String.ofList (trimmedBase base path ++ appended path)) := by
    obtain ⟨joined, hjoined⟩ := Option.isSome_iff_exists.mp (isSome_join?.mpr ⟨b, hb⟩)
    rw [join?_eq, hjoined, Option.map_some]
  refine ⟨b, _, hb.1, hurl, ?_, ?_⟩
  · rw [String.toList_ofList]
    by_cases hpath : path = ""
    · subst hpath
      simpa [trimmedBase, appended] using hbase
    · have hempty : ¬path.isEmpty = true := by simpa using hpath
      rw [if_neg hempty]
      exact hbase.append hpath
  · rw [String.toList_ofList]
    exact isPlain_of_mem_append hplain

/-- A path is put behind a base address without changing where it leads. For every plain base
address that can be joined, and every path, the address made from the two is split into the
scheme and the host of the base address and has no query and no fragment. A path that is not empty
stands behind the path of the base address, without the slashes at its end, and a single slash;
it is read back from there, without the slashes at its beginning. -/
theorem join_leads {base other : String} (hplain : ∀ c ∈ base.toList, isPlain c = true)
    (hjoin : (join? base other).isSome = true) (path : String) :
    ∃ b url parts, split? base = some b ∧ join? base path = some url ∧ split? url = some parts ∧
      parts.scheme = b.scheme ∧ parts.host = b.host ∧ parts.query = [] ∧ parts.fragment = [] ∧
      (path = "" → parts.path = b.path) ∧
      (path ≠ "" → ∃ tail, parts.path = Text.trimEnd (· = '/') b.path ++ '/' :: tail ∧
        Percent.unescape tail = path.toList.dropWhile (· = '/')) := by
  obtain ⟨b, url, hb, hurl, hwhole, hplain'⟩ := exists_split?_join? hplain hjoin path
  have hsplit := ((split?_eq_some hplain').mpr hwhole).1
  refine ⟨b, url, _, hb, hurl, hsplit, rfl, rfl, hwhole.query, hwhole.fragment, ?_, ?_⟩
  · rintro rfl
    exact List.append_nil _
  · intro hpath
    have hempty : ¬path.isEmpty = true := by simpa using hpath
    refine ⟨Percent.escape isPathSafe (path.toList.dropWhile (· = '/')), ?_,
      Percent.unescape_escape isPathSafe_percent _⟩
    rw [if_neg hempty, appended, if_neg hempty]

/-- A path that looks like another host, a query and a fragment stays a path behind a base address
with a user, a port and slashes at its end. -/
theorem join_leads_home :
    (∀ c ∈ "http://u@h:80/p//".toList, isPlain c = true) ∧
      (join? "http://u@h:80/p//" "").isSome = true ∧
      ∃ b url parts, split? "http://u@h:80/p//" = some b ∧
        join? "http://u@h:80/p//" "//evil/..\\?#@:\n" = some url ∧ split? url = some parts ∧
        parts.scheme = b.scheme ∧ parts.host = b.host ∧ parts.query = [] ∧ parts.fragment = [] ∧
        ("//evil/..\\?#@:\n" = "" → parts.path = b.path) ∧
        ("//evil/..\\?#@:\n" ≠ "" → ∃ tail,
          parts.path = Text.trimEnd (· = '/') b.path ++ '/' :: tail ∧
          Percent.unescape tail = "//evil/..\\?#@:\n".toList.dropWhile (· = '/')) :=
  have hplain : ∀ c ∈ "http://u@h:80/p//".toList, isPlain c = true :=
    List.all_eq_true.mp (by cbv)
  have hjoin : (join? "http://u@h:80/p//" "").isSome = true := by cbv
  ⟨hplain, hjoin, join_leads hplain hjoin _⟩

end RestContract.Url
