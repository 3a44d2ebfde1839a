import Mathlib
import RestContract.Route.Dispatch

/-!
# The token of a request

A request names its caller in an authorization header. The header counts whatever the case
of its name, and the last one of several. It carries a token behind the word `bearer`, in any
case, and a space; blanks around the token are dropped, and nothing but blanks is no token.
-/

namespace RestContract

/-- Cutting at a mark finds the first one. -/
theorem Text.cut_eq_some_iff {mark : Char} {cs before after : List Char} :
    Text.cut mark cs = (before, some after) ↔ cs = before ++ mark :: after ∧ mark ∉ before := by
  induction cs generalizing before with
  | nil => simp [Text.cut]
  | cons c cs ih =>
    rw [Text.cut]
    by_cases h : c = mark
    · rw [if_pos h]
      cases before with
      | nil => simp [h]
      | cons b before =>
        refine iff_of_false (by simp) ?_
        rintro ⟨hcs, hmark⟩
        have hb : c = b := (List.cons.inj hcs).1
        exact hmark (by simp [← hb, h])
    · rw [if_neg h]
      cases before with
      | nil => simp [h]
      | cons b before =>
        have hrest : ((Text.cut mark cs).1 = before ∧ (Text.cut mark cs).2 = some after) ↔
            cs = before ++ mark :: after ∧ mark ∉ before := Prod.ext_iff.symm.trans ih
        simp only [Prod.mk.injEq, List.cons.injEq, List.cons_append, List.mem_cons, not_or,
          and_assoc, hrest]
        constructor
        · rintro ⟨hb, hcs, hmark⟩
          exact ⟨hb, hcs, fun hm => h (hb.trans hm.symm), hmark⟩
        · rintro ⟨hb, hcs, -, hmark⟩
          exact ⟨hb, hcs, hmark⟩

/-- A header carries a token: it stands behind the word `bearer` in any case and the first
space, without the blanks around it, and is not empty. -/
def Carries (header token : String) : Prop :=
  ∃ scheme rest, header.toList = scheme ++ ' ' :: rest ∧ ' ' ∉ scheme ∧
    Text.lower (String.ofList scheme) = "bearer" ∧
    token.toList = Text.trim Text.isBlank rest ∧ token ≠ ""

/-- The token of a header is the one that it carries. -/
theorem bearerToken_eq_some {header : Option String} {token : String} :
    bearerToken header = some token ↔ ∃ value, header = some value ∧ Carries value token := by
  cases header with
  | none => simp [bearerToken]
  | some value =>
    simp only [Option.some.injEq, exists_eq_left', bearerToken]
    cases hcut : Text.cut ' ' value.toList with
    | mk scheme rest =>
      cases rest with
      | none =>
        refine iff_of_false (by simp [Text.trim, Text.trimEnd, Text.trimStart]) ?_
        rintro ⟨scheme', rest', hvalue, hfirst, -⟩
        rw [Text.cut_eq_some_iff.mpr ⟨hvalue, hfirst⟩] at hcut
        cases hcut
      | some rest =>
        have hcarries : Carries value token ↔ Text.lower (String.ofList scheme) = "bearer" ∧
            token.toList = Text.trim Text.isBlank rest ∧ token ≠ "" := by
          constructor
          · rintro ⟨scheme', rest', hvalue, hfirst, h⟩
            rw [Text.cut_eq_some_iff.mpr ⟨hvalue, hfirst⟩] at hcut
            cases hcut
            exact h
          · intro h
            obtain ⟨hvalue, hfirst⟩ := Text.cut_eq_some_iff.mp hcut
            exact ⟨scheme, rest, hvalue, hfirst, h⟩
        have htoken : String.ofList (Text.trim Text.isBlank rest) = token ↔
            token.toList = Text.trim Text.isBlank rest := by
          rw [← String.toList_inj, String.toList_ofList, eq_comm]
        have hempty : token.toList = Text.trim Text.isBlank rest →
            (token ≠ "" ↔ Text.trim Text.isBlank rest ≠ []) := by
          intro h
          rw [← h, ne_eq, ne_eq, String.toList_eq_nil_iff]
        simp only [Option.ite_none_right_eq_some, Option.some.injEq, Option.getD_some, htoken,
          hcarries, Bool.and_eq_true, decide_eq_true_eq, Bool.not_eq_true',
          List.isEmpty_eq_false_iff, and_assoc]
        exact and_congr_right fun _ => and_comm.trans (and_congr_right fun h => (hempty h).symm)

namespace RawRequest

/-- A request has a header, its name in any case; of several the last one counts. -/
def Has (request : RawRequest) (name value : String) : Prop :=
  ∃ before written after, request.headers = before ++ (written, value) :: after ∧
    Text.lower written = name ∧ ∀ h ∈ after, Text.lower h.1 ≠ name

/-- Looking a header up finds the one that counts. -/
theorem header?_eq_some {request : RawRequest} {name value : String} :
    request.header? name = some value ↔ request.Has name value := by
  simp only [header?, Option.map_eq_some_iff, List.find?_eq_some_iff_append, decide_eq_true_eq,
    Bool.not_eq_true', decide_eq_false_iff_not]
  constructor
  · rintro ⟨⟨written, value⟩, ⟨hname, after, before, hheaders, hafter⟩, rfl⟩
    refine ⟨before.reverse, written, after.reverse, ?_, hname, fun h hh => ?_⟩
    · rw [← List.reverse_inj, hheaders]
      simp
    · exact hafter h (List.mem_reverse.mp hh)
  · rintro ⟨before, written, after, hheaders, hname, hafter⟩
    refine ⟨(written, value), ⟨hname, after.reverse, before.reverse, ?_, fun h hh => ?_⟩, rfl⟩
    · rw [hheaders]
      simp
    · exact hafter h (List.mem_reverse.mp hh)

/-- A request carries a token in its authorization header. -/
def Bears (request : RawRequest) (token : String) : Prop :=
  ∃ value, request.Has "authorization" value ∧ Carries value token

/-- The token in the authorization header of a request is the one that the request carries. -/
theorem bearerToken_header? {request : RawRequest} {token : String} :
    bearerToken (request.header? "authorization") = some token ↔ request.Bears token :=
  bearerToken_eq_some.trans (exists_congr fun _ => and_congr_left' header?_eq_some)

end RawRequest

end RestContract
