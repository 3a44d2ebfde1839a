import Mathlib
import RestContract.Error.Failure
import RestContract.Proofs.Keys

/-!
# Errors on the wire

An error whose message is a text and whose details are texts by different names has these on
the wire. Its JSON text names them, and it can be sent exactly when no half of a surrogate
pair stands in any of them.
-/

namespace RestContract

namespace Utf8

end Utf8

open Utf8 (isWhole half?)

namespace Json

/-- An entry with a name and a written value. -/
def entry (name value : String) : String := quote name ++ ":" ++ value

end Json

private theorem sourceText?_caller (v : Value) : sourceText? .caller v = v.asText? := by
  cases v <;> rfl

/-- What counts as a text is accepted as that text. -/
theorem acceptText_of_sourceText? {origin : Origin} {v : Value} {s : String}
    (h : sourceText? origin v = some s) : ∃ fit, acceptText origin v = .accept fit (.text s) := by
  cases v with
  | text t =>
    obtain rfl := Option.some.inj h
    exact ⟨.exact, rfl⟩
  | member m =>
    cases origin with
    | payload => cases h
    | caller =>
      obtain rfl := Option.some.inj h
      exact ⟨.close, rfl⟩
  | _ => cases h

private theorem acceptName_of_sourceText? {origin : Origin} {v : Value} {s : String}
    (h : sourceText? origin v = some s) : ∃ fit, acceptName origin v = .accept fit (.text s) := by
  unfold acceptName
  split
  · obtain rfl := Option.some.inj h
    exact ⟨.close, rfl⟩
  · exact acceptText_of_sourceText? h

/-- Items that are accepted one by one are accepted together. -/
theorem joinAll_of_forall₂ {ι : Type*} {verdict : ι → Verdict} {items : List ι}
    {values : List Value}
    (h : List.Forall₂ (fun i v => ∃ fit, verdict i = .accept fit v) items values) :
    ∃ fit, joinAll (items.map verdict) = .ok (values, fit, none) := by
  induction h with
  | nil => exact ⟨.exact, rfl⟩
  | @cons i v items values hfirst _ ih =>
    obtain ⟨fit, hfirst⟩ := hfirst
    obtain ⟨fits, hrest⟩ := ih
    have hstep : joinAll ((i :: items).map verdict) =
        joinVerdicts (verdict i) (joinAll (items.map verdict)) := rfl
    rw [hstep, hfirst, hrest]
    exact ⟨fit.worse fits, rfl⟩

namespace ErrorBody

/-- The details of an error as a value. -/
def detailsValue : Option (List (String × String)) → Value
  | none => .null
  | some details => .map (details.map fun d => (.text d.1, .text d.2))

/-- A value stands for details: it is absent when there are none, and otherwise its entries count as
texts by different names. -/
inductive StandsFor (origin : Origin) : Value → Option (List (String × String)) → Prop where
  /-- There are no details. -/
  | absent : StandsFor origin .null none
  /-- There are texts by different names. -/
  | texts {entries : List (Value × Value)} {details : List (String × String)} :
      List.Forall₂ (fun e d => sourceText? origin e.1 = some d.1 ∧
        sourceText? origin e.2 = some d.2) entries details →
      (details.map (·.1)).Nodup → StandsFor origin (.map entries) (some details)

/-- What stands for details is accepted as their value. -/
theorem StandsFor.accept {origin : Origin} {v : Value} {details : Option (List (String × String))}
    (h : StandsFor origin v details) :
    ∃ fit, detailsShape.accept origin v = .accept fit (detailsValue details) := by
  cases h with
  | absent =>
    rw [detailsShape, Shape.accept]
    exact ⟨.exact, rfl⟩
  | @texts entries details hentries hnodup =>
    obtain ⟨nameFit, hnames⟩ : ∃ fit, joinAll (entries.map fun e => acceptName origin e.1) =
        .ok (details.map fun d => Value.text d.1, fit, none) := by
      refine joinAll_of_forall₂ (List.forall₂_map_right_iff.mpr (hentries.imp ?_))
      exact fun _ _ hd => acceptName_of_sourceText? hd.1
    obtain ⟨textFit, htexts⟩ : ∃ fit,
        joinAll (entries.map fun e => Shape.accept origin .text e.2) =
          .ok (details.map fun d => Value.text d.2, fit, none) := by
      refine joinAll_of_forall₂ (List.forall₂_map_right_iff.mpr (hentries.imp ?_))
      intro _ _ hd
      rw [Shape.accept]
      exact acceptText_of_sourceText? hd.2
    have hapart : (details.map fun d => (Value.text d.1, Value.text d.2)).Pairwise
        fun a b => a.1.sameKey b.1 = false := by
      rw [List.pairwise_map]
      have hnodup : details.Pairwise fun a b => a.1 ≠ b.1 := List.pairwise_map.mp hnodup
      exact hnodup.imp fun hne => by simpa using hne
    have hmap : Shape.accept origin (.mapOf .text) (.map entries) =
        .accept (nameFit.worse textFit) (detailsValue (some details)) := by
      rw [Shape.accept, acceptEntries, hnames, htexts]
      simp only [List.zip_map', mergeKeys_of_pairwise hapart]
      rfl
    have hoptions : acceptOptions origin [.mapOf .text, .null] (.map entries) =
        [.accept (nameFit.worse textFit) (detailsValue (some details))] := by
      rw [acceptOptions, acceptOptions, acceptOptions, hmap]
      rfl
    refine ⟨nameFit.worse textFit, ?_⟩
    rw [detailsShape, Shape.accept, hoptions]
    cases hfit : nameFit.worse textFit <;> rfl

private theorem detailTexts_detailsValue (details : Option (List (String × String))) :
    detailTexts (detailsValue details) = details := by
  cases details with
  | none => rfl
  | some details =>
    have hself : details.map (fun d => ((Value.text d.1).plain, (Value.text d.2).plain)) =
        details := by simp
    rw [detailsValue, detailTexts, List.map_map]
    exact congrArg some hself

/-- An object whose code and message count as texts, and which has nothing under the name of the
details but what stands for details, is accepted as the error of these. -/
theorem accept_of_standsFor {origin : Origin} {entries : List (Value × Value)} {c m : Value}
    {code message : String} {details : Option (List (String × String))}
    (hsecond : usesSecondName (.map entries) = false)
    (hcode : lastUnder? (.text "errorCode") entries = some c)
    (hc : sourceText? origin c = some code)
    (hmessage : lastUnder? (.text "message") entries = some m)
    (hm : sourceText? origin m = some message)
    (hdetails : StandsFor origin ((lastUnder? (.text "details") entries).getD .null) details) :
    accept origin (.map entries) = .ok ⟨code, message, details⟩ := by
  have htext : ∀ v s, sourceText? origin v = some s →
      ∃ fit, Shape.accept origin .text v = .accept fit (.text s) := by
    intro v s hv
    rw [Shape.accept]
    exact acceptText_of_sourceText? hv
  obtain ⟨codeFit, haccept⟩ := htext c code hc
  obtain ⟨messageFit, haccept'⟩ := htext m message hm
  obtain ⟨count, hfields⟩ : ∃ count, acceptFields origin
      [⟨"errorCode", .text, none, none, none⟩, ⟨"message", .text, none, none, none⟩,
        ⟨"details", detailsShape, some .null, none, none⟩] entries =
      .ok ([("errorCode", .text code), ("message", .text message),
        ("details", detailsValue details)], count) := by
    cases hlast : lastUnder? (.text "details") entries with
    | none =>
      rw [hlast] at hdetails
      cases hdetails
      simp only [acceptFields, hcode, hmessage, hlast, haccept, haccept']
      exact ⟨_, rfl⟩
    | some d =>
      rw [hlast] at hdetails
      obtain ⟨fit, hfit⟩ := hdetails.accept
      rw [Option.getD_some] at hfit
      simp only [acceptFields, hcode, hmessage, hlast, haccept, haccept', hfit]
      exact ⟨_, rfl⟩
  have hrecord : (shape "errorCode").accept origin (.map entries) =
      .ok ⟨.record ⟨0, "ErrorResponse", [], []⟩ [("errorCode", .text code),
        ("message", .text message), ("details", detailsValue details)], .close, some count⟩ := by
    rw [shape, Shape.accept, hfields]
  have hbody : ofFields [("errorCode", .text code), ("message", .text message),
      ("details", detailsValue details)] = ⟨code, message, details⟩ := by
    have hlast : ([("errorCode", .text code), ("message", .text message),
      ("details", detailsValue details)] : List (String × Value)).lookup "details" =
        some (detailsValue details) := rfl
    rw [ofFields, hlast, Option.bind_some, detailTexts_detailsValue]
    rfl
  rw [ErrorBody.accept, hsecond, if_neg Bool.false_ne_true, hrecord]
  exact congrArg Except.ok hbody

end ErrorBody

/-- An error tells a status and what is on the wire: the status counts as a number, the code and the
message count as texts, and the details stand for texts by name, if there are any. -/
structure HttpError.Tells (e : HttpError) (status : Int) (body : ErrorBody) : Prop where
  /-- The status counts as a number. -/
  status : ∃ v, e.status = some v ∧ statusOf v = .ok status
  /-- The code counts as a text. -/
  code : ∃ v, e.code = some v ∧ v.asText? = some body.code
  /-- The message counts as a text. -/
  message : ∃ v, e.message = some v ∧ v.asText? = some body.message
  /-- The details stand for texts by name. -/
  details : ∃ v, e.details = some v ∧ ErrorBody.StandsFor .caller v body.details

/-- The parts of an error make what is on the wire, if they are all there. -/
theorem HttpError.toBody_of_parts {e : HttpError} {code message details : Value}
    (hcode : e.code = some code) (hmessage : e.message = some message)
    (hdetails : e.details = some details) :
    e.toBody .null = (ErrorBody.accept .caller (.map [(.text "errorCode", code),
      (.text "message", message), (.text "details", details)])).mapError .invalid := by
  rw [toBody, hcode, hmessage, hdetails]
  rfl

/-- What an error tells is on the wire. -/
theorem HttpError.Tells.toBody {e : HttpError} {status : Int} {body : ErrorBody}
    (h : e.Tells status body) : e.toBody .null = .ok body := by
  obtain ⟨code, hcode, hcodeText⟩ := h.code
  obtain ⟨message, hmessage, hmessageText⟩ := h.message
  obtain ⟨details, hdetails, hstands⟩ := h.details
  have haccept : ErrorBody.accept .caller (.map [(.text "errorCode", code),
      (.text "message", message), (.text "details", details)]) = .ok body :=
    ErrorBody.accept_of_standsFor rfl rfl ((sourceText?_caller _).trans hcodeText) rfl
      ((sourceText?_caller _).trans hmessageText) hstands
  rw [toBody_of_parts hcode hmessage hdetails, haccept]
  rfl

end RestContract
