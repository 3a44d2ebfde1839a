import Mathlib
import RestContract.Request.Url
import RestContract.Proofs.Percent
import RestContract.Proofs.Template.Pieces

/-!
# Paths behind base addresses

Joining puts the same coded path behind every base address that has a scheme and a host.
A slash stands for itself and a percent sign never does, so normalizing a coded path and
coding a path are independent of the slashes at its beginning.
-/

namespace RestContract.Url

open Template (spread trimBoth)

/-- What joining puts behind a base address for a path. -/
def appended (path : String) : List Char :=
  if path.isEmpty then [] else '/' :: Percent.escape isPathSafe (path.toList.dropWhile (· = '/'))

/-- A base address with its trailing slashes removed,
as long as there is a path to put behind it. -/
def trimmedBase (base path : String) : List Char :=
  if path.isEmpty then base.toList else Text.trimEnd (· = '/') base.toList

/-- Every base address that can stand alone can be joined, and the path is then put behind it. -/
theorem join?_eq (base path : String) :
    join? base path = (join? base "").map fun _ =>
      String.ofList (trimmedBase base path ++ appended path) := by
  unfold join?
  cases split? base with
  | none => rfl
  | some parts =>
    by_cases hp : (parts.scheme.isEmpty || parts.host.isEmpty) = true
    · simp [hp]
    · by_cases he : path.isEmpty = true <;> simp [hp, he, trimmedBase, appended]

/-- The percent sign is always escaped. -/
theorem isPathSafe_percent : isPathSafe '%' = false := by decide

/-- A slash stands for itself. -/
theorem isPathSafe_slash : isPathSafe '/' = true := by decide

/-- Every character of a coded path stands for itself or is the percent sign of an escape. -/
theorem mem_escape {cs : List Char} {c : Char} (h : c ∈ Percent.escape isPathSafe cs) :
    isPathSafe c = true ∨ c = '%' := by
  obtain ⟨d, -, hd⟩ := List.mem_flatMap.mp h
  exact Percent.mem_escapeChar (by decide) hd

/-- Coding changes no slash at the ends of a path. -/
theorem trim_escape (cs : List Char) :
    Text.trim (· = '/') (Percent.escape isPathSafe cs) =
      (trimBoth (· = '/') cs).flatMap (Percent.escapeChar isPathSafe) := by
  refine Template.trim_flatMap (fun c hc => ?_) fun c _ hc => ?_
  · rw [of_decide_eq_true hc, Percent.escapeChar_safe isPathSafe_slash]
  · exact ⟨Percent.escapeChar_ne_nil _ c, Percent.slash_notMem_escapeChar _ (of_decide_eq_false hc)⟩

/-- The appended path is normalized as the coded path is. -/
theorem normalize_appended (path : String) :
    Template.normalize (String.ofList (appended path)) =
      Template.normalize (String.ofList (Percent.escape isPathSafe path.toList)) := by
  have hdrop :
    trimBoth (· = '/') (path.toList.dropWhile (· = '/')) = trimBoth (· = '/') path.toList := by
    rw [trimBoth, trimBoth, List.dropWhile_idempotent]
  have hslash : ∀ cs : List Char, Text.trim (· = '/') ('/' :: cs) = Text.trim (· = '/') cs :=
    fun cs => by
    simp [Text.trim, Text.trimStart]
  by_cases hp : path.isEmpty = true
  · obtain rfl : path = "" := by simpa using hp
    rfl
  · rw [appended, if_neg hp, Template.normalize, Template.normalize, String.toList_ofList,
      String.toList_ofList, hslash, trim_escape, trim_escape, hdrop]

/-- Every literal character of a template stands for itself in a path. -/
def LiteralsSafe (ps : List Piece) : Prop := ∀ c, .char c ∈ ps → isPathSafe c = true

/-- Whether a piece is a hole or a character that stands for itself in a path. -/
def isSafePiece : Piece → Bool
  | .char c => isPathSafe c
  | .hole _ => true

private theorem literalsSafe_iff {ps : List Piece} :
    LiteralsSafe ps ↔ ps.all isSafePiece = true := by
  rw [List.all_eq_true]
  constructor
  · intro h p hp
    cases p with
    | char c => exact h c hp
    | hole name => rfl
  · exact fun h c hc => h (.char c) hc

instance (ps : List Piece) : Decidable (LiteralsSafe ps) := decidable_of_iff _ literalsSafe_iff.symm

/-- Coding a path that fills a template is coding what fills the holes. -/
theorem escape_spread {value : String → List Char} {ps : List Piece} (h : LiteralsSafe ps) :
    Percent.escape isPathSafe (spread value ps) =
      spread (fun name => Percent.escape isPathSafe (value name)) ps := by
  rw [Percent.escape, spread, List.flatMap_assoc, spread]
  refine List.flatMap_congr fun p hp => ?_
  cases p with
  | char c => rw [Piece.fill, List.flatMap_singleton, Percent.escapeChar_safe (h c hp), Piece.fill]
  | hole name => rfl

end RestContract.Url
