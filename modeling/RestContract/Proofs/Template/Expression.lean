import RestContract.Proofs.Template.Pieces
import RestContract.Template.Expression

/-!
# What the expression of a template matches

The expression of a template is read back as its pieces: no literal is taken for a group or for a
character that may be missing, since everything that could mean something stands behind a
backslash. So templates with one expression differ in the names of their holes only, and the first
way to match the expression has in its groups what filling the template puts in its holes.
-/

namespace RestContract

/-- The atom for a piece of a template. -/
def Piece.atom : Piece → Atom
  | .char c => .char c
  | .hole _ => .segment

namespace Expression

open Template (expression fill? isTail skeleton)

private theorem isAlphanum_of_mem_marks {c : Char} (h : c ∈ marks) : c.isAlphanum = false := by
  have hall : marks.all (fun d => !d.isAlphanum) = true := by decide
  simpa using List.all_eq_true.mp hall c h

private theorem read_backslash {c : Char} (hc : c ∈ marks) {rest : List Char}
    (h : rest.head? ≠ some '?') : read ('\\' :: c :: rest) = (read rest).map (.char c :: ·) := by
  have hletter := isAlphanum_of_mem_marks hc
  cases rest with
  | nil => simp [read.eq_def ('\\' :: _), hletter]
  | cons d rest =>
    have hd : d ≠ '?' := by simpa using h
    simp [read.eq_def ('\\' :: _), hletter, hd]

/-- A character that means nothing else is read as itself. -/
theorem read_plain {c : Char} (hc : c ∉ marks) {rest : List Char} (h : rest.head? ≠ some '?') :
    read (c :: rest) = (read rest).map (.char c :: ·) := by
  have hne : ∀ d ∈ marks, c ≠ d := fun d hd he => hc (he ▸ hd)
  have hstart : c ≠ '^' := hne _ (by decide)
  have hstop : c ≠ '$' := hne _ (by decide)
  have hgroup : c ≠ '(' := hne _ (by decide)
  have hslash : c ≠ '\\' := hne _ (by decide)
  cases rest with
  | nil => simp [read.eq_def [_], hstart, hstop, hgroup, hslash, hc]
  | cons d rest =>
    have hd : d ≠ '?' := by simpa using h
    simp [read.eq_def (c :: _), hstart, hstop, hgroup, hslash, hc, hd]

private theorem read_literal (c : Char) {rest : List Char} (h : rest.head? ≠ some '?') :
    read (literal c ++ rest) = (read rest).map (.char c :: ·) := by
  unfold literal
  split
  next hc => exact read_backslash hc h
  next hc => exact read_plain hc h

private theorem read_group (rest : List Char) :
    read (group ++ rest) = (read rest).map (.segment :: ·) := rfl

/-- The part of the expression behind its beginning. -/
def body (ps : List Piece) : List Char := ps.flatMap ofPiece ++ ['/', '?', '$']

/-- The atoms behind those for the pieces. -/
def tailAtoms : List Atom := [.optional '/', .stop]

/-- No part of the expression begins with what lets a character be missing. -/
theorem head?_body_ne (ps : List Piece) : (body ps).head? ≠ some '?' := by
  cases ps with
  | nil => decide
  | cons p ps =>
    cases p with
    | hole name => simp [body, ofPiece, group]
    | char c =>
      by_cases hc : c ∈ marks
      · simp [body, ofPiece, literal, hc]
      · have hne : c ≠ '?' := by
          rintro rfl
          exact hc (by decide)
        simp [body, ofPiece, literal, hc, hne]

/-- The body of the expression is read as the atoms of the pieces and the tail. -/
theorem read_body (ps : List Piece) : read (body ps) = some (ps.map Piece.atom ++ tailAtoms) := by
  induction ps with
  | nil => rfl
  | cons p ps ih =>
    have hcons : body (p :: ps) = ofPiece p ++ body ps := by simp [body]
    rw [hcons]
    cases p with
    | char c =>
      rw [ofPiece, read_literal c (head?_body_ne ps), ih]
      rfl
    | hole name =>
      rw [ofPiece, read_group, ih]
      rfl

/-- The expression of a template is read as its pieces. -/
theorem read_expression (ps : List Piece) :
    read (expression ps).toList = some (.start :: (ps.map Piece.atom ++ tailAtoms)) := by
  have hbegin : (expression ps).toList = '^' :: body ps := by
    rw [expression, String.toList_ofList]
    rfl
  rw [hbegin, read.eq_def]
  dsimp only
  rw [if_pos rfl, read_body]
  rfl

private theorem groups?_tailAtoms (fresh : Bool) (cs : List Char) :
    groups? tailAtoms fresh cs = if isTail cs then some [] else none := by
  cases cs with
  | nil => rfl
  | cons d rest =>
    by_cases hd : '/' = d
    · subst hd
      by_cases hrest : rest = [] ∨ rest = ['\n'] <;> simp [tailAtoms, groups?, isTail, hrest]
    · by_cases hfeed : d = '\n' ∧ rest = [] <;>
        simp [tailAtoms, groups?, isTail, hd, Ne.symm hd, hfeed]

/-- Matching the atoms of pieces is filling their holes. -/
theorem groups?_atoms (ps : List Piece) (fresh : Bool) (cs : List Char) :
    groups? (ps.map Piece.atom ++ tailAtoms) fresh cs = fill? ps cs := by
  induction ps generalizing fresh cs with
  | nil => exact groups?_tailAtoms fresh cs
  | cons p ps ih =>
    rw [List.map_cons, List.cons_append]
    cases p with
    | char c =>
      cases cs with
      | nil => rfl
      | cons d cs => rw [Piece.atom, groups?, ih, fill?]
    | hole name =>
      rw [Piece.atom, groups?, fill?]
      simp only [ih]

/-- Matching the expression of a template is filling its holes. -/
theorem groups?_expression (ps : List Piece) (cs : List Char) :
    ((read (expression ps).toList).bind fun atoms => groups? atoms true cs) = fill? ps cs := by
  rw [read_expression, Option.bind_some]
  exact groups?_atoms ps true cs

/-- Templates are compiled to one expression exactly when they differ in names only. -/
theorem expression_eq_iff {ps qs : List Piece} :
    expression ps = expression qs ↔ skeleton ps = skeleton qs := by
  constructor
  · intro h
    have hatoms : ∀ ps : List Piece, ps.map Piece.atom =
        (skeleton ps).map fun c => c.elim .segment .char := by
      intro ps
      rw [skeleton, List.map_map]
      exact List.map_congr_left fun p _ => by cases p <;> rfl
    have hread := congrArg (fun s => read s.toList) h
    simp only [read_expression, Option.some.injEq, List.cons.injEq, true_and,
      List.append_cancel_right_eq, hatoms] at hread
    refine List.map_injective_iff.mpr ?_ hread
    rintro (_ | c) (_ | d) hcd
    · rfl
    · cases hcd
    · cases hcd
    · exact congrArg some (Atom.char.inj hcd)
  · intro h
    have hparts : ∀ ps : List Piece, ps.flatMap ofPiece =
        (skeleton ps).flatMap fun c => c.elim group literal := by
      intro ps
      rw [skeleton, List.flatMap_map]
      exact List.flatMap_congr fun p _ => by cases p <;> rfl
    rw [expression, expression, hparts, hparts, h]

end Expression

end RestContract
