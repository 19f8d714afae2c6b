import Mathlib.Data.List.Basic

/-! # Lines

A text is cut behind each terminator. The lines keep their terminators, so that
the text is the lines one after the other; only the last one may have none. -/
namespace DeviceHal.Lib.Lines

section
variable {α : Type*}

/-- Terminators stand at the ends of lines and nowhere else. -/
inductive AreLines (z : α) : List (List α) → Prop where
  | nil : AreLines z []
  | last {line : List α} (hline : line ≠ []) (hz : z ∉ line) : AreLines z [line]
  | more {line : List α} {lines : List (List α)} (hz : z ∉ line) (hlines : AreLines z lines) :
    AreLines z ((line ++ [z]) :: lines)

/-- If the text ends in a terminator, every line does. -/
theorem AreLines.all_terminated {z : α} {lines : List (List α)} (h : AreLines z lines)
    (hend : lines.flatten.getLast? = some z) : ∀ line ∈ lines, ∃ body, line = body ++ [z] := by
  induction h with
  | nil => simp
  | last _ hz =>
    rw [List.flatten_singleton] at hend
    exact absurd (List.mem_of_getLast? hend) hz
  | @more body lines hz hlines ih =>
    refine List.forall_mem_cons.mpr ⟨⟨body, rfl⟩, ?_⟩
    cases hlines with
    | nil => simp
    | last hne _ =>
      exact ih (by rwa [List.flatten_cons, List.getLast?_append_of_ne_nil _ (by simpa)] at hend)
    | more _ _ =>
      exact ih (by rwa [List.flatten_cons, List.getLast?_append_of_ne_nil _ (by simp)] at hend)

/-- Within a line there is no terminator. -/
theorem AreLines.not_mem_dropLast {z : α} {lines : List (List α)} (h : AreLines z lines) :
    ∀ line ∈ lines, z ∉ line.dropLast := by
  induction h with
  | nil => simp
  | last _ hz => simpa using fun h => hz (List.dropLast_subset _ h)
  | more hz _ ih => exact List.forall_mem_cons.mpr ⟨by rwa [List.dropLast_concat], ih⟩

/-- Lines that are kept, or replaced by ones with a terminator. -/
theorem AreLines.of_forall₂ {z : α} {lines lines' : List (List α)} (h : AreLines z lines)
    (hmap : List.Forall₂ (fun l l' => l' = l ∨ ∃ body, z ∉ body ∧ l' = body ++ [z]) lines lines') :
    AreLines z lines' := by
  induction hmap with
  | nil => exact .nil
  | @cons l l' lines lines' hl hrest ih =>
    cases h with
    | last hne hz =>
      cases hrest
      rcases hl with rfl | ⟨body, hz, rfl⟩
      · exact .last hne hz
      · exact .more hz .nil
    | more hz hlines =>
      rcases hl with rfl | ⟨body, hz', rfl⟩
      · exact .more hz (ih hlines)
      · exact .more hz' (ih hlines)

end

section
variable {α : Type*} [DecidableEq α]

/-- The lines of a text. -/
def linesOf (z : α) : List α → List (List α)
  | [] => []
  | c :: text =>
    if c = z then [c] :: linesOf z text
    else match linesOf z text with
      | [] => [[c]]
      | line :: lines => (c :: line) :: lines

theorem areLines_linesOf (z : α) (text : List α) : AreLines z (linesOf z text) := by
  induction text with
  | nil => exact .nil
  | cons c text ih =>
    unfold linesOf
    split
    next hc =>
      subst hc
      exact .more List.not_mem_nil ih
    next hc =>
      have hne : z ∉ [c] := fun h => hc (List.mem_singleton.mp h).symm
      generalize linesOf z text = lines at ih
      cases ih with
      | nil => exact .last (List.cons_ne_nil c []) hne
      | @last line hline hz =>
        have hz' : z ∉ [c] ++ line := List.not_mem_append hne hz
        exact .last (List.cons_ne_nil c line) hz'
      | @more line lines hz hlines =>
        have hz' : z ∉ [c] ++ line := List.not_mem_append hne hz
        exact .more hz' hlines

theorem flatten_linesOf (z : α) (text : List α) : (linesOf z text).flatten = text := by
  induction text with
  | nil => rfl
  | cons c text ih =>
    unfold linesOf
    split
    next => rw [List.flatten_cons, ih]; rfl
    next =>
      generalize linesOf z text = lines at ih
      cases lines with
      | nil => exact congrArg (c :: ·) ih
      | cons line lines => exact congrArg (c :: ·) ih

/-- The lines of a text are found again. -/
theorem linesOf_flatten {z : α} {lines : List (List α)} (h : AreLines z lines) :
    linesOf z lines.flatten = lines := by
  have hline : ∀ (line text : List α), z ∉ line →
      linesOf z (line ++ z :: text) = (line ++ [z]) :: linesOf z text := by
    intro line text hz
    induction line with
    | nil => simp [linesOf]
    | cons c line ih =>
      obtain ⟨hc, hrest⟩ := not_or.mp (List.mem_cons.not.mp hz)
      rw [List.cons_append, linesOf, if_neg (Ne.symm hc), ih hrest]
      rfl
  have hlast : ∀ line : List α, line ≠ [] → z ∉ line → linesOf z line = [line] := by
    intro line hne hz
    induction line with
    | nil => exact absurd rfl hne
    | cons c line ih =>
      obtain ⟨hc, hrest⟩ := not_or.mp (List.mem_cons.not.mp hz)
      rw [linesOf, if_neg (Ne.symm hc)]
      cases line with
      | nil => rfl
      | cons d line => rw [ih (List.cons_ne_nil d line) hrest]
  induction h with
  | nil => rfl
  | last hne hz => rw [List.flatten_singleton, hlast _ hne hz]
  | more hz _ ih =>
    rw [List.flatten_cons, List.append_assoc, List.singleton_append, hline _ _ hz, ih]

end

end DeviceHal.Lib.Lines
