import Highlighter.Text

/-!
# Cuts at a separator

A text that is put together from parts with a separator between them is cut into
these parts again, as long as none of them has the separator.  If each part is read as
what it was written for, so are all of them.
-/

namespace Highlighter.Text

variable {sep : Char}

theorem splitAt_sep (sep : Char) (t : Text) : splitAt sep (sep :: t) = [] :: splitAt sep t := by
  rw [splitAt]
  split
  · next h => exact absurd h (splitAt_ne_nil sep t)
  · next first others h => rw [h, if_pos (beq_self_eq_true sep)]

theorem splitAt_of_not_mem {u : Text} (hu : sep ∉ u) : splitAt sep u = [u] := by
  induction u with
  | nil => rfl
  | cons c u ih =>
    rw [List.mem_cons, not_or] at hu
    rw [splitAt, ih hu.2]
    simp [Ne.symm hu.1]

/-- The part before the first separator is cut off. -/
theorem splitAt_append {u : Text} (hu : sep ∉ u) (t : Text) :
    splitAt sep (u ++ sep :: t) = u :: splitAt sep t := by
  induction u with
  | nil => exact splitAt_sep sep t
  | cons c u ih =>
    rw [List.mem_cons, not_or] at hu
    rw [List.cons_append, splitAt, ih hu.2]
    simp [Ne.symm hu.1]

/-- Parts that a separator each ends are cut into these parts. -/
theorem splitAt_flatMap {parts : List Text} (hparts : ∀ u ∈ parts, sep ∉ u) {last : Text}
    (hlast : sep ∉ last) :
    splitAt sep (parts.flatMap (· ++ [sep]) ++ last) = parts ++ [last] := by
  induction parts with
  | nil => exact splitAt_of_not_mem hlast
  | cons u parts ih =>
    rw [List.forall_mem_cons] at hparts
    rw [List.flatMap_cons, List.append_assoc, List.append_assoc, List.singleton_append,
      splitAt_append hparts.1, ih hparts.2, List.cons_append]

/-- Parts that a separator each starts are cut into these parts. -/
theorem splitAt_append_flatMap {first : Text} (hfirst : sep ∉ first) {parts : List Text}
    (hparts : ∀ u ∈ parts, sep ∉ u) :
    splitAt sep (first ++ parts.flatMap (sep :: ·)) = first :: parts := by
  induction parts generalizing first with
  | nil => simpa using splitAt_of_not_mem hfirst
  | cons u parts ih =>
    rw [List.forall_mem_cons] at hparts
    rw [List.flatMap_cons, List.cons_append, splitAt_append hfirst, ih hparts.1 hparts.2]

/-- No part of a cut has the separator. -/
theorem not_mem_of_mem_splitAt {t : Text} : ∀ u ∈ splitAt sep t, sep ∉ u := by
  induction t with
  | nil => simp [splitAt]
  | cons c t ih =>
    rw [splitAt]
    split
    · next h => exact absurd h (splitAt_ne_nil sep t)
    · next first others h =>
      rw [h, List.forall_mem_cons] at ih
      split
      · exact List.forall_mem_cons.mpr ⟨List.not_mem_nil, List.forall_mem_cons.mpr ih⟩
      · next hc =>
        refine List.forall_mem_cons.mpr ⟨?_, ih.2⟩
        rw [List.mem_cons, not_or]
        exact ⟨fun heq => hc (beq_iff_eq.mpr heq.symm), ih.1⟩

theorem join_cons (sep : Char) (first : Text) (parts : List Text) :
    join [sep] (first :: parts) = first ++ parts.flatMap (sep :: ·) := by
  induction parts generalizing first with
  | nil => simp [join]
  | cons u parts ih =>
    rw [join_cons_of_ne_nil _ _ (List.cons_ne_nil u parts), ih, List.flatMap_cons,
      List.append_assoc, List.singleton_append, List.cons_append]

/-- A part of a cut stands behind those before it, with a separator after each, and before the
others, with a separator before each. -/
theorem eq_of_splitAt_eq {t part : Text} {parts others : List Text}
    (h : splitAt sep t = parts ++ part :: others) :
    t = parts.flatMap (· ++ [sep]) ++ (part ++ others.flatMap (sep :: ·)) := by
  rw [← join_splitAt sep t, h]
  clear h
  induction parts with
  | nil => exact join_cons sep part others
  | cons first parts ih =>
    rw [List.cons_append, join_cons_of_ne_nil _ _ (by simp), ih, List.flatMap_cons,
      List.append_assoc, List.append_assoc, List.append_assoc]

theorem head?_flatMap_cons (parts : List Text) :
    ∀ c ∈ (parts.flatMap (sep :: ·)).head?, c = sep := by
  cases parts <;> simp

/-- What is written part by part is read part by part. -/
theorem mapM_map_eq_some {α β : Type} {read? : β → Option α} {write : α → β} {items : List α}
    (h : ∀ a ∈ items, read? (write a) = some a) : (items.map write).mapM read? = some items := by
  induction items with
  | nil => rfl
  | cons a items ih =>
    rw [List.forall_mem_cons] at h
    rw [List.map_cons, List.mapM_cons, h.1, ih h.2]
    rfl

end Highlighter.Text
