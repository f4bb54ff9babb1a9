import Highlighter.Proofs.Regex.WrittenOrder
import Highlighter.Proofs.Separators

/-!
# Sets of words

The choice that `Regex.words` writes depends on the set of the words alone.  Neither the
order of a list nor a word that is there twice can be seen in it, since the words are
sorted by a total order and each is written once (`Regex.words_of_same_set`).

What the alternatives of a choice are is read off its text.  `Regex.branches?` cuts the
text of a group at its bars.  A backslash takes from the character behind it what it
means, so a bar or a parenthesis that belongs to a word does not count, and the
alternatives are the quoted words (`Regex.branches?_words`).  Different words are quoted
differently (`Regex.quote_injective`), so none of the alternatives is there twice.
-/

namespace Highlighter.Regex

variable {list list' : List Text}

/-! ## Quoted words -/

/-- A text without the backslashes that quote its characters. -/
def unquote : Text → Text
  | '\\' :: c :: t => c :: unquote t
  | c :: t => c :: unquote t
  | [] => []

/-- A character without a meaning of its own is none of those with one. -/
theorem ne_of_mem_metaChars {c d : Char} (hc : ¬ metaChars.contains c = true)
    (hd : d ∈ metaChars) : c ≠ d := by
  rintro rfl
  exact hc (List.contains_iff_mem.mpr hd)

theorem unquote_quote (t : Text) : unquote (quote t) = t := by
  induction t with
  | nil => rfl
  | cons c t ih =>
    rw [quote]
    split
    · rw [unquote, ih]
    · next hc =>
      -- A backslash is quoted itself, so this character is not one.
      rw [unquote, ih]
      rintro d u rfl -
      exact ne_of_mem_metaChars hc (by decide) rfl

/-- Different texts are quoted differently. -/
theorem quote_injective : Function.Injective quote :=
  Function.LeftInverse.injective unquote_quote

/-! ## The alternatives of a choice -/

/-- The alternatives from a point inside a group to the parenthesis that closes the group and ends
the text.  Apart from bars there are plain characters and characters behind a backslash. -/
def branchesFrom? : Text → Option (List Text)
  | [] => none
  | ')' :: t => if t = [] then some [[]] else none
  | '|' :: t => (branchesFrom? t).map ([] :: ·)
  | '\\' :: c :: t => (branchesFrom? t).map (List.modifyHead (['\\', c] ++ ·))
  | c :: t =>
      if metaChars.contains c then none else (branchesFrom? t).map (List.modifyHead ([c] ++ ·))

/-- The alternatives of a choice, as they are written. -/
def branches? : Text → Option (List Text)
  | '(' :: '?' :: ':' :: t => branchesFrom? t
  | _ => none

theorem branchesFrom?_cons {c : Char} (hc : ¬ metaChars.contains c = true) (t : Text) :
    branchesFrom? (c :: t) = (branchesFrom? t).map (List.modifyHead ([c] ++ ·)) := by
  rw [branchesFrom?, if_neg hc]
  · exact ne_of_mem_metaChars hc (by decide)
  · exact ne_of_mem_metaChars hc (by decide)
  · rintro d u rfl -
    exact ne_of_mem_metaChars hc (by decide) rfl

theorem modifyHead_append_comp (u v : Text) :
    List.modifyHead (u ++ ·) ∘ List.modifyHead (v ++ ·) = List.modifyHead (u ++ v ++ ·) := by
  funext us
  cases us with
  | nil => rfl
  | cons first others => simp

/-- A quoted word belongs to one alternative as a whole. -/
theorem branchesFrom?_quote_append (w t : Text) :
    branchesFrom? (quote w ++ t) = (branchesFrom? t).map (List.modifyHead (quote w ++ ·)) := by
  induction w with
  | nil =>
    have hid : (List.modifyHead fun u : Text => quote [] ++ u) = id := by
      funext us
      cases us <;> rfl
    rw [hid, Option.map_id]
    rfl
  | cons c w ih =>
    rw [quote]
    split
    · rw [List.cons_append, List.cons_append, branchesFrom?, ih, Option.map_map,
        modifyHead_append_comp]
      rfl
    · next hc =>
      rw [List.cons_append, branchesFrom?_cons hc, ih, Option.map_map, modifyHead_append_comp]
      rfl

theorem branchesFrom?_flatMap (ws : List Text) :
    branchesFrom? ((ws.map quote).flatMap ('|' :: ·) ++ [')']) = some ([] :: ws.map quote) := by
  induction ws with
  | nil => rfl
  | cons w ws ih =>
    rw [List.map_cons, List.flatMap_cons, List.cons_append, List.cons_append, List.append_assoc,
      branchesFrom?, branchesFrom?_quote_append, ih]
    simp

/-- The alternatives of the choice between some words are these words, quoted. -/
theorem branches?_words (hne : list ≠ []) :
    branches? (words list) = some ((arrange list).map quote) := by
  obtain ⟨w, ws, harrange⟩ := List.exists_cons_of_ne_nil (arrange_ne_nil hne)
  have hwords : words list =
      '(' :: '?' :: ':' :: (quote w ++ ((ws.map quote).flatMap ('|' :: ·) ++ [')'])) := by
    rw [words, harrange, List.map_cons, Text.join_cons, List.append_assoc, List.append_assoc]
    rfl
  rw [hwords, branches?, branchesFrom?_quote_append, branchesFrom?_flatMap, harrange]
  simp

/-- The choice between some words is the same whatever order they are listed in and however often
each of them is.  Its alternatives are the words, sorted and quoted, each of them once. -/
theorem words_of_same_set (h : ∀ w, w ∈ list ↔ w ∈ list') :
    words list = words list' ∧
    (∀ w, w ∈ sortedOnce list ↔ w ∈ list) ∧
    ((sortedOnce list).map quote).Nodup ∧
    words list = "(?:".toList ++ Text.join ['|'] ((sortedOnce list).map quote) ++ [')'] ∧
    (list ≠ [] → branches? (words list) = some ((sortedOnce list).map quote)) := by
  have hdistinct : ((sortedOnce list).map quote).Nodup :=
    (inOrder_sortedOnce list).nodup.map quote_injective
  refine ⟨?_, fun w => mem_sortedOnce, hdistinct, ?_, fun hne => ?_⟩
  · rw [words, words, arrange_congr h]
  · rw [words, arrange_eq_sortedOnce]
  · rw [branches?_words hne, arrange_eq_sortedOnce]

/-- Two lists of one set, with words of one size, the empty word, and a word with a bar in it. -/
theorem words_of_same_set_bar :
    let list := ["vm".toList, "a|b".toList, [], "ab".toList, "vm".toList]
    let list' := [[], "ab".toList, "ab".toList, "vm".toList, "a|b".toList]
    (∀ w, w ∈ list ↔ w ∈ list') ∧ words list = words list' ∧
      branches? (words list) = some ["a\\|b".toList, "ab".toList, "vm".toList, []] := by
  intro list list'
  have hsame : ∀ w, w ∈ list ↔ w ∈ list' := by
    intro w
    simp only [list, list', List.mem_cons, List.not_mem_nil, or_false]
    tauto
  have hne : list ≠ [] := List.cons_ne_nil _ _
  obtain ⟨hwords, -, -, -, hbranches⟩ := words_of_same_set hsame
  refine ⟨hsame, hwords, ?_⟩
  rw [hbranches hne, ← arrange_eq_sortedOnce]
  decide

end Highlighter.Regex
