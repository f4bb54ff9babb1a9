import Highlighter.Render.Html

/-!
# Entities

Markup writes five characters as entities.  `decode` reads them back in one pass from
left to right, so what an entity gives is not read again.  Decoding an escaped text
gives the text, also where the text looks like entities itself (`decode_escape`), and an
escaped text has none of the characters that delimit tags and attribute values
(`not_mem_escape`).

A text is `Escaped` if it has none of these characters and an ampersand stands only where
an entity starts.  Such a text is made of escaped characters
(`Escaped.exists_eq_escape`), so of these texts only one is decoded to a given text
(`escape_lossless`).
-/

namespace Highlighter.Html

/-- A text with the five entities replaced by their characters.  An ampersand that starts none of
them stands for itself. -/
def decode : Text → Text
  | '&' :: 'a' :: 'm' :: 'p' :: ';' :: t => '&' :: decode t
  | '&' :: 'l' :: 't' :: ';' :: t => '<' :: decode t
  | '&' :: 'g' :: 't' :: ';' :: t => '>' :: decode t
  | '&' :: 'q' :: 'u' :: 'o' :: 't' :: ';' :: t => '"' :: decode t
  | '&' :: '#' :: '3' :: '9' :: ';' :: t => '\'' :: decode t
  | c :: t => c :: decode t
  | [] => []

/-- The characters that are escaped, and their entities. -/
def entities : List (Char × Text) := [
  ('&', "&amp;".toList), ('<', "&lt;".toList), ('>', "&gt;".toList), ('"', "&quot;".toList),
  ('\'', "&#39;".toList)]

/-- The characters that delimit tags and the values of attributes. -/
def delimiters : List Char := ['<', '>', '"', '\'']

/-! ## Escaping -/

theorem escape_cons (c : Char) (t : Text) : escape (c :: t) = escapeChar c ++ escape t :=
  List.flatMap_cons ..

theorem escape_append (s t : Text) : escape (s ++ t) = escape s ++ escape t :=
  List.flatMap_append

/-- A character is one of the five that are escaped, or is written as it is. -/
theorem escapeChar_cases (c : Char) :
    (c, escapeChar c) ∈ entities ∨ escapeChar c = [c] ∧ c ≠ '&' ∧ c ∉ delimiters := by
  by_cases hspecial : c = '&' ∨ c = '<' ∨ c = '>' ∨ c = '"' ∨ c = '\''
  · left
    rcases hspecial with rfl | rfl | rfl | rfl | rfl <;> decide
  · right
    simp only [not_or] at hspecial
    simp [escapeChar, delimiters, hspecial]

theorem escapeChar_ne_nil (c : Char) : escapeChar c ≠ [] := by
  rcases escapeChar_cases c with hentity | ⟨hself, -, -⟩
  · have hentities : ∀ entry ∈ entities, entry.2 ≠ [] := by decide
    exact hentities _ hentity
  · rw [hself]
    exact List.cons_ne_nil c []

/-- The classes of categories need no escapes. -/
theorem escape_cssClass (category : Category) :
    escape category.cssClass.toList = category.cssClass.toList := by
  cases category <;> rfl

/-! ## Decoding -/

theorem decode_cons_of_ne {c : Char} (hc : c ≠ '&') (t : Text) :
    decode (c :: t) = c :: decode t := by
  rw [decode] <;> simp [hc]

theorem decode_escapeChar_append (c : Char) (t : Text) :
    decode (escapeChar c ++ t) = c :: decode t := by
  rcases escapeChar_cases c with hentity | ⟨hself, hc, -⟩
  · simp only [entities, List.mem_cons, Prod.mk.injEq, List.not_mem_nil, or_false] at hentity
    rcases hentity with ⟨rfl, h⟩ | ⟨rfl, h⟩ | ⟨rfl, h⟩ | ⟨rfl, h⟩ | ⟨rfl, h⟩ <;> rw [h] <;> rfl
  · rw [hself]
    exact decode_cons_of_ne hc t

theorem decode_escape_append (s t : Text) : decode (escape s ++ t) = s ++ decode t := by
  induction s with
  | nil => rfl
  | cons c s ih =>
    rw [escape_cons, List.append_assoc, decode_escapeChar_append, ih, List.cons_append]

/-- Decoding undoes escaping. -/
theorem decode_escape (t : Text) : decode (escape t) = t := by
  have h := decode_escape_append t []
  rwa [List.append_nil, decode, List.append_nil] at h

/-! ## Escaped texts -/

/-- A text without delimiters in which each ampersand is the start of an entity. -/
structure Escaped (t : Text) : Prop where
  no_delimiter : ∀ d ∈ delimiters, d ∉ t
  starts_entity : ∀ u, '&' :: u <:+ t → ∃ entity ∈ entities, entity.2 <+: '&' :: u

section Escaped

variable {c : Char} {t u : Text}

theorem Escaped.of_suffix (h : Escaped t) (hu : u <:+ t) : Escaped u where
  no_delimiter d hd hmem := h.no_delimiter d hd (hu.mem hmem)
  starts_entity v hv := h.starts_entity v (hv.trans hu)

theorem escaped_nil : Escaped [] where
  no_delimiter _ _ := List.not_mem_nil
  starts_entity _ h := absurd (List.suffix_nil.mp h) (List.cons_ne_nil _ _)

theorem escaped_cons :
    Escaped (c :: t) ↔
      c ∉ delimiters ∧ (c = '&' → ∃ entity ∈ entities, entity.2 <+: c :: t) ∧ Escaped t := by
  constructor
  · intro h
    refine ⟨fun hc => h.no_delimiter c hc List.mem_cons_self, ?_,
      h.of_suffix (List.suffix_cons c t)⟩
    rintro rfl
    exact h.starts_entity t (List.suffix_refl _)
  · rintro ⟨hc, hentity, h⟩
    constructor
    · intro d hd hmem
      rcases List.mem_cons.mp hmem with rfl | hmem
      · exact hc hd
      · exact h.no_delimiter d hd hmem
    · intro u hu
      rcases List.suffix_cons_iff.mp hu with heq | hu
      · rw [heq]
        exact hentity (List.head_eq_of_cons_eq heq).symm
      · exact h.starts_entity u hu

/-- A character is escaped, whatever escaped text comes after it. -/
theorem Escaped.escapeChar_append (h : Escaped t) (c : Char) : Escaped (escapeChar c ++ t) := by
  rcases escapeChar_cases c with hentity | ⟨hself, hc, hdelimiter⟩
  · simp only [entities, List.mem_cons, Prod.mk.injEq, List.not_mem_nil, or_false] at hentity
    rcases hentity with ⟨-, h'⟩ | ⟨-, h'⟩ | ⟨-, h'⟩ | ⟨-, h'⟩ | ⟨-, h'⟩ <;> rw [h'] <;>
      simp [escaped_cons, delimiters, entities, h]
  · rw [hself]
    exact escaped_cons.mpr ⟨hdelimiter, fun hamp => absurd hamp hc, h⟩

theorem escaped_escape (t : Text) : Escaped (escape t) := by
  induction t with
  | nil => exact escaped_nil
  | cons c t ih => exact ih.escapeChar_append c

theorem not_mem_escape {d : Char} (hd : d ∈ delimiters) (t : Text) : d ∉ escape t :=
  (escaped_escape t).no_delimiter d hd

/-- An escaped text starts with an escaped character. -/
theorem Escaped.exists_escapeChar (h : Escaped (c :: t)) :
    ∃ d u, c :: t = escapeChar d ++ u ∧ Escaped u := by
  obtain ⟨hc, hentity, ht⟩ := escaped_cons.mp h
  by_cases hamp : c = '&'
  · have hwritten : ∀ entity ∈ entities, escapeChar entity.1 = entity.2 := by decide
    obtain ⟨entity, hmem, u, hu⟩ := hentity hamp
    refine ⟨entity.1, u, ?_, h.of_suffix ⟨entity.2, hu⟩⟩
    rw [hwritten entity hmem, hu]
  · refine ⟨c, t, ?_, ht⟩
    rcases escapeChar_cases c with hspecial | ⟨hself, -, -⟩
    · have hothers : ∀ entity ∈ entities, entity.1 = '&' ∨ entity.1 ∈ delimiters := by decide
      exact absurd (hothers _ hspecial) (not_or.mpr ⟨hamp, hc⟩)
    · rw [hself, List.singleton_append]

/-- Every escaped text is what some text is escaped to. -/
theorem Escaped.exists_eq_escape : ∀ {u : Text}, Escaped u → ∃ t, u = escape t
  | [], _ => ⟨[], rfl⟩
  | c :: rest, h => by
    obtain ⟨d, u, hwritten, hu⟩ := h.exists_escapeChar
    have hshorter : u.length < (c :: rest).length := by
      have hpos : 0 < (escapeChar d).length := List.length_pos_iff.mpr (escapeChar_ne_nil d)
      rw [hwritten, List.length_append]
      omega
    obtain ⟨t, rfl⟩ := exists_eq_escape hu
    exact ⟨d :: t, hwritten⟩
termination_by u => u.length
decreasing_by exact hshorter

end Escaped

/-- Escaping leaves no delimiters and no ampersands but those of its entities.  What it gives is
decoded to the text, and is the only text of this form that is. -/
theorem escape_lossless (t : Text) :
    Escaped (escape t) ∧ decode (escape t) = t ∧
      ∀ u, Escaped u → decode u = t → u = escape t := by
  refine ⟨escaped_escape t, decode_escape t, ?_⟩
  intro u hu hdecode
  obtain ⟨s, rfl⟩ := hu.exists_eq_escape
  rw [← hdecode, decode_escape]

/-- A text that looks like an entity already. -/
example : escape "&lt;".toList = "&amp;lt;".toList ∧ decode "&amp;lt;".toList = "&lt;".toList := by
  decide

end Highlighter.Html
