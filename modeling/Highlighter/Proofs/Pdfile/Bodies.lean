import Highlighter.Proofs.Grammar.Preferred
import Highlighter.Proofs.Pdfile.Categories

/-!
# Bodies of lines

The body of a line is its text up to a comment, without the blanks at its end
(`Text.body`).  What is read of a line is cut off it part by part: blanks, words, and
arguments.  The body of what is left tells whether anything but blanks and a comment
follows.
-/

namespace Highlighter

/-! ## Bodies -/

/-- Blanks before no body are part of none. -/
theorem Text.body_blanks_append {gap t : Text} (hgap : ∀ c ∈ gap, isBlank c = true)
    (ht : t.body = []) : (gap ++ t).body = [] := by
  induction gap with
  | nil => exact ht
  | cons c gap ih =>
    rw [List.cons_append, body_cons, ih fun d hd => hgap d (List.mem_cons_of_mem c hd),
      hgap c (List.mem_cons_self ..)]
    split <;> rfl

theorem Text.body_eq_nil {gap rest : Text} (hgap : ∀ c ∈ gap, isBlank c = true)
    (hrest : ∀ c ∈ rest.head?, c = '#' ∨ c = '\n') : (gap ++ rest).body = [] := by
  refine Text.body_blanks_append hgap ?_
  cases rest with
  | nil => rfl
  | cons c rest => rw [body_cons, if_pos (hrest c rfl)]

/-- What stands within a line before a body is part of the body, and so is what does not end in a
blank. -/
theorem Text.body_append_eq {u t : Text} (hash : '#' ∉ u) (newline : '\n' ∉ u)
    (h : t.body ≠ [] ∨ ∀ c ∈ u.getLast?, isBlank c = false) : (u ++ t).body = u ++ t.body := by
  induction u with
  | nil => rfl
  | cons c u ih =>
    have hc : ¬ (c = '#' ∨ c = '\n') := by
      rintro (rfl | rfl)
      · exact hash (List.mem_cons_self ..)
      · exact newline (List.mem_cons_self ..)
    have hmore : t.body ≠ [] ∨ ∀ d ∈ u.getLast?, isBlank d = false :=
      h.imp id fun hlast d hd => hlast d (by
        rw [List.getLast?_cons, Option.mem_def.mp hd]
        rfl)
    have ih := ih (fun hmem => hash (List.mem_cons_of_mem c hmem))
      (fun hmem => newline (List.mem_cons_of_mem c hmem)) hmore
    rw [List.cons_append, body_cons, if_neg hc, ih]
    by_cases hnil : u ++ t.body = []
    · obtain ⟨rfl, ht⟩ := List.append_eq_nil_iff.mp hnil
      have hlast := h.resolve_left (not_not_intro ht) c rfl
      rw [if_pos hnil, hlast, ht]
      rfl
    · rw [if_neg hnil, List.cons_append]

theorem Text.Trimmed.body_append {u : Text} (hu : u.Trimmed) (t : Text) :
    (u ++ t).body = u ++ t.body :=
  Text.body_append_eq hu.hash hu.newline (.inr hu.last)

theorem Text.Trimmed.right {u v : Text} (h : (u ++ v).Trimmed) : v.Trimmed where
  hash hmem := h.hash (List.mem_append_right u hmem)
  newline hmem := h.newline (List.mem_append_right u hmem)
  last c hc := h.last c (by rw [List.getLast?_append, Option.mem_def.mp hc]; rfl)

/-- A trimmed text is the body of a line that goes on with no body. -/
theorem Text.body_append {u t : Text} (hu : u.Trimmed) (ht : t.body = []) : (u ++ t).body = u := by
  rw [hu.body_append, ht, List.append_nil]

theorem Text.trimmed_body (t : Text) : t.body.Trimmed := by
  have hchars : ∀ c ∈ t.body, c ≠ '#' ∧ c ≠ '\n' := fun c hc => by
    have hmem := (List.rdropWhile_prefix isBlank _).subset hc
    simpa using List.mem_takeWhile_imp hmem
  refine ⟨fun h => (hchars _ h).1 rfl, fun h => (hchars _ h).2 rfl, fun c hc => ?_⟩
  obtain ⟨hne, hlast⟩ := List.mem_getLast?_eq_getLast hc
  rw [hlast]
  exact Bool.eq_false_iff.mpr (List.rdropWhile_last_not isBlank _ hne)

/-- A line is its body and a rest that has none. -/
theorem Text.exists_eq_body_append (t : Text) : ∃ x, t = t.body ++ x ∧ x.body = [] := by
  induction t with
  | nil => exact ⟨[], rfl, rfl⟩
  | cons c t ih =>
    by_cases hnil : body (c :: t) = []
    · exact ⟨c :: t, by rw [hnil, List.nil_append], hnil⟩
    · rw [body_cons] at hnil ⊢
      by_cases hc : c = '#' ∨ c = '\n'
      · exact absurd (if_pos hc) hnil
      · rw [if_neg hc] at hnil ⊢
        by_cases hbody : body t = []
        · rw [if_pos hbody] at hnil ⊢
          cases hblank : isBlank c with
          | true => simp [hblank] at hnil
          | false => exact ⟨t, rfl, hbody⟩
        · obtain ⟨x, ht, hx⟩ := ih
          rw [if_neg hbody]
          exact ⟨x, by rw [List.cons_append, ← ht], hx⟩

/-- A line is cut in one way only at the comment that stops it. -/
theorem Text.comment_unique {u u' rest rest' : Text} (hash : '#' ∉ u) (newline : '\n' ∉ u)
    (hash' : '#' ∉ u') (newline' : '\n' ∉ u') (h : u ++ '#' :: rest = u' ++ '#' :: rest') :
    u = u' ∧ rest = rest' := by
  have hall : ∀ {u : Text}, '#' ∉ u → '\n' ∉ u → ∀ c ∈ u, (c != '#' && c != '\n') = true :=
    fun hash newline c hc => by
      have hash : c ≠ '#' := fun heq => hash (heq ▸ hc)
      have newline : c ≠ '\n' := fun heq => newline (heq ▸ hc)
      simp [hash, newline]
  obtain ⟨rfl, hmore⟩ := Text.cut_unique h (hall hash newline) (hall hash' newline') (by simp)
    (by simp)
  exact ⟨rfl, (List.cons.inj hmore).2⟩

/-- Where a comment stops a line, only blanks stand between its body and the comment. -/
theorem Text.exists_eq_body_append_gap {u : Text} (hash : '#' ∉ u) (newline : '\n' ∉ u)
    (rest : Text) :
    ∃ gap, u = body (u ++ '#' :: rest) ++ gap ∧ ∀ c ∈ gap, isBlank c = true := by
  have hall : ∀ c ∈ u, (c != '#' && c != '\n') = true := fun c hc => by
    have hash' : c ≠ '#' := fun heq => hash (heq ▸ hc)
    have hnewline : c ≠ '\n' := fun heq => newline (heq ▸ hc)
    simp [hash', hnewline]
  have hbody : body (u ++ '#' :: rest) = u.rdropWhile isBlank := by
    rw [body, List.takeWhile_append_of_pos hall, List.takeWhile_cons_of_neg (by simp),
      List.append_nil]
  refine ⟨u.rtakeWhile isBlank, ?_, fun c hc => List.mem_rtakeWhile_imp hc⟩
  rw [hbody, List.rdropWhile_append_rtakeWhile]

/-- A line that starts with a solid character has a body that does. -/
theorem Text.exists_body_eq_cons {c : Char} (t : Text) (hc : isBlank c = false) (hash : c ≠ '#') :
    ∃ u, body (c :: t) = c :: u := by
  have hnewline : c ≠ '\n' := by
    rintro rfl
    exact absurd hc (by decide)
  rw [body_cons, if_neg (not_or.mpr ⟨hash, hnewline⟩), hc]
  split <;> exact ⟨_, rfl⟩

/-- A line with no body that starts with no blank starts with a comment, if with anything. -/
theorem Text.eq_hash_of_body_nil {t : Text} (ht : t.body = [])
    (hsolid : ∀ c ∈ t.head?, isBlank c = false) : ∀ c ∈ t.head?, c = '#' := by
  intro c hc
  obtain ⟨rest, rfl⟩ := List.head?_eq_some_iff.mp hc
  by_contra hash
  obtain ⟨u, hu⟩ := Text.exists_body_eq_cons rest (hsolid c hc) hash
  rw [ht] at hu
  cases hu

/-- Blanks before a body stand within its line. -/
theorem Text.newline_not_mem_of_body {gap t : Text} (hgap : ∀ c ∈ gap, isBlank c = true)
    (h : (gap ++ t).body ≠ []) : '\n' ∉ gap := by
  intro hmem
  obtain ⟨u, v, rfl⟩ := List.append_of_mem hmem
  refine h ?_
  rw [List.append_assoc]
  exact Text.body_eq_nil (fun c hc => hgap c (List.mem_append_left _ hc)) (by simp)

/-- Blanks within a line before no body leave none. -/
theorem Text.body_eq_nil_of_append {gap t : Text} (hgap : ∀ c ∈ gap, isBlank c = true)
    (hline : '\n' ∉ gap) (h : (gap ++ t).body = []) : t.body = [] := by
  by_contra hne
  have hash : '#' ∉ gap := fun hmem => absurd (hgap '#' hmem) (by decide)
  rw [Text.body_append_eq hash hline (.inl hne)] at h
  exact hne (List.append_eq_nil_iff.mp h).2

/-- A line ends within a text that has a line feed. -/
theorem Text.size_takeWhile_le {u : Text} (hu : '\n' ∈ u) (t : Text) :
    Text.size ((u ++ t).takeWhile (· != '\n')) ≤ u.size := by
  induction u with
  | nil => cases hu
  | cons c u ih =>
    rw [List.cons_append, List.takeWhile_cons]
    split
    · next hc =>
      have hmem : '\n' ∈ u := (List.mem_cons.mp hu).resolve_left fun heq => by
        rw [← heq] at hc
        cases hc
      have := ih hmem
      simp only [Text.size_cons]
      omega
    · exact Nat.zero_le _

/-- A trimmed text that starts with a solid character is an argument where the line goes on with no
body. -/
theorem Text.Trimmed.prefers_argument {u t : Text} (hu : u.Trimmed) (hne : u ≠ [])
    (hsolid : ∀ c ∈ u.head?, isBlank c = false) (ht : t.body = []) {a : Place}
    (ha : a.rest = u ++ t) : ∃ e, Pattern.argument.Prefers a u e := by
  have hread := Text.body_append hu ht
  obtain ⟨c, u, rfl⟩ := List.exists_cons_of_ne_nil hne
  have hash : c ≠ '#' := by
    rintro rfl
    exact hu.hash (List.mem_cons_self ..)
  obtain ⟨e, he⟩ := Pattern.prefers_argument (t := u ++ t) ha (hsolid c rfl) hash
  rw [← List.cons_append, hread] at he
  exact ⟨e, he⟩

/-- Blanks before a body are part of it. -/
theorem Text.Blanks.body_append {b t : Text} (hb : b.Blanks) (ht : t.body ≠ []) :
    (b ++ t).body = b ++ t.body :=
  Text.body_append_eq (fun h => absurd (hb.blank _ h) (by decide))
    (fun h => absurd (hb.blank _ h) (by decide)) (.inl ht)

/-! ## Words and arguments of a line -/

theorem Pattern.Takes.exists_cons_of_argument {x : Text} (hx : Pattern.argument.Takes x) :
    ∃ c u, x = c :: u ∧ isBlank c = false ∧ c ≠ '#' := by
  obtain ⟨u, v, rfl, hu, -⟩ := hx.seq
  obtain ⟨c, rfl, hc⟩ := hu.one
  rw [CharSet.solid_holds, Bool.and_eq_true, bne_iff_ne, Bool.not_eq_true'] at hc
  exact ⟨c, v, rfl, hc.2, hc.1⟩

/-- An argument does not start with a blank. -/
theorem head?_ne_blank_of_argument {x : Text} (hx : Pattern.argument.Takes x) :
    x ≠ [] ∧ ∀ c ∈ x.head?, c ≠ ' ' ∧ c ≠ '\t' := by
  obtain ⟨c, u, rfl, hc, -⟩ := hx.exists_cons_of_argument
  exact ⟨List.cons_ne_nil c u, Text.ne_blank_of_solid fun d hd => Option.some.inj hd ▸ hc⟩

/-- A word does not start with a blank. -/
theorem head?_ne_blank_of_words {list : List String} (hlist : PlainWords list) {x : Text}
    (hx : (Pattern.words list).Takes x) : x ≠ [] ∧ ∀ c ∈ x.head?, c ≠ ' ' ∧ c ≠ '\t' := by
  obtain ⟨s, hs, hfold⟩ := hx.words hlist
  have hplain := hlist.plain s hs
  exact ⟨hfold.ne_nil hplain.ne_nil,
    Text.ne_blank_of_solid fun c hc => (hfold.solid hplain c (List.mem_of_head? hc)).1⟩

end Highlighter
