import Mathlib.Order.Lattice.Nat
import Highlighter.Proofs.Pdfile.DirectiveLines

/-!
# Origins

The line of an origin is decided by the body of the rest of the line (`origin_tokens`).
An `AS` with blanks around it is a separator if solid characters stand around the blanks.
If the body has one, it is cut at the last one into an image, the `AS` and a label.
Otherwise it is one string, even if it starts or ends with an `AS`.

The rule for an origin with a label reads two arguments, and the first of them may have an
`AS` in it.  Its ends are tried from the last one on, and behind an end the rest matches
exactly if a separator is there (`Separator.exists_prefersRow`, `exists_separator`).  A
longer image has a later separator (`Separator.start_lt`), so the first end that leads on
is the one before the last separator.  Where none leads on, the rule for any directive
fires.
-/

namespace Highlighter.Pdfile

open Category Pattern

/-! ## Separators -/

/-- An `AS` in a body, with blanks around it and solid characters around the blanks. -/
structure Separator (body : Text) where
  /-- What stands before the blanks. -/
  image : Text
  /-- The blanks before the word. -/
  gap : Text
  /-- The word. -/
  word : Text
  /-- The blanks after it. -/
  after : Text
  /-- What follows the blanks. -/
  label : Text
  text : body = image ++ (gap ++ (word ++ (after ++ label)))
  image_ne_nil : image ≠ []
  image_solid : ∀ c ∈ image.getLast?, isBlank c = false
  gap_blanks : gap.Blanks
  isWord : word.EqFold "AS".toList
  after_blanks : after.Blanks
  label_ne_nil : label ≠ []
  label_solid : ∀ c ∈ label.head?, isBlank c = false

/-- The word of separators is plain. -/
theorem plain_as : Text.Plain "AS".toList := .ofList (by decide)

namespace Separator

variable {body t : Text}

/-- How many characters stand before the word. -/
def start (s : Separator body) : Nat := (s.image ++ s.gap).length

/-- No separator stands after this one. -/
def Last (s : Separator body) : Prop := ∀ s' : Separator body, s'.start ≤ s.start

/-- The texts of a body that is cut at a separator, with their categories. -/
def row (s : Separator body) : List (Category × Text) :=
  [(string, s.image), (whitespace, s.gap), (keyword, s.word), (whitespace, s.after),
    (string, s.label)]

theorem length_word (s : Separator body) : s.word.length = 2 := s.isWord.length_eq

/-- After the start of a separator come the word, a blank and a character of the label. -/
theorem start_add_le (s : Separator body) : s.start + 4 ≤ body.length := by
  have htext := congrArg List.length s.text
  have hafter := List.length_pos_iff.mpr s.after_blanks.ne_nil
  have hlabel := List.length_pos_iff.mpr s.label_ne_nil
  simp only [List.length_append, s.length_word] at htext
  simp only [start, List.length_append]
  omega

/-- Before the start of a separator come a character of the image and a blank. -/
theorem two_le_start (s : Separator body) : 2 ≤ s.start := by
  have himage := List.length_pos_iff.mpr s.image_ne_nil
  have hgap := List.length_pos_iff.mpr s.gap_blanks.ne_nil
  simp only [start, List.length_append]
  omega

/-- A body that has a separator has a last one. -/
theorem exists_last (s : Separator body) : ∃ s : Separator body, s.Last := by
  have hbounded : BddAbove (Set.range (start : Separator body → ℕ)) :=
    ⟨body.length, by rintro _ ⟨s, rfl⟩; exact (Nat.le_add_right _ 4).trans s.start_add_le⟩
  obtain ⟨last, hlast⟩ := Nat.sSup_mem (Set.range_nonempty_iff_nonempty.mpr ⟨s⟩) hbounded
  exact ⟨last, fun s' => hlast ▸ le_csSup hbounded ⟨s', rfl⟩⟩

/-- A separator with a longer image stands later. -/
theorem start_lt {s s' : Separator body} (h : s.image.length < s'.image.length) :
    s.start < s'.start := by
  have htext : s.image ++ (s.gap ++ (s.word ++ (s.after ++ s.label))) =
      s'.image ++ (s'.gap ++ (s'.word ++ (s'.after ++ s'.label))) := s.text.symm.trans s'.text
  -- The longer image ends in a solid character, so it goes on behind the blanks of the other.
  rcases List.append_eq_append_iff.mp htext with ⟨z, himage, hrest⟩ | ⟨z, himage, -⟩
  · have hz : z ≠ [] := by
      rintro rfl
      rw [himage, List.append_nil] at h
      exact lt_irrefl _ h
    rcases List.append_eq_append_iff.mp hrest with ⟨y, hmore, -⟩ | ⟨y, hgap, -⟩
    · have hgap' := List.length_pos_iff.mpr s'.gap_blanks.ne_nil
      simp only [start, himage, hmore, List.length_append]
      omega
    · obtain ⟨c, hc⟩ := Option.ne_none_iff_exists'.mp (mt List.getLast?_eq_none_iff.mp hz)
      have hsolid := s'.image_solid c (by rw [himage, List.getLast?_append, hc]; rfl)
      have hmem : c ∈ s.gap := hgap ▸ List.mem_append_left y (List.mem_of_getLast? hc)
      rcases s.gap_blanks.blank c hmem with rfl | rfl <;> exact absurd hsolid (by decide)
  · rw [himage, List.length_append] at h
    omega

/-- A body is cut in one way only at a separator that starts at some position. -/
theorem row_eq {s s' : Separator body} (h : s.start = s'.start) : s.row = s'.row := by
  have htext : (s.image ++ s.gap) ++ (s.word ++ (s.after ++ s.label)) =
      (s'.image ++ s'.gap) ++ (s'.word ++ (s'.after ++ s'.label)) := by
    rw [List.append_assoc, List.append_assoc]
    exact s.text.symm.trans s'.text
  obtain ⟨hbefore, hrest⟩ := List.append_inj htext h
  obtain ⟨hword, hbehind⟩ := List.append_inj hrest (s.length_word.trans s'.length_word.symm)
  obtain ⟨hafter, hlabel⟩ := s.after_blanks.cut s'.after_blanks
    (Text.ne_blank_of_solid s.label_solid) (Text.ne_blank_of_solid s'.label_solid) hbehind
  have hreverse : ∀ s : Separator body, Text.Blanks s.gap.reverse := fun s =>
    ⟨by simpa using s.gap_blanks.ne_nil, fun c hc => s.gap_blanks.blank c (List.mem_reverse.mp hc)⟩
  have hsolid : ∀ s : Separator body, ∀ c ∈ s.image.reverse.head?, c ≠ ' ' ∧ c ≠ '\t' := fun s =>
    Text.ne_blank_of_solid (by rw [List.head?_reverse]; exact s.image_solid)
  obtain ⟨hgap, himage⟩ := (hreverse s).cut (hreverse s') (hsolid s) (hsolid s')
    (by simpa using congrArg List.reverse hbefore)
  rw [List.reverse_inj] at hgap himage
  rw [row, row, himage, hgap, hword, hafter, hlabel]

/-! ## The rule for an origin with a label -/

/-- What follows the image. -/
def tail : Pattern := .groupsThen 4 [.blanks, .literal "AS", .blanks] (.group 7 .argument)

theorem row_tail : tail.Row 4 [.blanks, .literal "AS", .blanks, .argument] :=
  Row.groupsThen [.blanks, .literal "AS", .blanks] (by
    simp only [List.forall_mem_cons]
    exact ⟨groupless_blanks, groupless_literal "AS", groupless_blanks, by simp⟩)
    (.last groupless_argument)

/-- A line with a separator, and a rest that has no body. -/
theorem exists_append (s : Separator t.body) :
    ∃ x, t = s.image ++ (s.gap ++ (s.word ++ (s.after ++ (s.label ++ x)))) ∧ x.body = [] := by
  obtain ⟨x, ht, hx⟩ := Text.exists_eq_body_append t
  refine ⟨x, ?_, hx⟩
  conv_lhs => rw [ht, s.text]
  simp

theorem trimmed_image (s : Separator t.body) : s.image.Trimmed := by
  have hbody := Text.trimmed_body t
  rw [s.text] at hbody
  exact ⟨fun hmem => hbody.hash (List.mem_append_left _ hmem),
    fun hmem => hbody.newline (List.mem_append_left _ hmem), s.image_solid⟩

theorem trimmed_label (s : Separator t.body) : s.label.Trimmed := by
  have hbody := Text.trimmed_body t
  rw [s.text] at hbody
  exact hbody.right.right.right.right

/-- An argument may end behind the image of a separator. -/
theorem exists_mem_argument (s : Separator t.body) (ht : ∀ c ∈ t.head?, isBlank c = false)
    {a : Place} (ha : a.rest = t) : ∃ b ∈ Pattern.argument.run a, a.Reads s.image b := by
  obtain ⟨x, htext, -⟩ := s.exists_append
  have hchars : ∀ c ∈ s.image, c ≠ '#' ∧ c ≠ '\n' := fun c hc =>
    ⟨fun heq => s.trimmed_image.hash (heq ▸ hc), fun heq => s.trimmed_image.newline (heq ▸ hc)⟩
  have hsolid : ∀ c ∈ s.image, isBlank c = false → CharSet.solid.holds c = true :=
    fun c hc hblank => by simp [CharSet.solid_holds, hblank, (hchars c hc).1]
  refine Pattern.exists_mem_argument (ha.trans htext) s.image_ne_nil
    (fun c hc => by simpa [CharSet.beforeComment_holds] using hchars c hc) (fun c hc => ?_)
    fun c hc => hsolid c (List.mem_of_getLast? hc) (s.image_solid c hc)
  refine hsolid c (List.mem_of_head? hc) (ht c ?_)
  rw [htext, List.head?_append, hc]
  rfl

/-- Behind the image of a separator the rest matches, and reads up to the end of the body. -/
theorem exists_prefersRow (s : Separator t.body) {a : Place} {x : Text}
    (ha : a.rest = s.gap ++ (s.word ++ (s.after ++ (s.label ++ x)))) (hx : x.body = []) :
    ∃ e, tail.PrefersRow 4 a [s.gap, s.word, s.after, s.label] e := by
  have hword : ∀ c ∈ s.word, isBlank c = false := fun c hc => (s.isWord.solid plain_as c hc).1
  have hne : s.word ≠ [] := s.isWord.ne_nil plain_as.ne_nil
  obtain ⟨e₁, hgap⟩ := prefers_blanks s.gap_blanks ha (by
    rw [List.head?_append_of_ne_nil _ hne]
    exact Text.ne_blank_of_solid fun c hc => hword c (List.mem_of_head? hc))
  have hrest₁ : e₁.rest = s.word ++ (s.after ++ (s.label ++ x)) := hgap.reads.leaves ha
  obtain ⟨e₂, has⟩ := prefers_literal (a := e₁.capture 4 a.offset) plain_as.chars s.isWord hrest₁
  have hrest₂ : e₂.rest = s.after ++ (s.label ++ x) := has.reads.leaves hrest₁
  obtain ⟨e₃, hafter⟩ := prefers_blanks (a := e₂.capture 5 (e₁.capture 4 a.offset).offset)
    s.after_blanks hrest₂ (by
      rw [List.head?_append_of_ne_nil _ s.label_ne_nil]
      exact Text.ne_blank_of_solid s.label_solid)
  have hrest₃ : e₃.rest = s.label ++ x := hafter.reads.leaves hrest₂
  obtain ⟨e₄, hargument⟩ := s.trimmed_label.prefers_argument
    (a := e₃.capture 6 (e₂.capture 5 (e₁.capture 4 a.offset).offset).offset) s.label_ne_nil
    s.label_solid hx hrest₃
  exact ⟨_, (((hargument.last groupless_argument 7).cons hafter groupless_blanks).cons has
    (groupless_literal "AS")).cons hgap groupless_blanks⟩

end Separator

section Rule

variable {w b t image x : Text} {ws : List Text} {m : Match}

/-- Where an image and what may follow it are read, a separator is. -/
theorem exists_separator (himage : Pattern.argument.Takes image)
    (hws : List.Forall₂ Takes [.blanks, .literal "AS", .blanks, .argument] ws)
    (ht : t = image ++ (ws.flatten ++ x)) : ∃ s : Separator t.body, s.image = image := by
  obtain _ | @⟨_, gap, _, _, hgap, _ | @⟨_, word, _, _, hword, _ | @⟨_, after, _, _, hafter,
    _ | @⟨_, v, _, _, hv, _ | _⟩⟩⟩⟩ := hws
  have hfold := hword.literal plain_as.chars
  obtain ⟨c, v, rfl, hc, hash⟩ := hv.exists_cons_of_argument
  obtain ⟨u, hu⟩ := Text.exists_body_eq_cons (v ++ x) hc hash
  have htrimmed := trimmed_of_argument himage
  have hbody : t.body = image ++ (gap ++ (word ++ (after ++ c :: u))) := by
    have ht : t = image ++ (gap ++ (word ++ (after ++ c :: (v ++ x)))) := by simpa using ht
    have hlabel := hafter.blanks.body_append (t := c :: (v ++ x)) (hu ▸ List.cons_ne_nil c u)
    have has := (hfold.trimmed plain_as).body_append (after ++ c :: (v ++ x))
    have hgap := hgap.blanks.body_append (t := word ++ (after ++ c :: (v ++ x))) (by
      rw [has]
      simp [hfold.ne_nil plain_as.ne_nil])
    rw [ht, htrimmed.body_append, hgap, has, hlabel, hu]
  exact ⟨⟨image, gap, word, after, c :: u, hbody, himage.argument.ne_nil, htrimmed.last,
    hgap.blanks, hfold, hafter.blanks, List.cons_ne_nil c u,
    fun d hd => Option.some.inj hd ▸ hc⟩, rfl⟩

/-- Of the ends of the first argument the one before the last separator is the first that leads
on. -/
theorem Separator.Last.exists_prefersRow {s : Separator t.body} (hs : s.Last)
    (hsolid : ∃ c rest, t = c :: rest ∧ isBlank c = false ∧ c ≠ '#') {a : Place}
    (ha : a.rest = t) :
    ∃ e, (Pattern.seq (.group 3 .argument) tail).PrefersRow 3 a
      [s.image, s.gap, s.word, s.after, s.label] e := by
  obtain ⟨x, htext, hx⟩ := s.exists_append
  obtain ⟨c, rest, hcons, hc, hash⟩ := hsolid
  have hhead : ∀ d ∈ t.head?, isBlank d = false := fun d hd => by
    rw [hcons] at hd
    exact Option.some.inj hd ▸ hc
  obtain ⟨y, hmem, hreads⟩ := s.exists_mem_argument hhead ha
  obtain ⟨earlier, later, hrun⟩ := List.append_of_mem hmem
  have hrest : y.rest = s.gap ++ (s.word ++ (s.after ++ (s.label ++ x))) :=
    hreads.leaves (ha.trans htext)
  obtain ⟨e, he⟩ := s.exists_prefersRow (a := y.capture 3 a.offset) hrest hx
  refine ⟨e, he.cons_of_split groupless_argument hrun (fun z hz => ?_) hreads⟩
  -- An earlier end that leads on would be behind the image of a later separator.
  by_contra hleads
  obtain ⟨e', he'⟩ := List.exists_mem_of_ne_nil _ hleads
  have hmem' : z ∈ Pattern.argument.run a := hrun ▸ List.mem_append_left _ hz
  obtain ⟨image, hreads', -⟩ := Pattern.argument.exists_reads a z hmem'
  obtain ⟨ws, -, hws, hcut, -⟩ := Separator.row_tail.exists_cut he'
  have hline : t = image ++ (ws.flatten ++ e'.rest) := by
    rw [← ha, hreads'.rest]
    exact congrArg (image ++ ·) hcut.rest
  obtain ⟨s', himage⟩ := exists_separator ⟨a, z, hmem', hreads'⟩ hws hline
  have hlongest := longestFirst_argument (ha.trans hcons) (by simp [CharSet.solid_holds, hc, hash])
  rw [hrun] at hlongest
  have hshorter : z.rest.length < y.rest.length :=
    (List.pairwise_append.mp hlongest).2.2 z hz y (List.mem_cons_self ..)
  have hlength := congrArg List.length (hreads'.rest.symm.trans hreads.rest)
  simp only [List.length_append, ← himage] at hlength
  exact absurd (hs s') (not_le.mpr (Separator.start_lt (by omega)))

theorem from_mem_keywords : "FROM" ∈ keywords := by decide

/-- Where the body has a separator, the rule fires and cuts the body at the last one. -/
theorem exists_fires_fromAsRule (h : ArgumentLine "FROM" w b t) {s : Separator t.body}
    (hs : s.Last) :
    ∃ m, fromAsRule.fires? true (w ++ (b ++ t)) = some m ∧
      t = [s.image, s.gap, s.word, s.after, s.label].flatten ++ m.rest ∧
      m.HasGroups 1 0 [w, b, s.image, s.gap, s.word, s.after, s.label] := by
  obtain ⟨m, hm, htext, hgroups⟩ := h.exists_find_row from_mem_keywords fun a ha =>
    hs.exists_prefersRow h.solid ha
  have hmem : fromAsRule ∈ rootTable := by simp [rootTable, leadTable_eq]
  exact ⟨m, (form_of_mem_rootTable _ hmem).fires?_alone hm rfl, htext, hgroups⟩

/-- Where the rule fires, the body has a separator. -/
theorem nonempty_separator (h : ArgumentLine "FROM" w b t)
    (hm : fromAsRule.fires? true (w ++ (b ++ t)) = some m) : Nonempty (Separator t.body) := by
  obtain ⟨xs, hxs, htext, -⟩ := h.groups_of_find from_mem_keywords row_fromAs
    (fun x hx => head?_ne_blank_of_argument hx) (BuiltRule.fires?_eq_some_iff.mp hm).2.1
  obtain _ | @⟨_, image, _, _, himage, hws⟩ := hxs
  obtain ⟨s, -⟩ := exists_separator himage hws (by simpa using htext)
  exact ⟨s⟩

/-- Where the rule fires, it is the first of all. -/
theorem firstFiring?_fromAsRule (h : ArgumentLine "FROM" w b t)
    (hm : fromAsRule.fires? true (w ++ (b ++ t)) = some m) :
    firstFiring? true (w ++ (b ++ t)) rootTable = some (fromAsRule, m) := by
  have hline := h.toDirectiveLine
  have hshell := ledBy_shellRule.fires?_eq_none (upper_of_subset (by decide)) (by decide)
    from_mem_keywords hline true
  refine hline.firstFiring?_of_leadTable from_mem_keywords ?_
  rw [leadTable_eq, firstFiring?, hshell, firstFiring?, hm]

/-- Where the rule does not fire, the rule for any directive is the first that does. -/
theorem exists_firstFiring?_of_silent (h : ArgumentLine "FROM" w b t)
    (hsilent : fromAsRule.fires? true (w ++ (b ++ t)) = none) :
    ∃ m, firstFiring? true (w ++ (b ++ t)) rootTable = some (anyDirectiveRule, m) ∧
      t = [t.body].flatten ++ m.rest ∧ m.HasGroups 1 0 [w, b, t.body] := by
  have hline := h.toDirectiveLine
  have hlead : ∀ rule ∈ leadTable, rule.fires? true (w ++ (b ++ t)) = none := by
    rw [leadTable_eq]
    simp only [List.forall_mem_cons]
    exact ⟨ledBy_shellRule.fires?_eq_none (upper_of_subset (by decide)) (by decide)
      from_mem_keywords hline true, hsilent, ledBy_attributeRule.fires?_eq_none
      (upper_of_subset (by decide)) (by decide) from_mem_keywords hline true, by simp⟩
  exact h.exists_firstFiring?_anyDirectiveRule from_mem_keywords hlead (by decide) (by decide)
    (by decide)

end Rule

/-! ## The tokens of the line -/

/-- The line of an origin with an argument gives the directive, the blanks, and the body of the rest
of the line, which is cut at its last separator if it has one, and one string otherwise. -/
theorem origin_tokens {source before w b t : Text} (hplace : LineAt source before (w ++ (b ++ t)))
    (hline : ArgumentLine "FROM" w b t) :
    ∃ lead row others, tokenize Language.pdfile.grammar source =
        lead ++ (Token.row before.size ((.keyword, w) :: (.whitespace, b) :: row) ++ others) ∧
      Tiles 0 before lead ∧
      ((∃ s : Separator t.body, s.Last ∧ row = s.row) ∨
        IsEmpty (Separator t.body) ∧ row = [(.string, t.body)]) := by
  rcases isEmpty_or_nonempty (Separator t.body) with hempty | ⟨⟨s⟩⟩
  · have hsilent : fromAsRule.fires? true (w ++ (b ++ t)) = none :=
      Option.eq_none_iff_forall_ne_some.mpr fun m hm =>
        not_nonempty_iff.mpr hempty (nonempty_separator hline hm)
    obtain ⟨m, hfire, htext, hgroups⟩ := exists_firstFiring?_of_silent hline hsilent
    obtain ⟨lx, hreads, -⟩ := hline.exists_readsLine from_mem_keywords hplace hfire rfl rfl htext
      hgroups
    obtain ⟨lead, htokens, hlead⟩ := hreads.exists_tokenize_eq
    refine ⟨lead, _, _, htokens, hlead, .inr ⟨hempty, ?_⟩⟩
    simp [hline.body_ne_nil]
  · obtain ⟨s, hs⟩ := s.exists_last
    obtain ⟨m, hm, htext, hgroups⟩ := exists_fires_fromAsRule hline hs
    obtain ⟨lx, hreads, -⟩ := hline.exists_readsLine from_mem_keywords hplace
      (firstFiring?_fromAsRule hline hm) rfl rfl htext hgroups
    obtain ⟨lead, htokens, hlead⟩ := hreads.exists_tokenize_eq
    refine ⟨lead, _, _, htokens, hlead, .inl ⟨s, hs, ?_⟩⟩
    simp [Separator.row, s.image_ne_nil, s.gap_blanks.ne_nil,
      s.isWord.ne_nil plain_as.ne_nil, s.after_blanks.ne_nil, s.label_ne_nil]

/-- An image with a separator in it before a comment, and an `AS` with nothing before it. -/
theorem origin_tokens_from :
    let w : Text := ['F', 'r', 'o', 'm']
    let nested : Text := ['a', ' ', 'a', 's', ' ', 'b', '\t', 'a', 'S', ' ', 'c', ' ', '#', 'x']
    let bare : Text := ['A', 'S', ' ', 'b']
    (∀ t ∈ [nested, bare], LineAt (w ++ ([' '] ++ t)) [] (w ++ ([' '] ++ t)) ∧
      ArgumentLine "FROM" w [' '] t) ∧
    (∃ others, tokenize Language.pdfile.grammar (w ++ ([' '] ++ nested)) =
      Token.row 0 [(.keyword, w), (.whitespace, [' ']),
        (.string, ['a', ' ', 'a', 's', ' ', 'b']), (.whitespace, ['\t']), (.keyword, ['a', 'S']),
        (.whitespace, [' ']), (.string, ['c'])] ++ others) ∧
    ∃ others, tokenize Language.pdfile.grammar (w ++ ([' '] ++ bare)) =
      Token.row 0 [(.keyword, w), (.whitespace, [' ']), (.string, bare)] ++ others := by
  intro w nested bare
  have hplace : ∀ t : Text, LineAt (w ++ ([' '] ++ t)) [] (w ++ ([' '] ++ t)) := fun t =>
    .first (by decide : isBlank 'F' = false)
  have hfold : w.EqFold "FROM".toList := by decide +kernel
  have hblanks : Text.Blanks [' '] := ⟨by decide, by simp⟩
  have hnested : ArgumentLine "FROM" w [' '] nested :=
    ⟨hfold, hblanks, 'a', _, rfl, by decide, by decide⟩
  have hbare : ArgumentLine "FROM" w [' '] bare :=
    ⟨hfold, hblanks, 'A', _, rfl, by decide, by decide⟩
  let last : Separator nested.body :=
    ⟨['a', ' ', 'a', 's', ' ', 'b'], ['\t'], ['a', 'S'], [' '], ['c'], by decide, by decide,
      by simpa using (by decide : isBlank 'b' = false), ⟨by decide, by simp⟩, by decide +kernel,
      hblanks, by decide, by simpa using (by decide : isBlank 'c' = false)⟩
  obtain ⟨lead, _, others, htokens, hlead, hrow⟩ := origin_tokens (hplace nested) hnested
  obtain ⟨lead', _, others', htokens', hlead', hrow'⟩ := origin_tokens (hplace bare) hbare
  rw [hlead.eq_nil] at htokens
  rw [hlead'.eq_nil] at htokens'
  refine ⟨by simpa using ⟨⟨hplace nested, hnested⟩, hplace bare, hbare⟩, ⟨others, ?_⟩, others', ?_⟩
  · rcases hrow with ⟨s, hs, rfl⟩ | ⟨hempty, -⟩
    · have hend : last.start + 4 = nested.body.length := rfl
      have hstart : s.start = last.start :=
        le_antisymm (Nat.le_of_add_le_add_right (hend ▸ s.start_add_le)) (hs last)
      rw [Separator.row_eq hstart] at htokens
      exact htokens
    · exact (hempty.false last).elim
  · rcases hrow' with ⟨s, -⟩ | ⟨-, rfl⟩
    · have hlength : s.start + 4 ≤ 4 := s.start_add_le
      have := s.two_le_start
      omega
    · exact htokens'

end Highlighter.Pdfile
