import Mathlib.Data.List.Basic
import Mathlib.Data.List.TakeWhile
import Highlighter.Language
import Highlighter.Proofs.Separators

/-!
# The line that decides

The language of a content is told by its deciding line, the first that is neither blank nor a
comment (`Deciding`).  The lines are looked at one by one, each without the blanks at its ends.

`Text.solidFrom` reads the same content character by character.  It passes over blanks, and over
comments up to the line end.  What it leaves is the deciding line from its first solid character
on, and the lines after it (`Deciding.exists_solidFrom_eq`).  It leaves nothing of a content
without such a line.  So the language is told by the first word behind blanks and comments
(`Language.ofContent?_eq`), and that is what a scan gets to see.
-/

namespace Highlighter

namespace Text

variable {t u b : Text}

/-! ## Blanks at the ends -/

theorem solid_of_head?_trimStart (t : Text) : ∀ c ∈ t.trimStart.head?, isBlank c = false := by
  intro c hc
  have h := List.head?_dropWhile_not isBlank t
  have hhead : (t.dropWhile isBlank).head? = some c := hc
  rw [hhead] at h
  exact h

theorem trimStart_of_solid (h : ∀ c ∈ t.head?, isBlank c = false) : t.trimStart = t := by
  cases t with
  | nil => rfl
  | cons c t => exact List.dropWhile_cons_of_neg (by simp [h c rfl])

/-- Behind the blanks at the start, only blanks at the end are cut off. -/
theorem exists_trim_append (t : Text) :
    ∃ b : Text, t.trimStart = t.trim ++ b ∧ ∀ c ∈ b, isBlank c = true := by
  refine ⟨(t.trimStart.reverse.takeWhile isBlank).reverse, ?_, fun c hc => ?_⟩
  · rw [trim, trimStart.eq_def t.trimStart.reverse, ← List.reverse_append,
      List.takeWhile_append_dropWhile, List.reverse_reverse]
  · exact List.mem_takeWhile_imp (List.mem_reverse.mp hc)

theorem head?_trim (t : Text) : t.trim.head? = t.trimStart.head? := by
  obtain ⟨b, htext, hb⟩ := t.exists_trim_append
  cases htrim : t.trim with
  | cons c u => rw [htext, htrim]; rfl
  | nil =>
    rw [htrim, List.nil_append] at htext
    cases b with
    | nil => rw [htext]
    | cons c b =>
      have hsolid := t.solid_of_head?_trimStart c (by rw [htext]; rfl)
      rw [hb c (List.mem_cons_self ..)] at hsolid
      cases hsolid

/-- A word ends before a blank. -/
theorem takeWhile_append_of_blank (u : Text) (hb : ∀ c ∈ b.head?, isBlank c = true) :
    (u ++ b).takeWhile (!isBlank ·) = u.takeWhile (!isBlank ·) := by
  induction u with
  | nil =>
    cases b with
    | nil => rfl
    | cons c b => exact List.takeWhile_cons_of_neg (by simp [hb c rfl])
  | cons c u ih => rw [List.cons_append, List.takeWhile_cons, List.takeWhile_cons, ih]

theorem firstWord_of_solid (h : ∀ c ∈ t.head?, isBlank c = false) :
    t.firstWord = t.takeWhile (!isBlank ·) := by
  rw [firstWord, trimStart_of_solid h]

/-- A solid text before a blank is the first word. -/
theorem firstWord_append (hne : u ≠ []) (hu : ∀ c ∈ u, isBlank c = false)
    (hb : ∀ c ∈ b.head?, isBlank c = true) : (u ++ b).firstWord = u := by
  have hsolid : ∀ c ∈ (u ++ b).head?, isBlank c = false := fun c hc => by
    rw [List.head?_append_of_ne_nil u hne] at hc
    exact hu c (List.mem_of_head? hc)
  rw [firstWord_of_solid hsolid, takeWhile_append_of_blank u hb, List.takeWhile_eq_self_iff]
  exact fun c hc => by simp [hu c hc]

/-- A blank follows the first word, or nothing does. -/
theorem exists_firstWord_append (h : ∀ c ∈ t.head?, isBlank c = false) :
    ∃ rest : Text, t = t.firstWord ++ rest ∧ ∀ c ∈ rest.head?, isBlank c = true := by
  refine ⟨t.dropWhile (!isBlank ·), ?_, fun c hc => ?_⟩
  · rw [firstWord_of_solid h, List.takeWhile_append_dropWhile]
  · have hstops := List.head?_dropWhile_not (!isBlank ·) t
    rw [hc] at hstops
    simpa using hstops

/-- The first word is not changed by the blanks at the ends. -/
theorem firstWord_trim (t : Text) : t.trim.firstWord = t.firstWord := by
  obtain ⟨b, htext, hb⟩ := t.exists_trim_append
  have hsolid : ∀ c ∈ t.trim.head?, isBlank c = false := by
    rw [head?_trim]
    exact t.solid_of_head?_trimStart
  rw [firstWord_of_solid hsolid, firstWord, htext,
    takeWhile_append_of_blank _ fun c hc => hb c (List.mem_of_head? hc)]

/-! ## Behind blanks and comments -/

/-- A text from its first character on that is neither a blank nor part of a comment.  The text may
start within a comment. -/
def solidFrom : (inComment : Bool) → Text → Text
  | _, [] => []
  | true, c :: t => solidFrom (c != '\n') t
  | false, c :: t =>
      if isBlank c then solidFrom false t
      else if c == '#' then solidFrom true t
      else c :: t

theorem solidFrom_of_solid {c : Char} (hc : isBlank c = false) (hash : c ≠ '#') (t : Text) :
    solidFrom false (c :: t) = c :: t := by
  rw [solidFrom, if_neg (by simp [hc]), if_neg (by simpa using hash)]

theorem solidFrom_blank {c : Char} (hc : isBlank c = true) (t : Text) :
    solidFrom false (c :: t) = solidFrom false t := by
  rw [solidFrom, if_pos hc]

theorem solidFrom_blanks_append (hb : ∀ c ∈ b, isBlank c = true) (t : Text) :
    solidFrom false (b ++ t) = solidFrom false t := by
  induction b with
  | nil => rfl
  | cons c b ih =>
    rw [List.forall_mem_cons] at hb
    rw [List.cons_append, solidFrom_blank hb.1, ih hb.2]

/-- A comment is passed over up to the line end. -/
theorem solidFrom_comment_append (hu : '\n' ∉ u) (ht : ∀ c ∈ t.head?, c = '\n') :
    solidFrom true (u ++ t) = solidFrom false t := by
  induction u with
  | nil =>
    cases t with
    | nil => rfl
    | cons c t =>
      obtain rfl := ht c rfl
      rfl
  | cons c u ih =>
    rw [List.mem_cons, not_or] at hu
    have hc : (c != '\n') = true := bne_iff_ne.mpr (Ne.symm hu.1)
    rw [List.cons_append, solidFrom, hc, ih hu.2]

theorem solidFrom_dropWhile_blanks_append (s t : Text) :
    solidFrom false (s.dropWhile isBlank ++ t) = solidFrom false (s ++ t) := by
  have hblank : ∀ c ∈ s.takeWhile isBlank, isBlank c = true := fun c hc =>
    List.mem_takeWhile_imp hc
  rw [← solidFrom_blanks_append hblank, ← List.append_assoc, List.takeWhile_append_dropWhile]

theorem solidFrom_dropWhile_comment (t : Text) :
    solidFrom false (t.dropWhile (· != '\n')) = solidFrom true t := by
  have hline : '\n' ∉ t.takeWhile (· != '\n') := fun hmem =>
    absurd (List.mem_takeWhile_imp hmem) (by decide)
  have hend : ∀ c ∈ (t.dropWhile (· != '\n')).head?, c = '\n' := fun c hc => by
    have h := List.head?_dropWhile_not (· != '\n') t
    rw [hc] at h
    simpa using h
  rw [← solidFrom_comment_append hline hend, List.takeWhile_append_dropWhile]

/-- What is left starts with a solid character. -/
theorem solid_of_solidFrom (inComment : Bool) (t : Text) :
    ∀ c ∈ (solidFrom inComment t).head?, isBlank c = false ∧ c ≠ '#' := by
  induction t generalizing inComment with
  | nil => cases inComment <;> simp [solidFrom]
  | cons d t ih =>
    cases inComment with
    | true => exact ih (d != '\n')
    | false =>
      rw [solidFrom]
      split
      · exact ih false
      · next hblank =>
        split
        · exact ih true
        · next hash =>
          intro c hc
          obtain rfl : d = c := Option.some.inj hc
          exact ⟨by simpa using hblank, by simpa using hash⟩

/-! ## Lines -/

/-- A line is blank, or it is a comment, where blanks at its ends do not count. -/
def Passed (line : Text) : Prop := line.trim = [] ∨ line.trim.head? = some '#'

instance (line : Text) : Decidable line.Passed := inferInstanceAs (Decidable (_ ∨ _))

theorem passed_iff {line : Text} : line.Passed ↔ ∀ c ∈ line.trimStart.head?, c = '#' := by
  rw [Passed, ← List.head?_eq_none_iff, head?_trim]
  cases line.trimStart.head? <;> simp

theorem exists_solid_of_not_passed {line : Text} (h : ¬ line.Passed) :
    ∃ c u, line.trimStart = c :: u ∧ isBlank c = false ∧ c ≠ '#' := by
  rw [passed_iff] at h
  cases hstart : line.trimStart with
  | nil => simp [hstart] at h
  | cons c u =>
    have hsolid := line.solid_of_head?_trimStart c (by rw [hstart]; rfl)
    exact ⟨c, u, rfl, hsolid, by simpa [hstart] using h⟩

theorem solidFrom_trimStart_append (line t : Text) :
    solidFrom false (line.trimStart ++ t) = solidFrom false (line ++ t) :=
  solidFrom_dropWhile_blanks_append line t

/-- A line that is blank or a comment leaves nothing. -/
theorem Passed.solidFrom_append {line : Text} (h : line.Passed) (hline : '\n' ∉ line)
    (ht : ∀ c ∈ t.head?, c = '\n') : solidFrom false (line ++ t) = solidFrom false t := by
  rw [← solidFrom_trimStart_append]
  cases hstart : line.trimStart with
  | nil => rfl
  | cons c u =>
    obtain rfl : c = '#' := passed_iff.mp h c (by rw [hstart]; rfl)
    have hsub : '#' :: u ⊆ line := hstart ▸ (List.dropWhile_suffix isBlank).subset
    have hu : '\n' ∉ u := fun hmem => hline (hsub (List.mem_cons_of_mem _ hmem))
    exact solidFrom_comment_append hu ht

/-- Any other line is left from its first solid character on. -/
theorem solidFrom_append_of_not_passed {line : Text} (h : ¬ line.Passed) (t : Text) :
    solidFrom false (line ++ t) = line.trimStart ++ t := by
  obtain ⟨c, u, hstart, hc, hash⟩ := exists_solid_of_not_passed h
  rw [← solidFrom_trimStart_append, hstart, List.cons_append, solidFrom_of_solid hc hash]

/-- The text of some lines, each with its line end. -/
def ofLines (lines : List Text) : Text := lines.flatMap (· ++ ['\n'])

theorem getLast?_ofLines (lines : List Text) : ∀ c ∈ (ofLines lines).getLast?, c = '\n' := by
  rcases List.eq_nil_or_concat' lines with rfl | ⟨lines, line, rfl⟩
  · simp [ofLines]
  · simp [ofLines, eq_comm]

/-- Lines that are blank or comments leave nothing. -/
theorem solidFrom_ofLines_append {lines : List Text} (h : ∀ s ∈ lines, s.Passed ∧ '\n' ∉ s)
    (t : Text) : solidFrom false (ofLines lines ++ t) = solidFrom false t := by
  induction lines with
  | nil => rfl
  | cons s lines ih =>
    rw [List.forall_mem_cons] at h
    have hfirst : ofLines (s :: lines) ++ t = s ++ '\n' :: (ofLines lines ++ t) := by
      simp [ofLines]
    have hblank : isBlank '\n' = true := by decide
    rw [hfirst, h.1.1.solidFrom_append h.1.2 (by simp), solidFrom_blank hblank, ih h.2]

end Text

/-! ## The deciding line -/

/-- A line of a content is the first that is neither blank nor a comment.  Other lines stand before
it. -/
structure Deciding (content : Text) (passed : List Text) (line : Text) : Prop where
  lines : ∃ others, Text.splitAt '\n' content = passed ++ line :: others
  passed : ∀ s ∈ passed, s.Passed
  decides : ¬ line.Passed

namespace Deciding

variable {content line : Text} {passed : List Text}

/-- From its first solid character on, the deciding line and what follows it is left behind blanks
and comments. -/
theorem exists_solidFrom_eq (h : Deciding content passed line) :
    ∃ tail, content = Text.ofLines passed ++ (line ++ tail) ∧ (∀ c ∈ tail.head?, c = '\n') ∧
      Text.solidFrom false content = line.trimStart ++ tail := by
  obtain ⟨others, hlines⟩ := h.lines
  have htext := Text.eq_of_splitAt_eq hlines
  refine ⟨_, htext, Text.head?_flatMap_cons others, ?_⟩
  have hpassed : ∀ s ∈ passed, s.Passed ∧ '\n' ∉ s := fun s hs =>
    ⟨h.passed s hs, Text.not_mem_of_mem_splitAt s (hlines ▸ List.mem_append_left _ hs)⟩
  rw [htext]
  exact (Text.solidFrom_ofLines_append hpassed _).trans
    (Text.solidFrom_append_of_not_passed h.decides _)

/-- There is one deciding line. -/
theorem unique {passed' : List Text} {line' : Text} (h : Deciding content passed line)
    (h' : Deciding content passed' line') : passed = passed' ∧ line = line' := by
  obtain ⟨others, hlines⟩ := h.lines
  obtain ⟨others', hlines'⟩ := h'.lines
  have hcut : ∀ {passed others : List Text} {line : Text}, (∀ s ∈ passed, s.Passed) →
      ¬ line.Passed → (passed ++ line :: others).takeWhile (decide ·.Passed) = passed := by
    intro passed others line hpassed hline
    rw [List.takeWhile_append_of_pos fun s hs => decide_eq_true (hpassed s hs),
      List.takeWhile_cons_of_neg (by simpa using hline), List.append_nil]
  have hboth := hlines.symm.trans hlines'
  have hfirst : passed = passed' := by
    rw [← hcut h.passed h.decides, hboth, hcut h'.passed h'.decides]
  subst hfirst
  exact ⟨rfl, (List.cons.inj (List.append_cancel_left hboth)).1⟩

theorem solidFrom_ne_nil (h : Deciding content passed line) :
    Text.solidFrom false content ≠ [] := by
  obtain ⟨tail, -, -, hsolid⟩ := h.exists_solidFrom_eq
  obtain ⟨c, u, hstart, -⟩ := Text.exists_solid_of_not_passed h.decides
  rw [hsolid, hstart]
  exact List.cons_ne_nil c (u ++ tail)

/-- The first word of the deciding line is the first one behind blanks and comments. -/
theorem firstWord_solidFrom (h : Deciding content passed line) :
    (Text.solidFrom false content).firstWord = line.firstWord := by
  obtain ⟨tail, -, htail, hsolid⟩ := h.exists_solidFrom_eq
  have hblank : ∀ c ∈ tail.head?, isBlank c = true := fun c hc => htail c hc ▸ by decide
  rw [Text.firstWord_of_solid fun c hc => (Text.solid_of_solidFrom false content c hc).1, hsolid,
    Text.takeWhile_append_of_blank _ hblank]
  rfl

end Deciding

namespace Language

variable {content : Text}

theorem isDeciding_iff (line : Text) :
    (!line.trim.isEmpty && line.trim.head? != some '#') = true ↔ ¬ line.Passed := by
  simp [Text.Passed]

/-- What is looked for is the deciding line, without the blanks at its ends. -/
theorem exists_deciding {s : Text} (h : decidingLine? content = some s) :
    ∃ passed line, Deciding content passed line ∧ line.trim = s := by
  rw [decidingLine?, List.find?_map, Option.map_eq_some_iff] at h
  obtain ⟨line, hfind, hs⟩ := h
  obtain ⟨hline, passed, others, hlines, hpassed⟩ := List.find?_eq_some_iff_append.mp hfind
  refine ⟨passed, line, ⟨⟨others, hlines⟩, fun u hu => ?_, (isDeciding_iff line).mp hline⟩, hs⟩
  by_contra hnot
  have hfalse := (Bool.not_eq_true' _).mp (hpassed u hu)
  exact Bool.false_ne_true (hfalse.symm.trans ((isDeciding_iff u).mpr hnot))

/-- In a content without a deciding line nothing is left behind blanks and comments. -/
theorem solidFrom_eq_nil (h : decidingLine? content = none) :
    Text.solidFrom false content = [] := by
  rw [decidingLine?, List.find?_map, Option.map_eq_none_iff, List.find?_eq_none] at h
  have hpassed : ∀ s ∈ Text.splitAt '\n' content, s.Passed ∧ '\n' ∉ s := fun s hs =>
    ⟨not_not.mp (mt (isDeciding_iff s).mpr (h s hs)), Text.not_mem_of_mem_splitAt s hs⟩
  rcases List.eq_nil_or_concat' (Text.splitAt '\n' content) with hnil | ⟨passed, last, hlines⟩
  · exact absurd hnil (Text.splitAt_ne_nil '\n' content)
  · have htext := Text.eq_of_splitAt_eq hlines
    rw [hlines, List.forall_mem_append, List.forall_mem_singleton] at hpassed
    obtain ⟨hothers, hlast, hline⟩ := hpassed
    have hsolid := (Text.solidFrom_ofLines_append hothers (last ++ [])).trans
      (hlast.solidFrom_append hline (by simp))
    rw [htext]
    exact hsolid

/-! ## The word that decides -/

/-- The language that a word tells. -/
def ofWord? (word : Text) : Option Language :=
  if Text.eqIgnoreCase word Prldevops.program.toList then some prldevops
  else if Pdfile.keywords.any fun k => Text.eqIgnoreCase k.toList word then some pdfile
  else none

/-- The language of a content is told by the first word behind blanks and comments. -/
theorem ofContent?_eq (content : Text) :
    ofContent? content = ofWord? (Text.solidFrom false content).firstWord := by
  rw [ofContent?]
  cases h : decidingLine? content with
  | none =>
    rw [solidFrom_eq_nil h]
    rfl
  | some s =>
    obtain ⟨passed, line, hdeciding, rfl⟩ := exists_deciding h
    rw [hdeciding.firstWord_solidFrom, ← Text.firstWord_trim]
    rfl

end Language

end Highlighter
