import Highlighter.Proofs.Guessing

/-!
# Directives at the start of a content

If the first token of pdfile that is neither blanks nor a comment is a keyword, a directive stands
behind the blanks and comments of the content (`exists_leading_directive`).  The language of such
a content is not always guessed.  A rule reads a directive up to the edge of a word, with letters
beyond ASCII that fold to those of a keyword, and it reads a deferred one.  The word that decides
goes up to a blank, and it has to equal a keyword up to the case of ASCII letters.

`guess_eq_pdfile_iff` says which directives tell their language.
-/

namespace Highlighter

namespace Pdfile

open Highlighter.Language

variable {path content t u : Text} {tk : Token}

/-! ## The first solid token -/

/-- A directive at the start of the deciding line is the first token that is neither blanks nor a
comment. -/
theorem Directive.find?_isSolid {passed : List Text} {line : Text}
    (h : Directive (Text.solidFrom false content) u) (hdeciding : Deciding content passed line)
    (hsolid : ∀ c ∈ line.head?, isBlank c = false) :
    (tokenize Language.pdfile.grammar content).find? Token.isSolid =
      some (Token.at .keyword (Text.ofLines passed).size u) := by
  obtain ⟨lead, lx, hscans, hlead, hrest, hstack, hstart, hcursor⟩ :=
    hdeciding.exists_lead .pdfile hsolid
  rw [Language.entry_eq] at hstack
  obtain ⟨others, hpending⟩ :=
    exists_directive_token hscans.idle_right hstack hstart (hrest ▸ h)
  rw [hcursor] at hpending
  rw [← grammar_eq] at hpending
  exact find?_isSolid_eq hscans hlead (hrest ▸ hdeciding.solidFrom_ne_nil) hpending rfl

/-- The first token that is neither blanks nor a comment is a directive if it is a keyword. -/
theorem exists_leading_directive
    (htk : (tokenize Language.pdfile.grammar content).find? Token.isSolid = some tk)
    (hkeyword : tk.category = .keyword) :
    ∃ before rest, content = before ++ (tk.text ++ rest) ∧
      Text.solidFrom false content = tk.text ++ rest ∧ Directive (tk.text ++ rest) tk.text ∧
      tk = Token.at .keyword before.size tk.text := by
  obtain ⟨lead, lx, hscans, hlead, hleft, hstack⟩ := Language.pdfile.exists_lead content
  rw [Language.entry_eq] at hstack
  rw [grammar_eq] at htk hscans
  have hrest : lx.rest ≠ [] := fun hnil => by
    have hmem := List.mem_of_find?_eq_some htk
    rw [tokenize_of_scans hscans hnil] at hmem
    exact Bool.false_ne_true ((hlead tk hmem).symm.trans (List.find?_some htk))
  have hsolid : ∀ c ∈ lx.rest.head?, isBlank c = false ∧ c ≠ '#' := by
    rw [hleft]
    exact Text.solid_of_solidFrom false content
  rcases directiveTokens_or_text hscans.idle_right hstack hrest hsolid with
    ⟨u, others, hu, hpending, -⟩ | ⟨u, hpending⟩
  · have hfirst := find?_isSolid_eq hscans hlead hrest hpending rfl
    obtain rfl := Option.some.inj (htk.symm.trans hfirst)
    obtain ⟨before, htext, hcursor⟩ := exists_read_of_scans hscans
    obtain ⟨rest, hcut⟩ := hu.exists_append
    rw [hcut] at htext hleft hu
    exact ⟨before, rest, htext, hleft.symm, hu, by rw [hcursor]; rfl⟩
  · have hfirst := find?_isSolid_eq hscans hlead hrest hpending rfl
    obtain rfl := Option.some.inj (htk.symm.trans hfirst)
    cases hkeyword

/-! ## The word of a directive -/

/-- A directive of letters before a blank tells the language. -/
theorem Directive.ofWord?_eq (h : Directive t u) (hu : ∀ c ∈ u, (c.isAlpha || c == '_') = true) :
    ofWord? u = some .pdfile := by
  cases h with
  | keyword hs hfold _ _ =>
    have hletters := (upper_of_mem_keywords _ hs).letters
    have halike := hfold.alike (Text.toNat_lt_of_letters hu) (Text.toNat_lt_of_letters hletters)
    exact ofWord?_eq_pdfile_iff.mpr ⟨_, hs, halike.eqIgnoreCase⟩
  | @deferred v b w rest c hv hb hw hc ht =>
    obtain ⟨d, b, rfl⟩ := List.exists_cons_of_ne_nil hb.ne_nil
    have hletter := hu d (by simp)
    rcases hb.blank d (List.mem_cons_self ..) with rfl | rfl <;> cases hletter

/-- If the first word tells the language of directives, it is the directive, and it has letters
only. -/
theorem Directive.eq_firstWord (h : Directive t u) (hw : ofWord? t.firstWord = some .pdfile) :
    u = t.firstWord ∧ ∀ c ∈ t.firstWord, (c.isAlpha || c == '_') = true := by
  obtain ⟨rest, htext, hblank⟩ := Text.exists_firstWord_append fun c hc => (h.solid c hc).1
  obtain ⟨s, hs, heq⟩ := ofWord?_eq_pdfile_iff.mp hw
  have halike := Text.Alike.of_eqIgnoreCase heq
  have hdirective : Directive t t.firstWord :=
    .keyword hs halike.eqFold htext fun c hc => isWordChar_of_isBlank (hblank c hc)
  exact ⟨h.unique hdirective, halike.letters (upper_of_mem_keywords s hs).letters⟩

/-- Where a directive stands the program does not. -/
theorem Directive.ofWord?_ne_prldevops (h : Directive t u) :
    ofWord? t.firstWord ≠ some .prldevops := by
  intro hw
  have hprogram := ofWord?_eq_prldevops_iff.mp hw
  have halike := Text.Alike.of_eqIgnoreCase hprogram
  obtain ⟨rest, htext, hblank⟩ := Text.exists_firstWord_append fun c hc => (h.solid c hc).1
  obtain ⟨s, hs, w, rest', hfold, htext', hedge⟩ := h.exists_word
  have hupper := upper_of_mem_words s hs
  -- Both end with the last word character, so the word of the directive is the program.
  obtain ⟨heq, -⟩ := Text.cut_unique (htext.symm.trans htext')
    (halike.eqFold.isWordChar_of_letters Prldevops.letters_program) (hfold.isWordChar hupper)
    (fun c hc => isWordChar_of_isBlank (hblank c hc)) hedge
  rw [← heq] at hfold
  have hword := hfold.alike (Text.toNat_lt_of_letters (halike.letters Prldevops.letters_program))
    (Text.toNat_lt_of_letters hupper.letters)
  rw [eqIgnoreCase_program_of_keyword hs hword.eqIgnoreCase] at hprogram
  cases hprogram

/-! ## Directives that tell their language -/

/-- If a content starts with a directive, its language is guessed exactly if the directive has no
characters but ASCII letters and `_`, and a blank or nothing follows it.  No other language is
guessed. -/
theorem guess_eq_pdfile_iff (hpath : ofPath? path = none)
    (htk : (tokenize Language.pdfile.grammar content).find? Token.isSolid = some tk)
    (hkeyword : tk.category = .keyword) :
    (guess path content = some .pdfile ↔
      (∀ c ∈ tk.text, (c.isAlpha || c == '_') = true) ∧
        ∀ c ∈ (content.dropBytes tk.stop).head?, isBlank c = true) ∧
    guess path content ≠ some .prldevops := by
  obtain ⟨before, rest, htext, hsolid, hdirective, htoken⟩ := exists_leading_directive htk hkeyword
  have hdrop : content.dropBytes tk.stop = rest := by
    have hstop : tk.stop = (before ++ tk.text).size := by
      rw [htoken, Text.size_append]
      rfl
    rw [hstop, htext, ← List.append_assoc, Text.dropBytes_size_append]
  rw [guess_eq_ofContent? hpath, ofContent?_eq, hsolid, hdrop]
  refine ⟨⟨fun hguess => ?_, fun ⟨hletters, hblank⟩ => ?_⟩, hdirective.ofWord?_ne_prldevops⟩
  · obtain ⟨hword, hletters⟩ := hdirective.eq_firstWord hguess
    rw [← hword] at hletters
    obtain ⟨rest', hcut, hblank⟩ := Text.exists_firstWord_append fun c hc =>
      (hdirective.solid c hc).1
    rw [← hword] at hcut
    exact ⟨hletters, List.append_cancel_left hcut ▸ hblank⟩
  · have hword : ∀ c ∈ tk.text, isBlank c = false := fun c hc =>
      (solid_of_isWordChar (isWordChar_of_letter (hletters c hc))).1
    rw [Text.firstWord_append hdirective.ne_nil hword hblank]
    exact hdirective.ofWord?_eq hletters

/-- A directive in mixed case behind a comment. -/
theorem guess_eq_pdfile_iff_clone :
    let content : Text := "# vm\nClone base".toList
    let tk := Token.at .keyword 5 "Clone".toList
    ofPath? "notes.txt".toList = none ∧
      (tokenize Language.pdfile.grammar content).find? Token.isSolid = some tk ∧
      tk.category = .keyword ∧ guess "notes.txt".toList content = some .pdfile := by
  intro content tk
  have hpath : ofPath? "notes.txt".toList = none := by decide
  have hdirective : Directive (Text.solidFrom false content) "Clone".toList :=
    .keyword (s := "CLONE") (by decide) (by decide +kernel)
      (show Text.solidFrom false content = "Clone".toList ++ " base".toList by decide)
      fun _ hc => Option.some.inj hc ▸ by decide
  have hdeciding : Deciding content ["# vm".toList] "Clone base".toList :=
    ⟨⟨[], by decide⟩, by decide, by decide⟩
  have htk : (tokenize Language.pdfile.grammar content).find? Token.isSolid = some tk :=
    hdirective.find?_isSolid hdeciding fun _ hc => Option.some.inj hc ▸ rfl
  have hletters : ∀ c ∈ tk.text, (c.isAlpha || c == '_') = true := List.all_eq_true.mp (by decide)
  have hblank : ∀ c ∈ (content.dropBytes tk.stop).head?, isBlank c = true := fun _ hc =>
    Option.some.inj hc ▸ rfl
  exact ⟨hpath, htk, rfl, (guess_eq_pdfile_iff hpath htk rfl).1.mpr ⟨hletters, hblank⟩⟩

/-- The directive of `CLONE#base` is read, and no language is guessed. -/
theorem exists_directive_not_guessed :
    let content : Text := "CLONE#base".toList
    ofPath? "notes.txt".toList = none ∧
      (∃ tk, (tokenize Language.pdfile.grammar content).find? Token.isSolid = some tk ∧
        tk.category = .keyword) ∧
      guess "notes.txt".toList content = none := by
  intro content
  have hdirective : Directive (Text.solidFrom false content) "CLONE".toList :=
    .keyword (s := "CLONE") (by decide) (by decide +kernel)
      (show Text.solidFrom false content = "CLONE".toList ++ "#base".toList by decide)
      fun _ hc => Option.some.inj hc ▸ by decide
  have hdeciding : Deciding content [] "CLONE#base".toList :=
    ⟨⟨[], by decide⟩, by decide, by decide⟩
  have htk := hdirective.find?_isSolid hdeciding fun _ hc => Option.some.inj hc ▸ rfl
  exact ⟨by decide, ⟨_, htk, rfl⟩, by decide⟩

end Pdfile

end Highlighter
