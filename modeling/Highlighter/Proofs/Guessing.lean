import Highlighter.Proofs.DecidingLines
import Highlighter.Proofs.Grammar.Caseless
import Highlighter.Proofs.Pdfile.Keywords
import Highlighter.Proofs.Prldevops.Program

/-!
# Guessed languages

Where the name of a file tells no language, its content is guessed from the first word of the
deciding line.  The scan of the content reads the same line with rules of its own.

Both get to the same place.  From the entry state one step passes over a run of blanks or over a
comment (`Language.exists_scans_passed`), so the scan stands where `Text.solidFrom` does
(`Language.exists_scans_solidFrom`), and at the start of a line if the deciding line starts with
no blank (`Deciding.exists_lead`).  A word that tells a language is then the first token, and it
is a keyword (`Language.find?_tokenize_of_guess`).
-/

namespace Highlighter

/-! ## Up to the first solid token -/

/-- A token is neither blanks nor a comment. -/
def Token.isSolid (t : Token) : Bool := t.category != .whitespace && t.category != .comment

namespace Language

/-- In the entry state a `#` starts a comment up to the end of the line. -/
theorem firstFiring?_entry_of_hash (l : Language) (lineStart : Bool) (t : Text) :
    firstFiring? lineStart ('#' :: t) (l.grammar.rulesOf l.grammar.entry) =
      some (.comment .stay,
        ⟨0, Text.size ('#' :: t.takeWhile (· != '\n')), [], t.dropWhile (· != '\n')⟩) := by
  cases l with
  | pdfile =>
    rw [grammar, pdfileGrammar_eq]
    exact Pdfile.firstFiring?_root_of_hash lineStart t
  | prldevops =>
    rw [grammar, prldevopsGrammar_eq]
    exact Prldevops.firstFiring?_root_of_hash lineStart t

variable {l : Language} {lx : Lexer} {c : Char} {t : Text}

/-- A step whose rule makes one token of a run gets behind the run. -/
theorem exists_scans_run {p : Char → Bool} {rule : BuiltRule} {category : Category}
    (hidle : lx.Idle) (hstack : lx.stack = ⟨l.grammar.entry, []⟩) (hrest : lx.rest = c :: t)
    (hfire : firstFiring? lx.lineStart (c :: t) (l.grammar.rulesOf l.grammar.entry) =
      some (rule, ⟨0, Text.size (c :: t.takeWhile p), [], t.dropWhile p⟩))
    (haction : rule.action = .token category) (hstay : rule.transition = .stay) :
    ∃ lx', lx.Scans l.grammar [Token.at category lx.cursor (c :: t.takeWhile p)] lx' ∧
      lx'.rest = t.dropWhile p ∧ lx'.stack = ⟨l.grammar.entry, []⟩ := by
  have hscan := Lexer.scans_of_token (u := c :: t.takeWhile p) hidle
    (by rw [hstack, hrest]; exact hfire) haction (by simp [hrest])
  rw [hstay] at hscan
  exact ⟨_, hscan, rfl, hstack⟩

/-- In the entry state one step passes over a run of blanks, or over a comment. -/
theorem exists_scans_passed (hidle : lx.Idle) (hstack : lx.stack = ⟨l.grammar.entry, []⟩)
    (hrest : lx.rest = c :: t) (hc : isBlank c = true ∨ c = '#') :
    ∃ tk lx', lx.Scans l.grammar [tk] lx' ∧ tk.isSolid = false ∧
      lx'.rest.length < lx.rest.length ∧
      Text.solidFrom false lx'.rest = Text.solidFrom false lx.rest ∧
      lx'.stack = ⟨l.grammar.entry, []⟩ := by
  have hlt (p : Char → Bool) : (t.dropWhile p).length < (c :: t).length :=
    Nat.lt_succ_of_le (List.dropWhile_suffix p).length_le
  rcases hc with hblank | rfl
  · obtain ⟨lx', hscan, hrest', hstack'⟩ := exists_scans_run hidle hstack hrest
      (l.firstFiring?_entry_of_blank lx.lineStart t hblank) rfl rfl
    refine ⟨_, lx', hscan, rfl, ?_, ?_, hstack'⟩
    · rw [hrest', hrest]
      exact hlt isBlank
    · rw [hrest', hrest, Text.solidFrom_blank hblank]
      simpa using Text.solidFrom_dropWhile_blanks_append t []
  · obtain ⟨lx', hscan, hrest', hstack'⟩ := exists_scans_run hidle hstack hrest
      (l.firstFiring?_entry_of_hash lx.lineStart t) rfl rfl
    refine ⟨_, lx', hscan, rfl, ?_, ?_, hstack'⟩
    · rw [hrest', hrest]
      exact hlt (· != '\n')
    · rw [hrest', hrest]
      exact Text.solidFrom_dropWhile_comment t

/-- From the entry state a scan gets behind the blanks and comments that stand there. -/
theorem exists_scans_solidFrom (hidle : lx.Idle) (hstack : lx.stack = ⟨l.grammar.entry, []⟩) :
    ∃ lead lx', lx.Scans l.grammar lead lx' ∧ (∀ tk ∈ lead, tk.isSolid = false) ∧
      lx'.rest = Text.solidFrom false lx.rest ∧ lx'.stack = ⟨l.grammar.entry, []⟩ := by
  induction hn : lx.rest.length using Nat.strongRecOn generalizing lx with
  | _ n ih =>
    cases hrest : lx.rest with
    | nil => exact ⟨[], lx, .refl hidle, by simp, hrest, hstack⟩
    | cons c t =>
      by_cases hc : isBlank c = true ∨ c = '#'
      · obtain ⟨tk, lx₁, hscan, htk, hlt, hsolid, hstack₁⟩ :=
          exists_scans_passed hidle hstack hrest hc
        obtain ⟨lead, lx', hscans, hlead, hrest', hstack'⟩ :=
          ih _ (hn ▸ hlt) hscan.idle_right hstack₁ rfl
        exact ⟨tk :: lead, lx', hscan.trans hscans, List.forall_mem_cons.mpr ⟨htk, hlead⟩,
          hrest ▸ hrest'.trans hsolid, hstack'⟩
      · obtain ⟨hblank, hash⟩ := not_or.mp hc
        exact ⟨[], lx, .refl hidle, by simp,
          hrest.trans (Text.solidFrom_of_solid (by simpa using hblank) hash t).symm, hstack⟩

/-- The scan of a source gets behind the blanks and comments at its start. -/
theorem exists_lead (l : Language) (source : Text) :
    ∃ lead lx, (Lexer.start l.grammar source).Scans l.grammar lead lx ∧
      (∀ tk ∈ lead, tk.isSolid = false) ∧ lx.rest = Text.solidFrom false source ∧
      lx.stack = ⟨l.grammar.entry, []⟩ :=
  exists_scans_solidFrom (Lexer.idle_start l.grammar source) rfl

end Language

/-- Behind tokens for blanks and comments, the next token is the first solid one if it is solid. -/
theorem find?_isSolid_eq {g : Grammar} {source : Text} {lead others : List Token} {lx : Lexer}
    {tk : Token} (hscans : (Lexer.start g source).Scans g lead lx)
    (hlead : ∀ tk ∈ lead, tk.isSolid = false) (hrest : lx.rest ≠ [])
    (hpending : (lx.step g).pending = tk :: others) (htk : tk.isSolid = true) :
    (tokenize g source).find? Token.isSolid = some tk := by
  have hstep := hscans.trans (.step hscans.idle_right hrest (.refl (Lexer.idle_settle _)))
  have hnone : lead.find? Token.isSolid = none :=
    List.find?_eq_none.mpr fun tk htk => Bool.eq_false_iff.mp (hlead tk htk)
  rw [tokenize_eq_of_scans hstep, hpending, List.append_assoc, List.append_assoc,
    List.find?_append, hnone, Option.none_or, List.cons_append, List.find?_cons_of_pos htk]

/-- If no blank is at the start of the deciding line, the scan of a content gets to it behind blanks
and comments. -/
theorem Deciding.exists_lead (l : Language) {content line : Text} {passed : List Text}
    (h : Deciding content passed line) (hsolid : ∀ c ∈ line.head?, isBlank c = false) :
    ∃ lead lx, (Lexer.start l.grammar content).Scans l.grammar lead lx ∧
      (∀ tk ∈ lead, tk.isSolid = false) ∧ lx.rest = Text.solidFrom false content ∧
      lx.stack = ⟨l.grammar.entry, []⟩ ∧ lx.lineStart = true ∧
      lx.cursor = (Text.ofLines passed).size := by
  obtain ⟨lead, lx, hscans, hlead, hrest, hstack⟩ := l.exists_lead content
  refine ⟨lead, lx, hscans, hlead, hrest, hstack, ?_⟩
  obtain ⟨tail, htext, -, hleft⟩ := h.exists_solidFrom_eq
  rw [Text.trimStart_of_solid hsolid, ← hrest] at hleft
  rw [← hleft] at htext
  obtain ⟨read, hread, hcursor⟩ := exists_read_of_scans hscans
  obtain rfl : Text.ofLines passed = read := List.append_cancel_right (htext.symm.trans hread)
  obtain ⟨u, hu, hline⟩ := hscans.lineStart_eq
  obtain rfl : Text.ofLines passed = u := List.append_cancel_right (htext.symm.trans hu)
  refine ⟨?_, hcursor⟩
  rw [hline]
  cases hlast : (Text.ofLines passed).getLast? with
  | none => rfl
  | some c => simp [Text.getLast?_ofLines passed c hlast]

/-! ## The word that decides -/

namespace Language

theorem eqIgnoreCase_comm (s t : Text) : Text.eqIgnoreCase s t = Text.eqIgnoreCase t s :=
  BEq.comm

theorem ofWord?_eq_prldevops_iff {w : Text} :
    ofWord? w = some prldevops ↔ Text.eqIgnoreCase w Prldevops.program.toList = true := by
  rw [ofWord?]
  split
  · next h => simp [h]
  · next h =>
    simp only [h]
    split <;> simp

/-- No keyword is the program. -/
theorem eqIgnoreCase_program :
    ∀ s ∈ "ONBUILD" :: Pdfile.keywords,
      Text.eqIgnoreCase s.toList Prldevops.program.toList = false := by
  decide

/-- What equals a keyword does not equal the program. -/
theorem eqIgnoreCase_program_of_keyword {s : String} {w : Text}
    (hs : s ∈ "ONBUILD" :: Pdfile.keywords) (hw : Text.eqIgnoreCase w s.toList = true) :
    Text.eqIgnoreCase w Prldevops.program.toList = false := by
  rw [Text.eqIgnoreCase, beq_iff_eq.mp hw]
  exact eqIgnoreCase_program s hs

theorem ofWord?_eq_pdfile_iff {w : Text} :
    ofWord? w = some pdfile ↔ ∃ s ∈ Pdfile.keywords, Text.eqIgnoreCase w s.toList = true := by
  have hany : (Pdfile.keywords.any fun k => Text.eqIgnoreCase k.toList w) = true ↔
      ∃ s ∈ Pdfile.keywords, Text.eqIgnoreCase w s.toList = true := by
    simp only [List.any_eq_true, eqIgnoreCase_comm w]
  rw [ofWord?, ← hany]
  split
  · next h =>
    refine ⟨fun heq => (by cases heq), fun hkeyword => ?_⟩
    obtain ⟨s, hs, hw⟩ := hany.mp hkeyword
    rw [eqIgnoreCase_program_of_keyword (List.mem_cons_of_mem _ hs) hw] at h
    cases h
  · next h =>
    split
    · next hkeyword => simp [hkeyword]
    · next hkeyword => simp [hkeyword]

/-- A word that tells a language is the first token of it at the start of a line. -/
theorem exists_word_token {l : Language} {lx : Lexer} {w rest : Text} (hidle : lx.Idle)
    (hstack : lx.stack = ⟨l.grammar.entry, []⟩) (hline : lx.lineStart = true)
    (htext : lx.rest = w ++ rest) (hrest : ∀ c ∈ rest.head?, isBlank c = true)
    (hw : ofWord? w = some l) :
    ∃ others, (lx.step l.grammar).pending = Token.at .keyword lx.cursor w :: others := by
  have hedge : ∀ c ∈ rest.head?, isWordChar c = false := fun c hc =>
    isWordChar_of_isBlank (hrest c hc)
  rw [entry_eq] at hstack
  cases l with
  | pdfile =>
    obtain ⟨s, hs, heq⟩ := ofWord?_eq_pdfile_iff.mp hw
    have hfold : w.EqFold s.toList := (Text.Alike.of_eqIgnoreCase heq).eqFold
    rw [Pdfile.grammar_eq]
    exact Pdfile.exists_directive_token hidle hstack hline (.keyword hs hfold htext hedge)
  | prldevops =>
    have hfold : w.EqFold Prldevops.program.toList :=
      (Text.Alike.of_eqIgnoreCase (ofWord?_eq_prldevops_iff.mp hw)).eqFold
    rw [Prldevops.grammar_eq]
    exact Prldevops.exists_program_token hidle hstack hline htext hfold hedge

/-! ## Guessed languages -/

variable {path content : Text} {l : Language}

theorem guess_eq_ofContent? (hpath : ofPath? path = none) :
    guess path content = ofContent? content := by
  rw [guess, hpath]

/-- If the content of a file tells its language, the first token that is neither blanks nor a
comment is the first word of the deciding line, and it is a keyword. -/
theorem find?_tokenize_of_guess (hpath : ofPath? path = none)
    (hguess : guess path content = some l) :
    ∃ passed line, Deciding content passed line ∧ decidingLine? content = some line.trim ∧
      Text.ofLines passed ++ line <+: content ∧
      ((∀ c ∈ line.head?, isBlank c = false) →
        (tokenize l.grammar content).find? Token.isSolid =
          some (Token.at .keyword (Text.ofLines passed).size line.firstWord)) := by
  rw [guess_eq_ofContent? hpath] at hguess
  cases hline : decidingLine? content with
  | none =>
    rw [ofContent?, hline] at hguess
    cases hguess
  | some s =>
    obtain ⟨passed, line, hdeciding, rfl⟩ := exists_deciding hline
    obtain ⟨tail, htext, -⟩ := hdeciding.exists_solidFrom_eq
    refine ⟨passed, line, hdeciding, rfl, ⟨tail, ?_⟩, fun hsolid => ?_⟩
    · rw [htext, List.append_assoc]
    · obtain ⟨lead, lx, hscans, hlead, hrest, hstack, hstart, hcursor⟩ :=
        hdeciding.exists_lead l hsolid
      obtain ⟨rest, hcut, hblank⟩ := Text.exists_firstWord_append fun c hc =>
        (Text.solid_of_solidFrom false content c hc).1
      rw [ofContent?_eq, hdeciding.firstWord_solidFrom] at hguess
      rw [hdeciding.firstWord_solidFrom, ← hrest] at hcut
      obtain ⟨others, hpending⟩ :=
        exists_word_token hscans.idle_right hstack hstart hcut hblank hguess
      rw [hcursor] at hpending
      exact find?_isSolid_eq hscans hlead (hrest ▸ hdeciding.solidFrom_ne_nil) hpending rfl

/-- Comments after blanks, a line with a wide blank only, and a program in mixed case. -/
theorem find?_tokenize_of_guess_commented :
    let content : Text := "  # setup\r\n\u3000\r\nPrlDevOps\tapi".toList
    ofPath? "notes.txt".toList = none ∧ guess "notes.txt".toList content = some prldevops ∧
      (tokenize prldevops.grammar content).find? Token.isSolid =
        some (Token.at .keyword 16 "PrlDevOps".toList) := by
  intro content
  have hpath : ofPath? "notes.txt".toList = none := by decide
  have hguess : guess "notes.txt".toList content = some prldevops := by decide
  have hdeciding : Deciding content ["  # setup\r".toList, "\u3000\r".toList]
      "PrlDevOps\tapi".toList := ⟨⟨[], by decide⟩, by decide, by decide⟩
  obtain ⟨passed, line, hdeciding', -, -, htoken⟩ := find?_tokenize_of_guess hpath hguess
  obtain ⟨rfl, rfl⟩ := hdeciding.unique hdeciding'
  exact ⟨hpath, hguess, htoken fun _ hc => Option.some.inj hc ▸ rfl⟩

end Language

end Highlighter
