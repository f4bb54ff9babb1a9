import Highlighter.Proofs.Grammar.Lines

/-!
# Where lines open

A line of a source opens at its start and after every line end that is among blanks.
The line ends in escapes open no line.  A scan stands at an opening, with the entry
state alone open, exactly where it can recognise a directive: at every opening that no
blank follows (`Language.exists_scan_of_opening`), and nowhere else
(`Language.opening_of_scans`).
-/

namespace Highlighter

namespace Language

variable {l : Language} {source before : Text} {tokens : List Token} {lx : Lexer}

/-- A line of a source opens after a text. -/
def Opening (l : Language) (source before : Text) : Prop :=
  before = [] ∨ ∃ pre, before = pre ++ ['\n'] ∧ ∃ t ∈ tokenize l.grammar source,
    t.category = .whitespace ∧ t.start ≤ pre.size ∧ pre.size < t.stop

/-- A token that covers the position of a character has the character. -/
theorem mem_text_of_covers {g : Grammar} {pre post : Text} {c : Char} {t : Token}
    (ht : t ∈ tokenize g (pre ++ c :: post)) (hstart : t.start ≤ pre.size)
    (hstop : pre.size < t.stop) : c ∈ t.text := by
  obtain ⟨x, y, htext, hx, hsize⟩ := (tiles_tokenize g (pre ++ c :: post)).exists_part t ht
  rw [Nat.zero_add] at hx
  obtain ⟨z, rfl, hz⟩ := Text.append_cases_of_size_le htext.symm (by omega)
  rw [Text.size_append] at hstop
  obtain ⟨w, hw, hc⟩ := Text.append_cases_of_size_le hz.symm (by omega)
  cases w with
  | nil =>
    rw [List.append_nil] at hw
    rw [hw] at hsize
    omega
  | cons d w =>
    cases hc
    rw [hw]
    exact List.mem_append_right _ (List.mem_cons_self ..)

/-- Where a line opens and no blank follows, the scan stands in the entry state. -/
theorem exists_scan_of_opening {c : Char} {rest : Text} (h : l.Opening (before ++ c :: rest) before)
    (hc : isBlank c = false) :
    ∃ tokens lx, (Lexer.start l.grammar (before ++ c :: rest)).Scans l.grammar tokens lx ∧
      lx.cursor = before.size ∧ lx.rest = c :: rest ∧ lx.stack = ⟨l.grammar.entry, []⟩ ∧
      lx.lineStart = true := by
  rcases h with rfl | ⟨pre, rfl, t, ht, hblank, hstart, hstop⟩
  · exact ⟨[], _, .refl rfl, rfl, rfl, rfl, rfl⟩
  · rw [List.append_assoc, List.singleton_append] at ht ⊢
    have hmem : '\n' ∈ t.text := mem_text_of_covers ht hstart hstop
    obtain ⟨end_, hscans, -⟩ := scans_tokenize l.grammar (pre ++ '\n' :: c :: rest)
    obtain ⟨tokens, lx, hreaches, hrest, hpending⟩ := hscans.exists_step_of_mem t ht
    have hidle := hreaches.idle_right
    obtain ⟨read, htext, hread⟩ := exists_read_of_scans hreaches
    cases l.lineStep hidle hrest (hreaches.onLevels l.twoLevel .entry) with
    | inLine hnone => exact absurd hmem (hnone t hpending).1
    | comment _ hone _ =>
      rw [hone, List.mem_singleton] at hpending
      rw [hpending] at hblank
      cases hblank
    | escape _ _ hone _ =>
      rw [hone, List.mem_singleton] at hpending
      rw [hpending] at hblank
      cases hblank
    | @blanks u hall hu hone hstack =>
      rw [hone, List.mem_singleton] at hpending
      subst hpending
      obtain ⟨v, -, hv, hcursor, hline, -⟩ := Lexer.exists_step_reads l.grammar hidle hrest
      obtain rfl : u = v := List.append_cancel_right (hu.symm.trans hv)
      -- The blanks end with the line end, since the character after it is none.
      have hle : read.size ≤ pre.size := hread ▸ hstart
      have hlt : pre.size < read.size + u.size := hread ▸ hstop
      rw [hu] at htext
      obtain ⟨q, rfl, hq⟩ := Text.append_cases_of_size_le htext.symm hle
      rw [Text.size_append] at hlt
      obtain ⟨z, rfl, hz⟩ := Text.append_cases_of_size_le hq.symm (by omega)
      match z, hz with
      | [], _ => simp at hlt
      | [d], hz =>
        obtain ⟨rfl, hafter⟩ := List.cons.inj hz
        refine ⟨_, (lx.step l.grammar).settle,
          hreaches.trans (.step hidle hrest (.refl (Lexer.idle_settle _))), ?_, hafter.symm,
          hstack, ?_⟩
        · simp only [Lexer.settle_cursor, hcursor, hread, Text.size_append]
          omega
        · rw [Lexer.settle_lineStart, hline]
          simp
      | d :: e :: z, hz =>
        obtain ⟨rfl, hafter⟩ := List.cons.inj hz
        obtain ⟨rfl, -⟩ := List.cons.inj hafter
        rw [hall c (by simp)] at hc
        cases hc

/-- Where a scan stands in the entry state at the start of a line, a line opens. -/
theorem opening_of_scans (hscans : (Lexer.start l.grammar source).Scans l.grammar tokens lx)
    (hstack : lx.stack = ⟨l.grammar.entry, []⟩) (hline : lx.lineStart = true) {read : Text}
    (hread : source = read ++ lx.rest) : l.Opening source read := by
  rcases hscans.exists_last with ⟨rfl, -⟩ | ⟨first, middle, hfirst, hrest, rfl, -⟩
  · exact Or.inl (by simpa [Lexer.start] using hread)
  · have hidle := hfirst.idle_right
    obtain ⟨read₀, htext, hcursor⟩ := exists_read_of_scans hfirst
    obtain ⟨u, -, hu, -, hlast, htiles⟩ := Lexer.exists_step_reads l.grammar hidle hrest
    rw [Lexer.settle_lineStart, hlast, beq_iff_eq] at hline
    rw [Lexer.settle_rest] at hread
    have hparts : read = read₀ ++ u := by
      rw [htext, hu, ← List.append_assoc] at hread
      exact (List.append_cancel_right hread).symm
    obtain ⟨v, rfl⟩ := List.getLast?_eq_some_iff.mp hline
    have hmem : '\n' ∈ v ++ ['\n'] := by simp
    rw [← htiles.detokenize] at hmem
    obtain ⟨t, ht, hmem⟩ := List.mem_flatMap.mp hmem
    refine Or.inr ⟨read₀ ++ v, by rw [hparts, List.append_assoc], t,
      mem_tokenize_of_scans hfirst hrest t ht, ?_⟩
    cases l.lineStep hidle hrest (hfirst.onLevels l.twoLevel .entry) with
    | inLine hnone => exact absurd hmem (hnone t ht).1
    | comment _ hone _ =>
      rw [hone, List.mem_singleton] at ht
      subst ht
      rcases List.mem_cons.mp hmem with hc | hmem
      · cases hc
      · exact absurd (List.mem_takeWhile_imp hmem) (by decide)
    | escape hstate _ _ hkept =>
      rw [Lexer.settle_stack, hkept] at hstack
      rw [hstack] at hstate
      exact absurd l.entry_eq (l.ne_root_of_mem_innerStates _ hstate)
    | @blanks w _ hw hone _ =>
      obtain rfl : w = v ++ ['\n'] := List.append_cancel_right (hw.symm.trans hu)
      rw [hone, List.mem_singleton] at ht
      subst ht
      refine ⟨rfl, ?_, ?_⟩
      · simp only [Token.at, hcursor, Text.size_append]
        omega
      · simp only [Token.at, hcursor, Text.size_append]
        have : 0 < Text.size ['\n'] := by decide
        omega

end Language

end Highlighter
