import Highlighter.Proofs.Pdfile.DirectiveLines

/-!
# Directives with a closed set of values

The line of such a directive with an argument gives three tokens: the directive, the
blanks, and the body of the rest of the line (`closed_value_tokens`).  The body is a
constant if it is one of the values and the line ends after it, and an error otherwise.

The rule for the values looks for a value at the start of the argument and at what
follows it, without knowing of the body.  Where it fires, the body is a value and the line
ends after it (`closedValue_of_fires`).  Since no value is the beginning of another, the
converse holds as well (`exists_fires_valueRule`).  The rule after it always fires
(`exists_fires_errorRule`).
-/

namespace Highlighter.Pdfile

open Category Pattern

/-- The body of a line is one of some values up to case, and blanks within the line lead from it to
a comment or to the end of the line. -/
structure ClosedValue (values : List String) (t : Text) : Prop where
  value : ∃ s ∈ values, t.body.EqFold s.toList
  ending : ∃ gap rest : Text, t = t.body ++ (gap ++ rest) ∧
    (∀ c ∈ gap, c = ' ' ∨ c = '\t' ∨ c = '\r') ∧ ∀ c ∈ rest.head?, c = '#' ∨ c = '\n'

theorem prefixFree_of_mem_valueDirectives :
    ∀ entry ∈ valueDirectives, PrefixFree entry.2 := by
  have hlower : ∀ entry ∈ valueDirectives, ∀ s ∈ entry.2,
      (s.toList.all fun c => c.isLower || c == '_') = true := by decide
  have hfree : ∀ entry ∈ valueDirectives, ∀ s ∈ entry.2, ∀ s' ∈ entry.2,
      s.toList <+: s'.toList → s = s' := by decide
  exact fun entry hentry => .of_lower
    (fun s hs => List.all_eq_true.mp (hlower entry hentry s hs)) (hfree entry hentry)

/-! ## The two rules -/

section Rules

variable {entry : String × List String} {w b t x : Text} {m : Match}

/-- The rule for the values of a directive. -/
def valueRule (entry : String × List String) : BuiltRule :=
  ⟨(wordValue entry).tied, true, some Pattern.lineEnd.tied,
    .groups [keyword, whitespace, constant], .stay⟩

theorem valueTable_eq (entry : String × List String) :
    valueTable entry = [valueRule entry, errorRule entry] := rfl

theorem name_mem_keywords : ∀ entry ∈ valueDirectives, entry.1 ∈ keywords := by decide

/-- Where the rule for the values fires, the body is one, and the rule reads it. -/
theorem closedValue_of_fires (hentry : entry ∈ valueDirectives) (h : ArgumentLine entry.1 w b t)
    (hm : (valueRule entry).fires? true (w ++ (b ++ t)) = some m) :
    ClosedValue entry.2 t ∧ t = t.body ++ m.rest ∧ m.HasGroups 1 0 [w, b, t.body] := by
  have hwords := (plainEntry_of_mem_valueDirectives entry hentry).words
  obtain ⟨-, hfind, -, hlook⟩ := BuiltRule.fires?_eq_some_iff.mp hm
  obtain ⟨gap, rest, hrest, hgap, hend⟩ := matches_lineEnd_iff.mp (hlook _ rfl)
  obtain ⟨xs, hxs, htext, hgroups⟩ := h.groups_of_find (name_mem_keywords entry hentry)
    (row_wordValue entry) (fun x hx => head?_ne_blank_of_words hwords hx) hfind
  obtain _ | @⟨_, x, _, _, hx, _ | _⟩ := hxs
  obtain ⟨s, hs, hfold⟩ := hx.words hwords
  have htext : t = x ++ m.rest := by simpa using htext
  have hblank : ∀ c ∈ gap, isBlank c = true := fun c hc => by
    rcases hgap c hc with rfl | rfl | rfl <;> rfl
  have hbody : t.body = x := by
    rw [htext, hrest]
    exact Text.body_append (hfold.trimmed (hwords.plain s hs)) (Text.body_eq_nil hblank hend)
  rw [hbody]
  exact ⟨⟨⟨s, hs, hbody ▸ hfold⟩, gap, rest, by rw [hbody, ← hrest]; exact htext, hgap, hend⟩,
    htext, hgroups⟩

/-- Where the body is a value, the rule for the values fires. -/
theorem exists_fires_valueRule (hentry : entry ∈ valueDirectives)
    (h : ArgumentLine entry.1 w b t) (hclosed : ClosedValue entry.2 t) :
    ∃ m, (valueRule entry).fires? true (w ++ (b ++ t)) = some m := by
  obtain ⟨⟨s, hs, hfold⟩, gap, rest, htext, hgap, hend⟩ := hclosed
  have hprefers : ∀ a : Place, a.rest = t →
      ∃ e, (Pattern.group 3 (.words entry.2)).Prefers a t.body e := fun a ha => by
    obtain ⟨e, he⟩ := prefers_words (plainEntry_of_mem_valueDirectives entry hentry).words
      (prefixFree_of_mem_valueDirectives entry hentry) hs hfold (ha.trans htext)
    exact ⟨_, he.group 3⟩
  obtain ⟨m, hm, hrest⟩ := h.exists_find (name_mem_keywords entry hentry) hprefers
  have hsame : m.rest = gap ++ rest := List.append_cancel_left (hrest.symm.trans htext)
  have hmem : valueRule entry ∈ valueTable entry := by simp [valueTable_eq]
  refine ⟨m, (form_of_mem_valueTable entry _ hmem).fires?_of_find hm fun q hq => ?_⟩
  obtain rfl : Pattern.lineEnd.tied = q := Option.some.inj hq
  exact matches_lineEnd_iff.mpr ⟨gap, rest, hsame, hgap, hend⟩

/-- The rule for anything else fires and reads the body. -/
theorem exists_fires_errorRule (hentry : entry ∈ valueDirectives)
    (h : ArgumentLine entry.1 w b t) :
    ∃ m, (errorRule entry).fires? true (w ++ (b ++ t)) = some m ∧
      t = t.body ++ m.rest ∧ m.HasGroups 1 0 [w, b, t.body] :=
  h.exists_fires_errorRule (name_mem_keywords entry hentry)

end Rules

/-! ## The tokens of the line -/

section Firing

variable {source before w b t : Text} {entry : String × List String} {rule : BuiltRule} {m : Match}
  {category : Category}

/-- If the first rule to fire among those of the directive reads the body, the directive, the blanks
and the body are read. -/
theorem exists_readsLine_of_firing (hentry : entry ∈ valueDirectives)
    (hplace : LineAt source before (w ++ (b ++ t))) (hline : ArgumentLine entry.1 w b t)
    (hfire : firstFiring? true (w ++ (b ++ t)) (valueTable entry) = some (rule, m))
    (haction : rule.action = .groups [keyword, whitespace, category])
    (hrest : t = t.body ++ m.rest) (hgroups : m.HasGroups 1 0 [w, b, t.body]) :
    ∃ lx, ReadsLine source before [(keyword, w), (whitespace, b), (category, t.body)] lx ∧
      lx.rest = m.rest ∧ lx.stack = Stack.apply ⟨root, []⟩ rule.transition := by
  have hreads := hline.exists_readsLine (name_mem_keywords entry hentry) hplace
    (hline.firstFiring?_of_valueTable hentry hfire) haction (by simp) (by simpa using hrest) hgroups
  have hrow : ([category].zip [t.body]).filter (·.2 ≠ []) = [(category, t.body)] := by
    simp [hline.body_ne_nil]
  rwa [hrow] at hreads

/-- Then they are among the tokens of the source. -/
theorem exists_tokens_of_firing (hentry : entry ∈ valueDirectives)
    (hplace : LineAt source before (w ++ (b ++ t))) (hline : ArgumentLine entry.1 w b t)
    (hfire : firstFiring? true (w ++ (b ++ t)) (valueTable entry) = some (rule, m))
    (haction : rule.action = .groups [keyword, whitespace, category])
    (hrest : t = t.body ++ m.rest) (hgroups : m.HasGroups 1 0 [w, b, t.body]) :
    ∃ lead others, tokenize Language.pdfile.grammar source =
        lead ++ (Token.row before.size [(keyword, w), (whitespace, b), (category, t.body)] ++
          others) ∧ Tiles 0 before lead := by
  obtain ⟨lx, hreads, -⟩ :=
    exists_readsLine_of_firing hentry hplace hline hfire haction hrest hgroups
  obtain ⟨lead, htokens, hlead⟩ := hreads.exists_tokenize_eq
  exact ⟨lead, _, htokens, hlead⟩

end Firing

/-- The line of a directive with a closed set of values and an argument gives the directive, the
blanks and the body.  The body is a constant if it is a value and the line ends after it, and an
error otherwise. -/
theorem closed_value_tokens {source before w b t : Text} {entry : String × List String}
    (hentry : entry ∈ valueDirectives) (hplace : LineAt source before (w ++ (b ++ t)))
    (hline : ArgumentLine entry.1 w b t) :
    ∃ lead category others, tokenize Language.pdfile.grammar source =
        lead ++ (Token.row before.size [(.keyword, w), (.whitespace, b), (category, t.body)] ++
          others) ∧
      Tiles 0 before lead ∧ (ClosedValue entry.2 t → category = .constant) ∧
      (¬ ClosedValue entry.2 t → category = .error) := by
  by_cases hclosed : ClosedValue entry.2 t
  · obtain ⟨m, hm⟩ := exists_fires_valueRule hentry hline hclosed
    obtain ⟨-, hrest, hgroups⟩ := closedValue_of_fires hentry hline hm
    have hfire : firstFiring? true (w ++ (b ++ t)) (valueTable entry) =
        some (valueRule entry, m) := by
      rw [valueTable_eq, firstFiring?, hm]
    obtain ⟨lead, others, htokens, htiles⟩ :=
      exists_tokens_of_firing hentry hplace hline hfire rfl hrest hgroups
    exact ⟨lead, constant, others, htokens, htiles, fun _ => rfl, absurd hclosed⟩
  · have hsilent : (valueRule entry).fires? true (w ++ (b ++ t)) = none :=
      Option.eq_none_iff_forall_ne_some.mpr fun m hm =>
        hclosed (closedValue_of_fires hentry hline hm).1
    obtain ⟨m, hm, hrest, hgroups⟩ := exists_fires_errorRule hentry hline
    have hfire : firstFiring? true (w ++ (b ++ t)) (valueTable entry) =
        some (errorRule entry, m) := by
      rw [valueTable_eq, firstFiring?, hsilent, firstFiring?, hm]
    obtain ⟨lead, others, htokens, htiles⟩ :=
      exists_tokens_of_firing hentry hplace hline hfire rfl hrest hgroups
    exact ⟨lead, error, others, htokens, htiles, fun h => absurd h hclosed, fun _ => rfl⟩

/-- A value with blanks and a comment behind it, and two words. -/
theorem closed_value_tokens_force :
    let entry : String × List String := ("FORCE", booleans)
    let w : Text := ['f', 'o', 'r', 'c', 'e']
    let value : Text := ['T', 'r', 'u', 'e', ' ', '\r', '#', 'c']
    let phrase : Text := ['t', 'r', 'u', 'e', ' ', 'x', ' ', '#', 'c']
    entry ∈ valueDirectives ∧
      LineAt (w ++ (['\t'] ++ value)) [] (w ++ (['\t'] ++ value)) ∧
      ArgumentLine entry.1 w ['\t'] value ∧ ClosedValue entry.2 value ∧
      (∃ others, tokenize Language.pdfile.grammar (w ++ (['\t'] ++ value)) =
        Token.row 0 [(.keyword, w), (.whitespace, ['\t']), (.constant, ['T', 'r', 'u', 'e'])] ++
          others) ∧
      LineAt (w ++ (['\t'] ++ phrase)) [] (w ++ (['\t'] ++ phrase)) ∧
      ArgumentLine entry.1 w ['\t'] phrase ∧ ¬ ClosedValue entry.2 phrase ∧
      ∃ others, tokenize Language.pdfile.grammar (w ++ (['\t'] ++ phrase)) =
        Token.row 0 [(.keyword, w), (.whitespace, ['\t']),
          (.error, ['t', 'r', 'u', 'e', ' ', 'x'])] ++ others := by
  intro entry w value phrase
  have hentry : entry ∈ valueDirectives := by decide
  have hfold : w.EqFold entry.1.toList := by
    unfold Text.EqFold
    decide +kernel
  have hplace : ∀ t : Text, LineAt (w ++ (['\t'] ++ t)) [] (w ++ (['\t'] ++ t)) := fun t =>
    ⟨rfl, .inl rfl, by simp [w], fun c hc => by
      obtain rfl : 'f' = c := Option.some.inj hc
      decide⟩
  have hblanks : Text.Blanks ['\t'] := ⟨by decide, by simp⟩
  have hvalue : ArgumentLine entry.1 w ['\t'] value :=
    ⟨hfold, hblanks, 'T', _, rfl, by decide, by decide⟩
  have hphrase : ArgumentLine entry.1 w ['\t'] phrase :=
    ⟨hfold, hblanks, 't', _, rfl, by decide, by decide⟩
  have hclosed : ClosedValue entry.2 value :=
    ⟨⟨"true", by decide, by unfold Text.EqFold; decide +kernel⟩,
      [' ', '\r'], ['#', 'c'], by decide, by simp, by simp⟩
  have hopen : ¬ ClosedValue entry.2 phrase := by
    rintro ⟨⟨s, hs, hsame⟩, -⟩
    have hlengths : ∀ s ∈ entry.2, s.toList.length ≠ phrase.body.length := by decide
    exact hlengths s hs (List.Forall₂.length_eq hsame).symm
  have hfirst : ∀ {lead : List Token}, Tiles 0 [] lead → lead = []
    | [], _ => rfl
    | _ :: _, ⟨hne, _, _, _, hnil, _⟩ => absurd (List.append_eq_nil_iff.mp hnil.symm).1 hne
  obtain ⟨lead, _, others, htokens, hlead, hconstant, -⟩ :=
    closed_value_tokens hentry (hplace value) hvalue
  obtain ⟨lead', _, others', htokens', hlead', -, herror⟩ :=
    closed_value_tokens hentry (hplace phrase) hphrase
  rw [hfirst hlead, hconstant hclosed] at htokens
  rw [hfirst hlead', herror hopen] at htokens'
  exact ⟨hentry, hplace value, hvalue, hclosed, ⟨others, htokens⟩, hplace phrase, hphrase, hopen,
    others', htokens'⟩

end Highlighter.Pdfile
