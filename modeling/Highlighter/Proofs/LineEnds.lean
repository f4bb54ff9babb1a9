import Mathlib.Data.List.TakeWhile
import Highlighter.Proofs.Grammar.Runs
import Highlighter.Proofs.Grammar.States
import Highlighter.Proofs.Scan.Simulation

/-!
# The two kinds of line ends

A source whose lines end with `\n` has the same tokens when every `\n` becomes
`\r\n`, up to the `\r` in their texts.

The two scans are compared step by step.  They agree on what is left of the sources,
with one exception: a comment, a run of blanks within a line and a run of arguments
take the `\r` with them, so that one scan is then between the `\r` and the `\n`
(`SameLines.afterReturn`).  There and before a whole line end the first rule to fire
is known.  Everywhere else the rules are compared kind by kind.
-/

namespace Highlighter

open Pattern

/-! ## Texts with either kind of line ends -/

namespace Text

/-- The text with every `\n` turned into `\r\n`. -/
def crlf (t : Text) : Text := t.flatMap fun c => if c = '\n' then ['\r', '\n'] else [c]

/-- The text without any `\r`. -/
def withoutReturns (t : Text) : Text := t.filter (· != '\r')

@[simp] theorem crlf_nil : crlf [] = [] := rfl

@[simp] theorem crlf_newline (t : Text) : crlf ('\n' :: t) = '\r' :: '\n' :: crlf t := rfl

theorem crlf_cons {c : Char} (h : c ≠ '\n') (t : Text) : crlf (c :: t) = c :: crlf t := by
  simp [crlf, h]

theorem crlf_append (s t : Text) : crlf (s ++ t) = crlf s ++ crlf t := List.flatMap_append

theorem crlf_of_not_mem {t : Text} (h : '\n' ∉ t) : crlf t = t := by
  induction t with
  | nil => rfl
  | cons c t ih =>
    rw [List.mem_cons, not_or] at h
    rw [crlf_cons (Ne.symm h.1), ih h.2]

theorem withoutReturns_of_not_mem {t : Text} (h : '\r' ∉ t) : withoutReturns t = t := by
  rw [withoutReturns, List.filter_eq_self]
  intro c hc
  have hr : c ≠ '\r' := fun heq => h (heq ▸ hc)
  simpa using hr

theorem withoutReturns_crlf {t : Text} (h : '\r' ∉ t) : withoutReturns (crlf t) = t := by
  induction t with
  | nil => rfl
  | cons c t ih =>
    rw [List.mem_cons, not_or] at h
    have ih := ih h.2
    by_cases hc : c = '\n'
    · subst hc
      rw [crlf_newline]
      simpa [withoutReturns] using ih
    · rw [crlf_cons hc]
      have hr : c ≠ '\r' := Ne.symm h.1
      simpa [withoutReturns, hr] using ih

/-- A text ends a line in both forms or in none. -/
theorem getLast?_crlf (t : Text) : (crlf t).getLast? == some '\n' ↔ t.getLast? == some '\n' := by
  induction t using List.reverseRecOn with
  | nil => rfl
  | append_singleton t c _ =>
    by_cases hc : c = '\n'
    · subst hc
      simp [crlf_append]
    · simp [crlf_append, crlf_cons hc]

theorem takeWhile_crlf {p : Char → Bool} (hn : p '\n' = true) (hr : p '\r' = true) (t : Text) :
    (crlf t).takeWhile p = crlf (t.takeWhile p) := by
  induction t with
  | nil => rfl
  | cons c t ih =>
    by_cases hc : c = '\n'
    · subst hc
      simp [hn, hr, ih]
    · by_cases hp : p c = true
      · rw [crlf_cons hc, List.takeWhile_cons_of_pos hp, List.takeWhile_cons_of_pos hp,
          crlf_cons hc, ih]
      · rw [crlf_cons hc, List.takeWhile_cons_of_neg hp, List.takeWhile_cons_of_neg hp]
        rfl

theorem dropWhile_crlf {p : Char → Bool} (hn : p '\n' = true) (hr : p '\r' = true) (t : Text) :
    (crlf t).dropWhile p = crlf (t.dropWhile p) := by
  induction t with
  | nil => rfl
  | cons c t ih =>
    by_cases hc : c = '\n'
    · subst hc
      simp [hn, hr, ih]
    · by_cases hp : p c = true
      · rw [crlf_cons hc, List.dropWhile_cons_of_pos hp, List.dropWhile_cons_of_pos hp, ih]
      · rw [crlf_cons hc, List.dropWhile_cons_of_neg hp, List.dropWhile_cons_of_neg hp,
          crlf_cons hc]

end Text

/-- What is left of a source without `\r` and of its other form. -/
inductive SameLines : Text → Text → Prop where
  /-- The same text in the other form. -/
  | whole {t : Text} : '\r' ∉ t → SameLines t t.crlf
  /-- A line end whose `\r` was taken. -/
  | afterReturn {t : Text} : '\r' ∉ t → SameLines ('\n' :: t) ('\n' :: t.crlf)

/-! ## Matches in either form -/

/-- A text read in one scan and in the other. -/
structure SameText (u u' : Text) : Prop where
  /-- Without `\r` it is the same. -/
  returns : u'.withoutReturns = u
  /-- It ends a line in both scans or in none. -/
  line : (u'.getLast? == some '\n') = (u.getLast? == some '\n')

theorem SameText.crlf {u : Text} (h : '\r' ∉ u) : SameText u u.crlf :=
  ⟨Text.withoutReturns_crlf h, Bool.eq_iff_iff.mpr (Text.getLast?_crlf u)⟩

theorem SameText.same {u : Text} (h : '\r' ∉ u) : SameText u u :=
  ⟨Text.withoutReturns_of_not_mem h, rfl⟩

theorem SameText.withReturn {u : Text} (h : '\r' ∉ u) (hn : '\n' ∉ u) :
    SameText u (u ++ ['\r']) where
  returns := by
    have hu := Text.withoutReturns_of_not_mem h
    rw [Text.withoutReturns] at hu ⊢
    simp [hu]
  line := by
    rw [List.getLast?_append_of_ne_nil _ (by simp)]
    cases hlast : u.getLast? with
    | none => rfl
    | some c =>
      have hc : c ≠ '\n' := fun heq => hn (heq ▸ List.mem_of_getLast? hlast)
      simpa using hc

/-- The match of a rule in one scan and in the other. -/
structure SameMatch (rule : BuiltRule) (t t' : Text) (m m' : Match) : Prop where
  /-- It reads the same text, and a group the same part of it. -/
  read : ∃ u u' : Text, t = u ++ m.rest ∧ m.stop = u.size ∧ t' = u' ++ m'.rest ∧
    m'.stop = u'.size ∧ SameText u u' ∧
      ((u' = u ∧ m'.captures = m.captures) ∨ ∃ category, rule.action = .token category)
  /-- It leaves the same text. -/
  rest : SameLines m.rest m'.rest

/-- A rule that makes one token of what it reads. -/
theorem SameMatch.of_token {rule : BuiltRule} {category : Category}
    (h : rule.action = .token category) {u u' v v' : Text} (hu : SameText u u')
    (hv : SameLines v v') :
    SameMatch rule (u ++ v) (u' ++ v') ⟨0, u.size, [], v⟩ ⟨0, u'.size, [], v'⟩ :=
  ⟨⟨u, u', rfl, rfl, rfl, rfl, hu, Or.inr ⟨category, h⟩⟩, hv⟩

section Kinds

variable {t : Text} {lineStart : Bool}

/-- The lookaheads within a line do not tell the two kinds of line ends apart. -/
theorem LineLookahead.matches_eq {o : Option Pattern} (h : LineLookahead o) {q : Pattern}
    (hq : q ∈ o) (v v' w : Text) :
    q.matches (w ++ '\r' :: '\n' :: v') = q.matches (w ++ '\n' :: v) := by
  cases h with
  | none => cases hq
  | @oneLine q' hq' =>
    cases hq
    exact matches_eq_of_twins (x := '\n' :: v) (y := '\r' :: '\n' :: v') hq'.blind
      (stays_of_accepts hq'.newline _) (stays_of_endsIn hq'.end_ hq'.newline _) w
  | lineEnd =>
    cases hq
    rw [matches_lineEnd, matches_lineEnd, List.dropWhile_append, List.dropWhile_append]
    split
    · rfl
    · next hne =>
      obtain ⟨c, u, hcu⟩ := List.exists_cons_of_ne_nil (fun hnil => hne (List.isEmpty_iff.mpr hnil))
      rw [hcu]
      rfl

/-- Twins before a line end read the same text and leave the same text. -/
theorem Match.Twins.sameMatch {rule : BuiltRule} {u v read read' : Text} {m m' : Match}
    (h : m.Twins ('\n' :: v) ('\r' :: '\n' :: Text.crlf v) m') (hr : '\r' ∉ u ++ '\n' :: v)
    (hu : '\n' ∉ u) (htext : u ++ '\n' :: v = read ++ m.rest) (hstop : m.stop = read.size)
    (htext' : u ++ '\r' :: '\n' :: Text.crlf v = read' ++ m'.rest) (hstop' : m'.stop = read'.size) :
    SameMatch rule (u ++ '\n' :: v) (u ++ '\r' :: '\n' :: Text.crlf v) m m' := by
  obtain ⟨w, hw, hw'⟩ := h.rest
  have hread : u = read ++ w := by
    rw [hw, ← List.append_assoc] at htext
    exact List.append_cancel_right htext
  have hread' : u = read' ++ w := by
    rw [hw', ← List.append_assoc] at htext'
    exact List.append_cancel_right htext'
  have heq : read' = read := List.append_cancel_right (hread' ▸ hread)
  subst heq
  rw [hread, List.mem_append, List.mem_append, not_or, not_or] at hr
  rw [hread, List.mem_append, not_or] at hu
  refine ⟨⟨read', read', htext, hstop, htext', hstop', .same hr.1.1, Or.inl ⟨rfl, h.captures⟩⟩, ?_⟩
  have hwhole : SameLines (w ++ '\n' :: v) (Text.crlf (w ++ '\n' :: v)) :=
    .whole (by rw [List.mem_append, not_or]; exact ⟨hr.1.2, hr.2⟩)
  rwa [Text.crlf_append, Text.crlf_of_not_mem hu.2, Text.crlf_newline, ← hw, ← hw'] at hwhole

/-- A rule that stays within a line. -/
theorem sameMatch_lined {p : Pattern} {q : Option Pattern} {b : Bool} {action : Action}
    {s : Transition} (hp : p.OneLine) (hq : LineLookahead q) (ht : '\r' ∉ t) :
    Option.Rel (SameMatch ⟨p.tied, b, q, action, s⟩ t t.crlf)
      ((⟨p.tied, b, q, action, s⟩ : BuiltRule).fires? lineStart t)
      ((⟨p.tied, b, q, action, s⟩ : BuiltRule).fires? lineStart t.crlf) := by
  by_cases hn : '\n' ∈ t
  · obtain ⟨u, v, rfl, hu⟩ := List.eq_append_cons_of_mem hn
    have hcrlf : Text.crlf (u ++ '\n' :: v) = u ++ '\r' :: '\n' :: Text.crlf v := by
      rw [Text.crlf_append, Text.crlf_of_not_mem hu, Text.crlf_newline]
    have htwins : Option.Rel (Match.Twins ('\n' :: v) ('\r' :: '\n' :: Text.crlf v))
        ((⟨p.tied, b, q, action, s⟩ : BuiltRule).fires? lineStart (u ++ '\n' :: v))
        ((⟨p.tied, b, q, action, s⟩ : BuiltRule).fires? lineStart
          (u ++ '\r' :: '\n' :: Text.crlf v)) :=
      BuiltRule.fires?_twins (x := '\n' :: v) (y := '\r' :: '\n' :: Text.crlf v) rfl hp.blind
        (stays_of_accepts hp.newline _) (stays_of_endsIn hp.end_ hp.newline _) u
        fun q' hq' w => hq.matches_eq hq' v (Text.crlf v) w
    rw [hcrlf]
    cases hm : (⟨p.tied, b, q, action, s⟩ : BuiltRule).fires? lineStart (u ++ '\n' :: v) with
    | none =>
      rw [hm] at htwins
      generalize (⟨p.tied, b, q, action, s⟩ : BuiltRule).fires? lineStart
        (u ++ '\r' :: '\n' :: Text.crlf v) = found at htwins
      cases htwins
      exact .none
    | some m =>
      cases hm' : (⟨p.tied, b, q, action, s⟩ : BuiltRule).fires? lineStart
        (u ++ '\r' :: '\n' :: Text.crlf v) with
      | none =>
        rw [hm, hm'] at htwins
        cases htwins
      | some m' =>
        rw [hm, hm'] at htwins
        cases htwins with
        | some htwins =>
          obtain ⟨read, -, htext, hstop, -⟩ := BuiltRule.fires?_spans hm
          obtain ⟨read', -, htext', hstop', -⟩ := BuiltRule.fires?_spans hm'
          exact .some (htwins.sameMatch ht hu htext hstop htext' hstop')
  · rw [Text.crlf_of_not_mem hn]
    cases hm : (⟨p.tied, b, q, action, s⟩ : BuiltRule).fires? lineStart t with
    | none => exact .none
    | some m =>
      obtain ⟨u, -, htext, hstop, -⟩ := BuiltRule.fires?_spans hm
      rw [htext, List.mem_append, not_or] at ht hn
      have hrest : SameLines m.rest m.rest := by
        have hwhole := SameLines.whole ht.2
        rwa [Text.crlf_of_not_mem hn.2] at hwhole
      exact .some ⟨⟨u, u, htext, hstop, htext, hstop, .same ht.1, Or.inl ⟨rfl, rfl⟩⟩, hrest⟩


/-- A run that may take in the `\r` before a line end. -/
theorem sameLines_run {s : CharSet} (hn : s.holds '\n' = false) (hr : s.holds '\r' = true) :
    ∀ {t : Text}, '\r' ∉ t →
      (t.crlf.takeWhile s.holds = t.takeWhile s.holds ∨
        t.crlf.takeWhile s.holds = t.takeWhile s.holds ++ ['\r']) ∧
      SameLines (t.dropWhile s.holds) (t.crlf.dropWhile s.holds)
  | [], ht => ⟨Or.inl rfl, .whole ht⟩
  | c :: t, ht => by
    have htail := fun h => ht (List.mem_cons_of_mem c h)
    by_cases hc : c = '\n'
    · subst hc
      rw [Text.crlf_newline, List.takeWhile_cons_of_pos hr, List.dropWhile_cons_of_pos hr]
      simp only [List.takeWhile_cons, List.dropWhile_cons, hn]
      exact ⟨Or.inr rfl, .afterReturn htail⟩
    · rw [Text.crlf_cons hc]
      by_cases hs : s.holds c = true
      · obtain ⟨htake, hdrop⟩ := sameLines_run hn hr htail
        simp only [List.takeWhile_cons_of_pos hs, List.dropWhile_cons_of_pos hs]
        refine ⟨htake.imp (fun h => ?_) (fun h => ?_), hdrop⟩
        · rw [h]
        · rw [h, List.cons_append]
      · simp only [List.takeWhile_cons_of_neg hs, List.dropWhile_cons_of_neg hs]
        refine ⟨Or.inl trivial, ?_⟩
        rw [← Text.crlf_cons hc]
        exact .whole ht

theorem sameMatch_run {rule : BuiltRule} {category : Category} {s s' : CharSet}
    (haction : rule.action = .token category) (hn : s'.holds '\n' = false)
    (hr : s'.holds '\r' = true) {c : Char} (hc : c ≠ '\n') (ht : '\r' ∉ c :: t) :
    Option.Rel (SameMatch rule (c :: t) (c :: t.crlf))
      ((seq (one s) (many true s')).tied.find (c :: t))
      ((seq (one s) (many true s')).tied.find (c :: t.crlf)) := by
  rw [find_run, find_run]
  split
  · have htail := fun h => ht (List.mem_cons_of_mem c h)
    obtain ⟨htake, hdrop⟩ := sameLines_run hn hr htail
    have hread : '\r' ∉ c :: t.takeWhile s'.holds := fun h =>
      ht ((List.mem_cons.mp h).elim (fun h => h ▸ List.mem_cons_self ..) fun h =>
        List.mem_cons_of_mem c (List.takeWhile_subset _ h))
    have hline : '\n' ∉ c :: t.takeWhile s'.holds := by
      rw [List.mem_cons, not_or]
      refine ⟨Ne.symm hc, fun h => ?_⟩
      rw [List.mem_takeWhile_imp h] at hn
      exact Bool.noConfusion hn
    have htext : SameText (c :: t.takeWhile s'.holds) (c :: t.crlf.takeWhile s'.holds) := by
      rcases htake with h | h
      · rw [h]
        exact .same hread
      · rw [h]
        exact .withReturn hread hline
    have hmatch := SameMatch.of_token haction htext hdrop
    simp only [List.cons_append, List.takeWhile_append_dropWhile] at hmatch
    exact .some hmatch
  · exact .none

/-- A run of blanks, also across line ends. -/
theorem SameLines.blanks {t' : Text} (h : SameLines t t') :
    SameText (t.takeWhile isBlank) (t'.takeWhile isBlank) ∧
      SameLines (t.dropWhile isBlank) (t'.dropWhile isBlank) := by
  have htake : ∀ {t : Text}, '\r' ∉ t → '\r' ∉ t.takeWhile isBlank :=
    fun h hmem => h (List.takeWhile_subset _ hmem)
  have hdrop : ∀ {t : Text}, '\r' ∉ t → '\r' ∉ t.dropWhile isBlank :=
    fun h hmem => h ((List.dropWhile_sublist _).mem hmem)
  cases h with
  | whole h =>
    rw [Text.takeWhile_crlf rfl rfl, Text.dropWhile_crlf rfl rfl]
    exact ⟨.crlf (htake h), .whole (hdrop h)⟩
  | @afterReturn t h =>
    have htext : SameText ('\n' :: t.takeWhile isBlank) (Text.crlf ('\n' :: t.takeWhile isBlank)) :=
      .crlf (by simpa using htake h)
    rw [Text.crlf_newline] at htext
    have hblank : isBlank '\n' = true := rfl
    rw [List.takeWhile_cons_of_pos hblank, List.takeWhile_cons_of_pos hblank,
      List.dropWhile_cons_of_pos hblank, List.dropWhile_cons_of_pos hblank,
      Text.takeWhile_crlf rfl rfl, Text.dropWhile_crlf rfl rfl]
    exact ⟨⟨htext.returns, htext.line⟩, .whole (hdrop h)⟩

theorem find_blanks_rel {rule : BuiltRule} {category : Category}
    (haction : rule.action = .token category) {c c' : Char} {t' : Text}
    (hc : isBlank c = true) (hc' : isBlank c' = true) (h : SameLines (c :: t) (c' :: t')) :
    SameMatch rule (c :: t) (c' :: t')
      ⟨0, Text.size (c :: t.takeWhile isBlank), [], t.dropWhile isBlank⟩
      ⟨0, Text.size (c' :: t'.takeWhile isBlank), [], t'.dropWhile isBlank⟩ := by
  obtain ⟨htext, hrest⟩ := h.blanks
  have hmatch := SameMatch.of_token haction htext hrest
  rwa [List.takeWhile_append_dropWhile, List.takeWhile_append_dropWhile,
    List.takeWhile_cons_of_pos hc, List.takeWhile_cons_of_pos hc', List.dropWhile_cons_of_pos hc,
    List.dropWhile_cons_of_pos hc'] at hmatch

theorem sameMatch_escape {rule : BuiltRule} {category : Category}
    (haction : rule.action = .token category) {c : Char} (hc : c ≠ '\n') (ht : '\r' ∉ c :: t) :
    Option.Rel (SameMatch rule (c :: t) (c :: t.crlf)) (escape.tied.find (c :: t))
      (escape.tied.find (c :: t.crlf)) := by
  by_cases hslash : c = '\\'
  · subst hslash
    match t, ht with
    | [], _ =>
      rw [Text.crlf_nil, find_escape_singleton]
      exact .none
    | d :: t, ht =>
      have htail := fun h => ht (List.mem_cons_of_mem _ (List.mem_cons_of_mem d h))
      by_cases hd : d = '\n'
      · subst hd
        rw [Text.crlf_newline, find_escape_newline, find_escape_return]
        exact .some (.of_token haction (.crlf (u := ['\\', '\n']) (by decide)) (.whole htail))
      · have hr : d ≠ '\r' := fun heq => ht (by simp [heq])
        rw [Text.crlf_cons hd, find_escape_char hd fun heq => absurd heq hr,
          find_escape_char hd fun heq => absurd heq hr]
        exact .some (.of_token haction (.same (u := ['\\', d]) (by simp [Ne.symm hr]))
          (.whole htail))
  · rw [find_escape_eq_none hslash, find_escape_eq_none hslash]
    exact .none

theorem sameMatch_char {rule : BuiltRule} {category : Category}
    (haction : rule.action = .token category) {c : Char} (hc : c ≠ '\r') (ht : '\r' ∉ t) :
    SameMatch rule (c :: t) (c :: t.crlf) ⟨0, Text.size [c], [], t⟩
      ⟨0, Text.size [c], [], t.crlf⟩ :=
  .of_token haction (.same (u := [c]) (by simpa using Ne.symm hc)) (.whole ht)

/-- Away from line ends every kind of rule finds the same match in both forms. -/
theorem BuiltRule.Kind.sameMatch {rule : BuiltRule} (h : rule.Kind) {c : Char} (hc : c ≠ '\n')
    (ht : '\r' ∉ c :: t) :
    Option.Rel (SameMatch rule (c :: t) (Text.crlf (c :: t))) (rule.fires? lineStart (c :: t))
      (rule.fires? lineStart (Text.crlf (c :: t))) := by
  have htail := fun h => ht (List.mem_cons_of_mem c h)
  have hr : c ≠ '\r' := fun heq => ht (heq ▸ List.mem_cons_self ..)
  cases h with
  | lined hp hq => exact sameMatch_lined hp hq ht
  | blanks =>
    have hwhole := SameLines.whole ht
    rw [Text.crlf_cons hc] at hwhole ⊢
    rw [fires?_plain rfl, fires?_plain rfl, plus, find_run, find_run]
    split
    · next hblank => exact .some (find_blanks_rel rfl hblank hblank hwhole)
    · exact .none
  | run _ hs' hr =>
    rw [Text.crlf_cons hc, fires?_plain rfl, fires?_plain rfl]
    exact sameMatch_run rfl hs' hr hc ht
  | newline =>
    rw [Text.crlf_cons hc, fires?_plain rfl, fires?_plain rfl, find_newline_eq_none hc hr,
      find_newline_eq_none hc hr]
    exact .none
  | escape =>
    rw [Text.crlf_cons hc, fires?_plain rfl, fires?_plain rfl]
    exact sameMatch_escape rfl hc ht
  | anyChar =>
    rw [Text.crlf_cons hc, fires?_plain rfl, fires?_plain rfl, find_inLine, find_inLine, if_neg hc,
      if_neg hc]
    exact .some (sameMatch_char rfl hr htail)

end Kinds

/-! ## Steps in either form -/

namespace Language

/-- The first rule that fires at a line end. -/
theorem firstFiring?_newline (l : Language) {stack : Stack}
    (hstack : stack.OnLevels l.grammar l.innerStates) (lineStart : Bool) (t : Text) :
    ∃ found, firstFiring? lineStart ('\n' :: t) (l.grammar.rulesOf stack.top) = some found := by
  cases hstack with
  | entry => exact ⟨_, l.firstFiring?_entry_of_blank lineStart t rfl⟩
  | inner hstate =>
    exact ⟨_, l.firstFiring?_inner hstate lineStart (by decide) (find_newline_newline t)⟩

/-- In every state the same rule fires first in both forms. -/
theorem firstFiring?_sameLines (l : Language) {stack : Stack}
    (hstack : stack.OnLevels l.grammar l.innerStates) (lineStart : Bool) {t t' : Text}
    (h : SameLines t t') (ht : t ≠ []) :
    Option.Rel (fun found found' => found'.1 = found.1 ∧ SameMatch found.1 t t' found.2 found'.2)
      (firstFiring? lineStart t (l.grammar.rulesOf stack.top))
      (firstFiring? lineStart t' (l.grammar.rulesOf stack.top)) := by
  -- At a line end, of which the `\r` was taken or not, the rule is known.
  have hblank : ∀ {c c' : Char} {v v' : Text}, isBlank c = true → isBlank c' = true →
      SameLines (c :: v) (c' :: v') →
      Option.Rel (fun found found' => found'.1 = found.1 ∧
          SameMatch found.1 (c :: v) (c' :: v') found.2 found'.2)
        (firstFiring? lineStart (c :: v) (l.grammar.rulesOf l.grammar.entry))
        (firstFiring? lineStart (c' :: v') (l.grammar.rulesOf l.grammar.entry)) := by
    intro c c' v v' hc hc' h
    rw [l.firstFiring?_entry_of_blank lineStart v hc,
      l.firstFiring?_entry_of_blank lineStart v' hc']
    exact .some ⟨rfl, find_blanks_rel rfl hc hc' h⟩
  cases h with
  | @whole t hr =>
    obtain ⟨c, v, rfl⟩ := List.exists_cons_of_ne_nil ht
    by_cases hc : c = '\n'
    · subst hc
      have hwhole := SameLines.whole hr
      have htail : '\r' ∉ v := fun h => hr (List.mem_cons_of_mem _ h)
      rw [Text.crlf_newline] at hwhole ⊢
      cases hstack with
      | entry => exact hblank rfl rfl hwhole
      | inner hstate =>
        rw [l.firstFiring?_inner hstate lineStart (by decide) (find_newline_newline v),
          l.firstFiring?_inner hstate lineStart (by decide) (find_newline_return (Text.crlf v))]
        exact .some ⟨rfl, .of_token rfl (.crlf (u := ['\n']) (by decide)) (.whole htail)⟩
    · exact firstFiring?_rel (Q := fun rule => SameMatch rule (c :: v) (Text.crlf (c :: v)))
        fun rule hrule => (l.kind_of_mem _ rule hrule).sameMatch hc hr
  | @afterReturn v hr =>
    cases hstack with
    | entry => exact hblank rfl rfl (.afterReturn hr)
    | inner hstate =>
      rw [l.firstFiring?_inner hstate lineStart (by decide) (find_newline_newline v),
        l.firstFiring?_inner hstate lineStart (by decide) (find_newline_newline (Text.crlf v))]
      exact .some ⟨rfl, .of_token rfl (.same (u := ['\n']) (by decide)) (.whole hr)⟩

end Language

/-- A token of one scan and of the other. -/
def Token.Same (t t' : Token) : Prop :=
  t'.category = t.category ∧ t'.text.withoutReturns = t.text

theorem Token.map_eq_of_same {tokens tokens' : List Token}
    (h : List.Forall₂ Token.Same tokens tokens') :
    tokens'.map (fun t => (t.category, t.text.withoutReturns)) =
      tokens.map fun t => (t.category, t.text) := by
  induction h with
  | nil => rfl
  | cons hsame _ ih => rw [List.map_cons, List.map_cons, hsame.1, hsame.2, ih]

/-- The tokens of one match have the same categories and texts at every position. -/
theorem Action.tokens_same (action : Action) (base base' : Nat) (u : Text) {m m' : Match}
    (h : m'.captures = m.captures) (hr : ∀ t ∈ action.tokens base u m, '\r' ∉ t.text) :
    List.Forall₂ Token.Same (action.tokens base u m) (action.tokens base' u m') := by
  rw [action.tokens_of_captures base' u h]
  rw [show base = base + 0 from rfl, Action.tokens_add, List.forall_mem_map] at hr
  rw [show base = base + 0 from rfl, show base' = base' + 0 from rfl, Action.tokens_add,
    Action.tokens_add, List.forall₂_map_left_iff, List.forall₂_map_right_iff, List.forall₂_same]
  exact fun t ht => ⟨rfl, Text.withoutReturns_of_not_mem (hr t ht)⟩

/-- A scan of a source and of its other form, at corresponding points. -/
structure Lexer.SameScan (lx lx' : Lexer) : Prop where
  /-- What is left is the same. -/
  rest : SameLines lx.rest lx'.rest
  /-- Both are at the start of a line or none. -/
  lineStart : lx'.lineStart = lx.lineStart
  /-- The same states are open. -/
  stack : lx'.stack = lx.stack
  /-- No token waits in the other scan. -/
  idle : lx'.Idle

/-- Away from line ends the next character is the same. -/
theorem SameLines.of_cons {c : Char} {t t' : Text} (h : SameLines (c :: t) t') (hc : c ≠ '\n') :
    t' = c :: t.crlf ∧ SameLines t t.crlf := by
  cases h with
  | whole hr => exact ⟨Text.crlf_cons hc t, .whole fun h => hr (List.mem_cons_of_mem c h)⟩
  | afterReturn => exact absurd rfl hc

theorem SameLines.ne_nil {t t' : Text} (h : SameLines t t') (ht : t ≠ []) : t' ≠ [] := by
  obtain ⟨c, v, rfl⟩ := List.exists_cons_of_ne_nil ht
  by_cases hc : c = '\n'
  · subst hc
    cases h with
    | whole => simp
    | afterReturn => simp
  · simp [(h.of_cons hc).1]

theorem SameLines.not_mem {t t' : Text} (h : SameLines t t') : '\r' ∉ t := by
  cases h with
  | whole h => exact h
  | afterReturn h => simpa using h

/-- A step finds tokens whose texts are parts of the text that is left. -/
theorem Lexer.not_mem_step_pending {g : Grammar} {lx : Lexer} (hidle : lx.Idle)
    (hrest : lx.rest ≠ []) {c : Char} (hc : c ∉ lx.rest) :
    ∀ t ∈ (lx.step g).pending, c ∉ t.text := by
  obtain ⟨u, -, htext, -, -, htiles⟩ := exists_step_reads g hidle hrest
  intro t ht hmem
  exact hc (htext ▸ List.mem_append_left _ (htiles.subset t ht c hmem))

/-- Steps go alike in both forms. -/
theorem Lexer.SameScan.step (l : Language) {lx lx' : Lexer} (h : lx.SameScan lx')
    (hstack : lx.stack.OnLevels l.grammar l.innerStates) (hidle : lx.Idle) (hrest : lx.rest ≠ []) :
    lx'.rest ≠ [] ∧
      List.Forall₂ Token.Same (lx.step l.grammar).pending (lx'.step l.grammar).pending ∧
      (lx.step l.grammar).settle.SameScan (lx'.step l.grammar).settle := by
  have hr := h.rest.not_mem
  have hpending := not_mem_step_pending (g := l.grammar) hidle hrest hr
  obtain ⟨hlines, hline, hsame, hidle'⟩ := h
  have hrest' : lx'.rest ≠ [] := hlines.ne_nil hrest
  have hnone : lx.pending = [] := hidle
  have hnone' : lx'.pending = [] := hidle'
  refine ⟨hrest', ?_⟩
  rcases step_pair l.grammar (Q := fun rule => SameMatch rule lx.rest lx'.rest) (by rw [hsame])
    hline hrest hrest' (l.firstFiring?_sameLines hstack lx.lineStart hlines hrest) with
    ⟨rule, -, m, m', ⟨⟨u, u', hu, -, hu', -, htext, hread⟩, hlines'⟩, v, v', hv, -, hv', -, hstep,
      hstep'⟩ | ⟨c, rest, c', rest', hfire, hc, hc', hstep, hstep'⟩
  · obtain rfl : v = u := List.append_cancel_right (hv ▸ hu)
    obtain rfl : v' = u' := List.append_cancel_right (hv' ▸ hu')
    rw [hstep] at hpending ⊢
    rw [hstep']
    refine ⟨?_, hlines', htext.line, ?_, rfl⟩
    · simp only [consume, hnone, hnone', List.nil_append] at hpending ⊢
      rcases hread with ⟨rfl, hcaptures⟩ | ⟨category, haction⟩
      · exact rule.action.tokens_same _ _ _ hcaptures hpending
      · simp only [haction, Action.tokens]
        exact .cons ⟨rfl, htext.returns⟩ .nil
    · simp only [consume, settle_stack, hsame]
  · -- At a line end a rule fires, so the character is the same in both forms.
    have hne : c ≠ '\n' := by
      rintro rfl
      obtain ⟨found, hfound⟩ := l.firstFiring?_newline hstack lx.lineStart rest
      rw [hc, hfound] at hfire
      cases hfire
    rw [hc, hc'] at hlines
    obtain ⟨hcons, htail⟩ := hlines.of_cons hne
    cases hcons
    rw [hstep] at hpending ⊢
    rw [hstep']
    simp only [consume, hnone, hnone', List.nil_append] at hpending ⊢
    have htext := hpending _ (List.mem_singleton_self _)
    refine ⟨.cons ⟨rfl, Text.withoutReturns_of_not_mem htext⟩ .nil, htail, rfl, ?_, rfl⟩
    simp only [settle_stack, hsame]

/-! ## The two forms of a source -/

/-- A source without `\r` has the same tokens when its line ends become `\r\n`, up to the `\r`
in their texts. -/
theorem Language.tokenize_crlf (l : Language) (source : Text) (h : '\r' ∉ source) :
    (tokenize l.grammar source.crlf).map (fun t => (t.category, t.text.withoutReturns)) =
      (tokenize l.grammar source).map fun t => (t.category, t.text) := by
  obtain ⟨lx, hscans, hend⟩ := scans_tokenize l.grammar source
  obtain ⟨tokens, lx', hscans', htokens, hsame, -⟩ := hscans.simulate
    (R := fun lx lx' => lx.SameScan lx' ∧ lx.stack.OnLevels l.grammar l.innerStates)
    (T := Token.Same) (fun _ _ h => h.1.idle)
    (fun lx lx' hidle hrest h => by
      obtain ⟨hrest', htokens, hnext⟩ := h.1.step l h.2 hidle hrest
      exact ⟨hrest', htokens, hnext, Lexer.onLevels_step l.twoLevel h.2⟩)
    (show (Lexer.start l.grammar source).SameScan (Lexer.start l.grammar source.crlf) ∧ _ from
      ⟨⟨.whole h, rfl, rfl, rfl⟩, .entry⟩)
  have hend' : lx'.rest = [] := by
    have hlines := hsame.rest
    rw [hend] at hlines
    generalize lx'.rest = t' at hlines
    cases hlines with
    | whole => rfl
  rw [tokenize_of_scans hscans' hend']
  exact Token.map_eq_of_same htokens

/-- A comment line in both forms. -/
theorem Language.tokenize_crlf_comment :
    '\r' ∉ (['#', 'a', '\n'] : Text) ∧
      (tokenize pdfile.grammar (Text.crlf ['#', 'a', '\n'])).map
          (fun t => (t.category, t.text.withoutReturns)) =
        (tokenize pdfile.grammar ['#', 'a', '\n']).map fun t => (t.category, t.text) :=
  ⟨by decide, tokenize_crlf pdfile ['#', 'a', '\n'] (by decide)⟩

end Highlighter
