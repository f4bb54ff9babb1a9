import Mathlib.Data.List.Forall2
import Highlighter.Proofs.Grammar.Groups
import Highlighter.Proofs.Grammar.States
import Highlighter.Proofs.Grammar.Words

/-!
# Patterns that are rows of groups

A rule with a category for each group has a pattern of one form: parts in groups, one
after another, up to the end.  A test may stand between two groups, and the last group
may be optional (`Pattern.Row`).

So a match cuts what it reads into a text for each part, and its groups are the extents
of these texts; a group that took no part has the empty text (`Match.HasGroups`).  The
rule makes a token of every text that is not empty, and no others
(`Action.tokens_of_groups`).
-/

namespace Highlighter

namespace Pattern

/-! ## Texts that a pattern reads -/

/-- Some match of a pattern reads a text. -/
def Takes (p : Pattern) (w : Text) : Prop := ∃ a, ∃ b ∈ p.run a, a.Reads w b

namespace Takes

variable {p q : Pattern} {s : CharSet} {w : Text}

/-- A text that a pattern reads has characters that it accepts only. -/
theorem accepts (h : p.Takes w) : ∀ c ∈ w, p.accepts c = true := by
  obtain ⟨a, b, hb, hw⟩ := h
  obtain ⟨u, hu, hall⟩ := p.exists_reads a b hb
  rw [hw.unique hu]
  exact hall

theorem endsIn (h : p.Takes w) : ∀ c ∈ w.getLast?, p.endsIn c = true := by
  obtain ⟨a, b, hb, hw⟩ := h
  obtain ⟨u, hu, hlast⟩ := p.endsIn_of_reads a b hb
  rw [hw.unique hu]
  exact hlast

theorem ne_nil (h : p.Takes w) (hp : p.consumes = true) : w ≠ [] := by
  obtain ⟨a, b, hb, hw⟩ := h
  exact ne_nil_of_reads hp hb hw

theorem opt (h : p.opt.Takes w) : w = [] ∨ p.Takes w := by
  obtain ⟨a, b, hb, hw⟩ := h
  rcases List.mem_append.mp hb with hb | hb
  · exact .inr ⟨a, b, hb, hw⟩
  · obtain rfl := List.mem_singleton.mp hb
    exact .inl (hw.unique (.refl b))

theorem alt (h : (Pattern.alt p q).Takes w) : p.Takes w ∨ q.Takes w := by
  obtain ⟨a, b, hb, hw⟩ := h
  exact (List.mem_append.mp hb).imp (fun hb => ⟨a, b, hb, hw⟩) fun hb => ⟨a, b, hb, hw⟩

/-- A text that a sequence reads is cut between the halves. -/
theorem seq (h : (Pattern.seq p q).Takes w) : ∃ u v, w = u ++ v ∧ p.Takes u ∧ q.Takes v := by
  obtain ⟨a, e, he, hw⟩ := h
  obtain ⟨b, hb, he⟩ := List.mem_flatMap.mp he
  obtain ⟨u, hu, -⟩ := p.exists_reads a b hb
  obtain ⟨v, hv, -⟩ := q.exists_reads b e he
  exact ⟨u, v, hw.unique (hu.trans hv), ⟨a, b, hb, hu⟩, b, e, he, hv⟩

theorem one (h : (Pattern.one s).Takes w) : ∃ c, w = [c] ∧ s.holds c = true := by
  obtain ⟨a, b, hb, hw⟩ := h
  simp only [run] at hb
  split at hb
  · simp at hb
  · next c rest hrest =>
    split at hb
    · next hc =>
      obtain rfl := List.mem_singleton.mp hb
      exact ⟨c, hw.unique (.advance hrest), hc⟩
    · simp at hb

theorem only {c : Char} (h : (Pattern.one (.only c)).Takes w) : w = [c] := by
  obtain ⟨d, rfl, hd⟩ := h.one
  rw [beq_iff_eq.mp hd]

/-- A literal reads only what equals it up to case. -/
theorem literal {name : String} (h : (Pattern.literal name).Takes w)
    (hname : WordChars name.toList) : w.EqFold name.toList := by
  obtain ⟨a, b, hb, hw⟩ := h
  exact eqFold_of_reads hname hb hw

/-- Words read only what equals one of them up to case. -/
theorem words {list : List String} (h : (Pattern.words list).Takes w) (hlist : PlainWords list) :
    ∃ name ∈ list, w.EqFold name.toList := by
  obtain ⟨a, b, hb, hw⟩ := h
  obtain ⟨u, hu, hname⟩ := exists_of_mem_words hlist hb
  rwa [hw.unique hu]

theorem wordThen {name : String} (h : (Pattern.wordThen true name.toList p).Takes w)
    (hname : WordChars name.toList) : ∃ u v, w = u ++ v ∧ u.EqFold name.toList ∧ p.Takes v := by
  obtain ⟨a, e, he, hw⟩ := h
  obtain ⟨u, b, hu, hfold, -, he⟩ := exists_of_mem_wordThen hname he
  obtain ⟨v, hv, -⟩ := p.exists_reads b e he
  exact ⟨u, v, hw.unique (hu.trans hv), hfold, b, e, he, hv⟩

theorem blanks (h : Pattern.blanks.Takes w) : w.Blanks := by
  obtain ⟨a, b, hb, hw⟩ := h
  exact blanks_of_reads hb hw

theorem argument (h : Pattern.argument.Takes w) : w.Argument := by
  obtain ⟨a, b, hb, hw⟩ := h
  exact argument_of_reads hb hw

end Takes

/-- A pattern that reads no beginning with the first character after it, and never the second, has
the same match in the beginning alone. -/
theorem twins_find_of_not_takes {p : Pattern} {u x : Text} {c d : Char}
    (hblind : p.Blind none (some c)) (hd : p.accepts d = false) (h : ¬ p.Takes (u ++ [c])) :
    Option.Rel (Match.Twins [] (c :: d :: x)) (p.tied.find u) (p.tied.find (u ++ c :: d :: x)) := by
  have htwins := twins_find_of_within (x := []) (y := c :: d :: x) (u := u) hblind
    (fun e _ => by simp [Place.within]) ?_
  · rwa [List.append_nil] at htwins
  · intro e he
    obtain ⟨v, hv, hall⟩ := p.exists_reads _ e he
    by_contra hbeyond
    have hmem : d ∉ v := fun hmem => by
      rw [hall d hmem] at hd
      cases hd
    obtain ⟨w, hw, rfl⟩ := hv.eq_of_beyond (List.suffix_append u _) (by simpa using hbeyond) hmem
    obtain rfl : u = w := List.append_cancel_right hw
    exact h ⟨_, e, he, hv⟩

/-! ## Rows -/

/-- A pattern is some parts in groups from a number on, one after another. -/
inductive Row : Nat → Pattern → List Pattern → Prop where
  /-- The last group. -/
  | last {k : Nat} {p : Pattern} : p.Groupless → Row k (.group k p) [p]
  /-- The last group, which is optional. -/
  | optional {k : Nat} {p : Pattern} : p.Groupless → Row k (.opt (.group k p)) [.opt p]
  /-- A group before others. -/
  | cons {k : Nat} {p q : Pattern} {ps : List Pattern} : p.Groupless → Row (k + 1) q ps →
      Row k (.seq (.group k p) q) (p :: ps)
  /-- A test before a group. -/
  | check {k : Nat} {a : Assertion} {q : Pattern} {ps : List Pattern} : Row k q ps →
      Row k (.seq (.check a) q) ps

/-- Groups one after another before a row. -/
theorem Row.groupsThen {q : Pattern} {qs : List Pattern} : ∀ (ps : List Pattern) {k : Nat},
    (∀ p ∈ ps, p.Groupless) → Row (k + ps.length) q qs → Row k (groupsThen k ps q) (ps ++ qs)
  | [], _, _, hq => hq
  | p :: ps, k, hps, hq => by
    have hindex : k + (p :: ps).length = k + 1 + ps.length := by
      rw [List.length_cons]
      omega
    exact .cons (hps p (List.mem_cons_self ..))
      (Row.groupsThen ps (fun r hr => hps r (List.mem_cons_of_mem p hr)) (hindex ▸ hq))

/-- The captures, from a number and a position on, of some texts that stand one after another.
A group that took no part has the empty text. -/
inductive RowCaptures : Nat → Nat → List Text → List Capture → Prop where
  | nil {k p : Nat} : RowCaptures k p [] []
  | present {k p : Nat} {w : Text} {ws : List Text} {new : List Capture} :
      RowCaptures (k + 1) (p + w.size) ws new →
      RowCaptures k p (w :: ws) (new ++ [⟨k, p, p + w.size⟩])
  | absent {k p : Nat} {ws : List Text} {new : List Capture} :
      RowCaptures (k + 1) p ws new → RowCaptures k p ([] :: ws) new

/-- The captures of a row are numbered from its first part on. -/
theorem RowCaptures.le {k p : Nat} {ws : List Text} {new : List Capture}
    (h : RowCaptures k p ws new) : ∀ c ∈ new, k ≤ c.index := by
  induction h with
  | nil => simp
  | present _ ih =>
    intro c hc
    rcases List.mem_append.mp hc with hc | hc
    · exact Nat.le_of_succ_le (ih c hc)
    · rw [List.mem_singleton.mp hc]
  | absent _ ih => exact fun c hc => Nat.le_of_succ_le (ih c hc)

/-- A match of a row cuts what it reads into a text for each part. -/
theorem Row.exists_cut {k : Nat} {p : Pattern} {ps : List Pattern} (h : Row k p ps) :
    ∀ {a e : Place}, e ∈ p.run a → ∃ ws new, List.Forall₂ Takes ps ws ∧ a.Reads ws.flatten e ∧
      e.captures = new ++ a.captures ∧ RowCaptures k a.offset ws new := by
  induction h with
  | @last k p hp =>
    intro a e he
    obtain ⟨b, hb, rfl⟩ := List.mem_map.mp he
    obtain ⟨w, hw, -⟩ := p.exists_reads a b hb
    refine ⟨[w], _, .cons ⟨a, b, hb, hw⟩ .nil, by simpa using hw.capture k, ?_, .present .nil⟩
    simp only [Place.capture, hp.captures_eq hb, hw.offset, List.nil_append, List.cons_append]
  | @optional k p hp =>
    intro a e he
    rcases List.mem_append.mp he with he | he
    · obtain ⟨b, hb, rfl⟩ := List.mem_map.mp he
      obtain ⟨w, hw, -⟩ := p.exists_reads a b hb
      refine ⟨[w], _, .cons ⟨a, b, List.mem_append_left _ hb, hw⟩ .nil,
        by simpa using hw.capture k, ?_, .present .nil⟩
      simp only [Place.capture, hp.captures_eq hb, hw.offset, List.nil_append, List.cons_append]
    · obtain rfl := List.mem_singleton.mp he
      have hnone : p.opt.Takes [] :=
        ⟨e, e, List.mem_append_right _ (List.mem_singleton_self e), .refl e⟩
      exact ⟨[[]], [], .cons hnone .nil, .refl e, rfl, .absent .nil⟩
  | @cons k p q ps hp _ ih =>
    intro a e he
    obtain ⟨_, hgroup, he⟩ := List.mem_flatMap.mp he
    obtain ⟨b, hb, rfl⟩ := List.mem_map.mp hgroup
    obtain ⟨w, hw, -⟩ := p.exists_reads a b hb
    obtain ⟨ws, new, htakes, hws, hcaptures, hnew⟩ := ih he
    have hoffset : (b.capture k a.offset).offset = a.offset + w.size := hw.offset
    rw [hoffset] at hnew
    refine ⟨w :: ws, _, .cons ⟨a, b, hb, hw⟩ htakes, (hw.capture k).trans hws, ?_, .present hnew⟩
    rw [hcaptures]
    simp only [Place.capture, hp.captures_eq hb, hw.offset, List.append_assoc, List.cons_append,
      List.nil_append]
  | check _ ih =>
    intro a e he
    obtain ⟨b, hb, hq⟩ := List.mem_flatMap.mp he
    simp only [run] at hb
    split at hb
    · rw [List.mem_singleton.mp hb] at hq
      exact ih hq
    · simp at hb

/-- What a row reads is a text for each part. -/
theorem Row.takes {k : Nat} {p : Pattern} {ps : List Pattern} (h : Row k p ps) {w : Text}
    (hw : p.Takes w) : ∃ ws, List.Forall₂ Takes ps ws ∧ w = ws.flatten := by
  obtain ⟨a, e, he, hreads⟩ := hw
  obtain ⟨ws, new, htakes, hws, -⟩ := h.exists_cut he
  exact ⟨ws, htakes, hreads.unique hws⟩

end Pattern

/-! ## Groups of a match -/

/-- From a number and a position on, the groups of a match are the extents of some texts that
stand one after another.  A group that took no part has the empty text. -/
def Match.HasGroups (m : Match) : Nat → Nat → List Text → Prop
  | _, _, [] => True
  | k, p, w :: ws =>
      (m.group? k = some (p, p + w.size) ∨ w = [] ∧ m.group? k = none) ∧
        m.HasGroups (k + 1) (p + w.size) ws

/-- A match with the captures of a row has the groups of the row. -/
theorem Match.hasGroups_of_rowCaptures {m : Match} {k p : Nat} {ws : List Text}
    {new : List Capture} (h : Pattern.RowCaptures k p ws new) (old : List Capture)
    (hold : ∀ c ∈ old, c.index < k) (hm : m.captures = new ++ old) : m.HasGroups k p ws := by
  induction h generalizing old with
  | nil => trivial
  | @present k p w ws new h ih =>
    have hlater : ∀ c ∈ new, ¬ (c.index == k) = true := fun c hc => by
      have := h.le c hc
      simp
      omega
    refine ⟨.inl ?_, ih (⟨k, p, p + w.size⟩ :: old) ?_ (by simpa using hm)⟩
    · rw [group?, hm, List.append_assoc, List.find?_append, List.find?_eq_none.mpr hlater]
      simp
    · intro c hc
      rcases List.mem_cons.mp hc with rfl | hc
      · exact Nat.lt_succ_self _
      · exact Nat.lt_succ_of_lt (hold c hc)
  | @absent k p ws new h ih =>
    refine ⟨.inr ⟨rfl, ?_⟩, ?_⟩
    · have hother : ∀ c ∈ new ++ old, ¬ (c.index == k) = true := fun c hc => by
        rcases List.mem_append.mp hc with hc | hc
        · have := h.le c hc
          simp
          omega
        · have := hold c hc
          simp
          omega
      rw [group?, hm, List.find?_eq_none.mpr hother]
      rfl
    · exact ih old (fun c hc => Nat.lt_succ_of_lt (hold c hc)) hm

/-- What a row finds: a text for each part, one after another, and their extents as groups. -/
theorem Pattern.Row.exists_of_find {p : Pattern} {ps : List Pattern} (h : Row 1 p ps) {t : Text}
    {m : Match} (hm : p.tied.find t = some m) :
    ∃ ws, List.Forall₂ Takes ps ws ∧ t = ws.flatten ++ m.rest ∧ m.HasGroups 1 0 ws := by
  obtain ⟨e, he, rfl⟩ := exists_mem_run_of_find hm
  obtain ⟨ws, new, htakes, hreads, hcaptures, hnew⟩ := h.exists_cut he
  exact ⟨ws, htakes, hreads.rest, Match.hasGroups_of_rowCaptures hnew [] (by simp) hcaptures⟩

/-- What a row finds, with a view of how its first part is read. -/
theorem Pattern.Row.exists_of_first {p r : Pattern} {ps : List Pattern}
    (h : Row 1 (.seq (.group 1 p) r) (p :: ps)) {t : Text} {m : Match}
    (hm : (Pattern.seq (.group 1 p) r).tied.find t = some m) :
    ∃ u ws b e, b ∈ p.run (Place.start t) ∧ (Place.start t).Reads u b ∧
      e ∈ r.run (b.capture 1 0) ∧ List.Forall₂ Takes ps ws ∧
      t = u ++ (ws.flatten ++ m.rest) ∧ m.HasGroups 1 0 (u :: ws) := by
  obtain ⟨e, he, rfl⟩ := exists_mem_run_of_find hm
  obtain ⟨_, hgroup, he⟩ := List.mem_flatMap.mp he
  obtain ⟨b, hb, rfl⟩ := List.mem_map.mp hgroup
  obtain ⟨u, hu, -⟩ := p.exists_reads _ b hb
  cases h with | cons hp hr =>
  obtain ⟨ws, new, htakes, hreads, hcaptures, hnew⟩ := hr.exists_cut he
  have hoffset : (b.capture 1 (Place.start t).offset).offset = 0 + u.size := hu.offset
  rw [hoffset] at hnew
  have hgroups := RowCaptures.present (w := u) hnew
  refine ⟨u, ws, b, e, hb, hu, he, htakes, ?_,
    Match.hasGroups_of_rowCaptures hgroups [] (by simp) ?_⟩
  · have htext : t = u ++ b.rest := hu.rest
    have hafter : b.rest = ws.flatten ++ e.rest := hreads.rest
    rw [htext, hafter]
  · show e.captures = _
    rw [hcaptures]
    simp only [Place.capture, hp.captures_eq hb, hu.offset, List.append_nil, Place.start]

/-! ## Tokens of a row -/

/-- A row of groups gives a token for each text that is not empty, and nothing in between. -/
theorem groupTokens_of_hasGroups {m : Match} (base : Nat) : ∀ {categories : List Category}
    {ws : List Text} {k p : Nat}, categories.length = ws.length → m.HasGroups (k + 1) p ws →
      groupTokens base ((categories.zipIdx k).map fun (c, i) => (c, m.group? (i + 1))) p
          ws.flatten =
        Token.row (base + p) ((categories.zip ws).filter (·.2 ≠ []))
  | [], [], _, _, _, _ => rfl
  | c :: categories, w :: ws, k, p, hlength, hgroups => by
    have ih := groupTokens_of_hasGroups base (k := k + 1) (p := p + w.size)
      (Nat.succ.inj hlength) hgroups.2
    have hwhole : ∀ t : Text, t.dropBytes 0 = t := fun t => Text.dropBytes_size_append [] t
    rw [List.zipIdx_cons, List.map_cons, List.zip_cons_cons, List.flatten_cons]
    by_cases hw : w = []
    · subst hw
      rw [List.filter_cons_of_neg (by simp)]
      rcases hgroups.1 with hgroup | ⟨-, hgroup⟩
      · simp only [hgroup]
        rw [groupTokens, if_pos (by simp)]
        exact ih
      · simp only [hgroup]
        rw [groupTokens]
        exact ih
    · have hpos : 0 < w.size := Text.size_pos hw
      have hgroup : m.group? (k + 1) = some (p, p + w.size) :=
        hgroups.1.resolve_right fun h => hw h.1
      simp only [hgroup]
      rw [groupTokens, if_neg (by simp; omega), List.filter_cons_of_pos (by simpa using hw),
        Token.row]
      simp only [Nat.sub_self, hwhole, Nat.add_sub_cancel_left, Text.takeBytes_size_append,
        Text.dropBytes_size_append, Nat.lt_irrefl, if_false, List.nil_append]
      rw [ih, Nat.add_assoc]

/-- A rule with a category for each group of its match makes a token of each text that is not
empty. -/
theorem Action.tokens_of_groups {categories : List Category} {m : Match} {ws : List Text}
    (hm : m.HasGroups 1 0 ws) (hlength : categories.length = ws.length) (base : Nat) :
    (Action.groups categories).tokens base ws.flatten m =
      Token.row base ((categories.zip ws).filter (·.2 ≠ [])) :=
  groupTokens_of_hasGroups base (k := 0) hlength hm

/-! ## Forms of rules -/

/-- A rule makes one token of its match, or one of every group that is not empty. -/
inductive BuiltRule.Form : BuiltRule → Prop where
  | token {p : Pattern} {lineStart : Bool} {q : Option Pattern} {category : Category}
      {t : Transition} : p.consumes = true → Form ⟨p.tied, lineStart, q, .token category, t⟩
  | row {p : Pattern} {ps : List Pattern} {lineStart : Bool} {q : Option Pattern}
      {categories : List Category} {t : Transition} : p.consumes = true → p.Row 1 ps →
      categories.length = ps.length → Form ⟨p.tied, lineStart, q, .groups categories, t⟩

/-- The match of a rule that has a form is not empty. -/
theorem BuiltRule.Form.isEmpty_eq {rule : BuiltRule} (h : rule.Form) {t : Text} {m : Match}
    (hm : rule.pattern.find t = some m) : m.isEmpty = false := by
  have htied : ∀ {p : Pattern}, p.consumes = true → p.tied.consumes = true := fun hp => by
    simp [Pattern.tied, Pattern.consumes, hp]
  cases h with
  | token hp => exact Pattern.isEmpty_of_find (htied hp) hm
  | row hp _ _ => exact Pattern.isEmpty_of_find (htied hp) hm

/-- A rule that has a form fires where its pattern has a match and its lookahead holds. -/
theorem BuiltRule.Form.fires?_of_find {rule : BuiltRule} (h : rule.Form) {t : Text} {m : Match}
    (hm : rule.pattern.find t = some m)
    (hlook : ∀ q ∈ rule.followedBy, q.matches m.rest = true) : rule.fires? true t = some m :=
  BuiltRule.fires?_eq_some_iff.mpr ⟨fun _ => rfl, hm, h.isEmpty_eq hm, hlook⟩

/-- A rule of a form without a lookahead fires where its pattern has a match. -/
theorem BuiltRule.Form.fires?_alone {rule : BuiltRule} (h : rule.Form) {t : Text} {m : Match}
    (hm : rule.pattern.find t = some m) (halone : rule.followedBy = none) :
    rule.fires? true t = some m :=
  h.fires?_of_find hm (by simp [halone])

/-! ## Rows of pdfile -/

namespace Pdfile

open Pattern

section Entries

variable (entry : String × List String)

/-- A directive, one of its fields and a value, with blanks between. -/
theorem row_fieldValue :
    (fieldValue entry).Row 1 [.literal entry.1, .blanks, .words entry.2, .blanks, .argument] := by
  refine .groupsThen [.literal entry.1, .blanks, .words entry.2, .blanks] ?_
    (.last groupless_argument)
  simp only [List.forall_mem_cons]
  exact ⟨groupless_literal entry.1, groupless_blanks, groupless_words entry.2, groupless_blanks,
    by simp⟩

theorem row_fieldOnly :
    (fieldOnly entry).Row 1 [.literal entry.1, .blanks, .words entry.2,
      .opt (.seq (.many true .beforeComment) (.one .solid))] := by
  refine .groupsThen [.literal entry.1, .blanks, .words entry.2] ?_
    (.optional fun _ => rfl)
  simp only [List.forall_mem_cons]
  exact ⟨groupless_literal entry.1, groupless_blanks, groupless_words entry.2, by simp⟩

theorem row_anyValue : (anyValue entry).Row 1 [.literal entry.1, .blanks, .argument] := by
  refine .groupsThen [.literal entry.1, .blanks] ?_ (.last groupless_argument)
  simp only [List.forall_mem_cons]
  exact ⟨groupless_literal entry.1, groupless_blanks, by simp⟩

theorem row_wordValue : (wordValue entry).Row 1 [.literal entry.1, .blanks, .words entry.2] := by
  refine .groupsThen [.literal entry.1, .blanks] ?_ (.last (groupless_words entry.2))
  simp only [List.forall_mem_cons]
  exact ⟨groupless_literal entry.1, groupless_blanks, by simp⟩

end Entries

/-- A directive with a shell command. -/
def shellDirective : Pattern :=
  .alt (.seq (.opt (.wordThen true "ONBUILD".toList .blanks)) (.literal onbuildDirective))
    (.words immediateDirectives)

theorem groupless_shellDirective : shellDirective.Groupless := by
  intro i
  have hdeferrer : (Pattern.wordThen true "ONBUILD".toList .blanks).opens i = false :=
    groupless_wordThen groupless_blanks _ i
  simp only [shellDirective, opens, opt, hdeferrer, groupless_literal onbuildDirective i,
    groupless_words immediateDirectives i, Bool.or_self]

theorem row_shellStart : shellStart.Row 1 [shellDirective, .blanks] :=
  .cons groupless_shellDirective (.last groupless_blanks)

/-- An origin, the separator and a name, with blanks between. -/
theorem row_fromAs : fromAs.Row 1
    [.literal "FROM", .blanks, .argument, .blanks, .literal "AS", .blanks, .argument] := by
  refine .groupsThen [.literal "FROM", .blanks, .argument, .blanks, .literal "AS", .blanks]
    ?_ (.last groupless_argument)
  simp only [List.forall_mem_cons]
  exact ⟨groupless_literal "FROM", groupless_blanks, groupless_argument, groupless_blanks,
    groupless_literal "AS", groupless_blanks, by simp⟩

theorem row_attributeStart : attributeStart.Row 1 [.literal attributeDirective, .blanks] :=
  .cons (groupless_literal attributeDirective) (.last groupless_blanks)

theorem row_listStart : listStart.Row 1 [.words listDirectives, .blanks] :=
  .cons (groupless_words listDirectives) (.last groupless_blanks)

/-- Any directive, with what follows it in the line. -/
theorem row_anyDirective :
    anyDirective.Row 1 [.words keywords, .many true .inlineBlank, .opt .argument] :=
  .cons (groupless_words keywords) (.check (.cons (fun _ => rfl) (.optional groupless_argument)))

/-- A key, the sign and a value. -/
theorem row_pair : pair.Row 1 [.plus .keyChar, .one (.only '='), .plus .valueChar] :=
  .cons (fun _ => rfl) (.cons (fun _ => rfl) (.last fun _ => rfl))

theorem row_pairThenSeparator : pairThenSeparator.Row 1
    [.plus .keyChar, .one (.only '='), .plus .valueChar, .one (.only ';')] :=
  .cons (fun _ => rfl) (.cons (fun _ => rfl) (.cons (fun _ => rfl) (.last fun _ => rfl)))

theorem row_itemThenSeparator :
    itemThenSeparator.Row 1 [.plus .itemChar, .one (.only ',')] :=
  .cons (fun _ => rfl) (.last fun _ => rfl)

/-- A rule of a directive with fields is a row, whatever the fields are. -/
theorem form_of_mem_fieldTable (entry : String × List String) :
    ∀ rule ∈ fieldTable entry, rule.Form := by
  simp only [fieldTable, List.forall_mem_cons]
  refine ⟨.row (consumes_groupsThen ?_) (row_fieldValue entry) rfl,
    .row (consumes_groupsThen ?_) (row_fieldOnly entry) rfl,
    .row (consumes_groupsThen ?_) (row_anyValue entry) rfl, by simp⟩
  · exact .inl rfl
  · exact .inr ⟨.blanks, by simp, rfl⟩
  · exact .inl rfl

theorem form_of_mem_valueTable (entry : String × List String) :
    ∀ rule ∈ valueTable entry, rule.Form := by
  simp only [valueTable, List.forall_mem_cons]
  exact ⟨.row (consumes_groupsThen (.inr ⟨.blanks, by simp, rfl⟩)) (row_wordValue entry) rfl,
    .row (consumes_groupsThen (.inl rfl)) (row_anyValue entry) rfl, by simp⟩

theorem consumes_anyDirective : anyDirective.consumes = true := by
  simp [anyDirective, Pattern.consumes, consumes_words plainWords_keywords]

/-- A rule for the start of a line is a row or makes one token. -/
theorem form_of_mem_rootTable : ∀ rule ∈ rootTable, rule.Form := by
  simp only [rootTable, List.forall_mem_append]
  refine ⟨⟨⟨⟨?_, ?_⟩, ?_⟩, ?_⟩, ?_⟩
  · simp only [blankTable, List.forall_mem_cons]
    exact ⟨.token rfl, .token rfl, by simp⟩
  · simp only [leadTable, List.forall_mem_cons]
    exact ⟨.row (consumes_groupsThen (.inl rfl)) row_shellStart rfl,
      .row (consumes_groupsThen (.inl rfl)) row_fromAs rfl,
      .row (consumes_groupsThen (.inl rfl)) row_attributeStart rfl, by simp⟩
  · intro rule hrule
    obtain ⟨entry, -, hrule⟩ := List.mem_flatMap.mp hrule
    exact form_of_mem_fieldTable entry rule hrule
  · intro rule hrule
    obtain ⟨entry, -, hrule⟩ := List.mem_flatMap.mp hrule
    exact form_of_mem_valueTable entry rule hrule
  · simp only [lastTable, List.forall_mem_cons]
    exact ⟨.row (consumes_groupsThen (.inl rfl)) row_listStart rfl,
      .row consumes_anyDirective row_anyDirective rfl, .token rfl, .token rfl, by simp⟩

theorem form_of_mem_providerAttributeTable : ∀ rule ∈ providerAttributeTable, rule.Form := by
  simp only [providerAttributeTable, List.forall_mem_cons]
  exact ⟨.token rfl, .token rfl, .token rfl, .row rfl row_pairThenSeparator rfl,
    .row rfl row_pair rfl, .token rfl, by simp⟩

theorem form_of_mem_commaListTable : ∀ rule ∈ commaListTable, rule.Form := by
  simp only [commaListTable, List.forall_mem_cons]
  exact ⟨.token rfl, .token rfl, .token rfl, .row rfl row_itemThenSeparator rfl, .token rfl,
    .token rfl, by simp⟩

theorem form_of_mem_shellCommandTable : ∀ rule ∈ shellCommandTable, rule.Form := by
  simp only [shellCommandTable, List.forall_mem_cons]
  exact ⟨.token rfl, .token rfl, .token rfl, .token rfl, .token rfl, by simp⟩

end Pdfile

/-! ## Rows of prldevops -/

namespace Prldevops

open Pattern

theorem row_bareCommand : bareCommand.Row 1 [.literal program, .blanks, .words subcommands] :=
  .cons (groupless_literal program) (.cons groupless_blanks (.last (groupless_words subcommands)))

theorem row_commandWithArguments :
    commandWithArguments.Row 1 [.literal program, .blanks, .words subcommands, .blanks] :=
  .cons (groupless_literal program) (.cons groupless_blanks
    (.cons (groupless_words subcommands) (.last groupless_blanks)))

theorem form_of_mem_rootTable : ∀ rule ∈ rootTable, rule.Form := by
  simp only [rootTable, List.forall_mem_cons]
  exact ⟨.token rfl, .row (consumes_groupsThen (.inl rfl)) row_commandWithArguments rfl,
    .row (consumes_groupsThen (.inr ⟨.blanks, by simp, rfl⟩)) row_bareCommand rfl,
    .token (consumes_wordThen (by decide) _), .token rfl, .token rfl, .token rfl, by simp⟩

theorem form_of_mem_commandBodyTable : ∀ rule ∈ commandBodyTable, rule.Form := by
  simp only [commandBodyTable, List.forall_mem_cons]
  exact ⟨.token rfl, .token rfl, .token rfl, by simp⟩

end Prldevops

/-- Every rule of a language has a form. -/
theorem Language.form_of_mem (l : Language) (state : String) :
    ∀ rule ∈ l.grammar.rulesOf state, rule.Form := by
  refine l.grammar.forall_mem_rulesOf ?_ state
  cases l with
  | pdfile =>
    rw [grammar, pdfileGrammar_eq]
    simp only [Pdfile.table, List.forall_mem_cons]
    exact ⟨Pdfile.form_of_mem_rootTable, Pdfile.form_of_mem_providerAttributeTable,
      Pdfile.form_of_mem_commaListTable, Pdfile.form_of_mem_shellCommandTable, by simp⟩
  | prldevops =>
    rw [grammar, prldevopsGrammar_eq]
    simp only [Prldevops.table, List.forall_mem_cons]
    exact ⟨Prldevops.form_of_mem_rootTable, Prldevops.form_of_mem_commandBodyTable, by simp⟩

end Highlighter
