import Highlighter.Proofs.Grammar.Defects
import Highlighter.Proofs.Regex.Enclosing
import Highlighter.Proofs.Regex.Reading
import Highlighter.Proofs.Scan.Run

/-!
# Anchoring

A pattern text is put between `\A(?:` and `)` before it is read, so the tie to the start of
the text is the first thing in what is read.  A text with a `)` that closes no group of its
own ends the group it is put in.  If a `|` then follows, the tie holds of the first branch
only, and the text *breaks out*.

* Whatever text is accepted, it is read as an expression that is tied to the start, or as
  a choice (`Regex.tied_or_alt_of_read?`).  In reading, `Level.Tied` holds of every level
  that the tie opens.
* A text that is a regular expression by itself never breaks out.  It is read as that
  expression behind the tie (`Regex.eq_of_read?`).

`Rule.anchors_of_build` says what follows for a rule, whatever the limits of the compiler: a
pattern that does not break out matches at the start only, and a lookahead that does not
break out holds right after the match.  `Rule.exists_match_later` is a pattern that breaks
out.
-/

namespace Highlighter

namespace Regex

/-! ## Levels whose first sequence is tied -/

/-- A level that the tie to the start of the text opens: either the sequence that it starts
goes on, with something after the tie, or a `|` ended it. -/
def Level.Tied (level : Level) : Prop :=
  level.before ≠ [] ∨
    ∃ front r, level.parts = front ++ [some r, some (.check .textStart)]

namespace Level.Tied

variable {level level' : Level}

theorem add (h : level.Tied) (r : Regex) : (level.add r).Tied := by
  obtain h | ⟨front, first, hparts⟩ := h
  · exact .inl h
  · exact .inr ⟨some r :: front, first, by rw [Level.add, hparts]; rfl⟩

theorem flags (h : level.Tied) : Level.Tied { level with parts := none :: level.parts } := by
  obtain h | ⟨front, first, hparts⟩ := h
  · exact .inl h
  · exact .inr ⟨none :: front, first, by rw [hparts]; rfl⟩

theorem repeatLast? (h : level.Tied) {f : Regex → Regex}
    (hlast : level.repeatLast? f = some level') : level'.Tied := by
  rw [Level.repeatLast?] at hlast
  split at hlast
  · next last rest hlevel =>
    cases hlast
    obtain h | ⟨front, first, hparts⟩ := h
    · exact .inl h
    · rw [hlevel] at hparts
      -- The tie itself is never repeated: something stands after it.
      cases front with
      | nil =>
        cases hparts
        exact .inr ⟨[], f last, rfl⟩
      | cons part front =>
        cases hparts
        exact .inr ⟨some (f last) :: front, first, rfl⟩
  · cases hlast

theorem bar (level : Level) : level.bar.Tied := .inl (by simp [Level.bar])

/-- What such a level closes to is tied, or it is a choice. -/
theorem close (h : level.Tied) :
    (∃ r, level.close = .seq (.check .textStart) r) ∨ ∃ r s, level.close = .alt r s := by
  cases hbefore : level.before.reverse with
  | nil =>
    obtain h | ⟨front, r, hparts⟩ := h
    · exact (h (List.reverse_eq_nil_iff.mp hbefore)).elim
    · left
      simp only [Level.close, Level.current, hbefore, hparts, List.reverse_append]
      exact ⟨_, rfl⟩
  | cons s more =>
    right
    rw [Level.close, hbefore]
    cases more with
    | nil => exact ⟨_, _, rfl⟩
    | cons s' more => exact ⟨_, _, rfl⟩

end Level.Tied

/-- A level that the tie opens is closed as such a level. -/
theorem readLevel_tied : ∀ (fuel : Nat) {level : Level} {st st' : Reading} {r : Regex},
    level.Tied → readLevel fuel level st = some (r, st') →
      ∃ level' : Level, level'.Tied ∧ r = level'.close := by
  intro fuel
  induction fuel with
  | zero =>
    intro level st st' r h hread
    cases hread
  | succ fuel ih =>
    intro level st st' r h hread
    rw [readLevel] at hread
    simp only [] at hread
    -- In turn: the end of the text, `)`, `|`, `(`, three signs of repetition, bounds, and a part.
    split at hread
    · cases hread
      exact ⟨level, h, rfl⟩
    · cases hread
      exact ⟨level, h, rfl⟩
    · exact ih (.bar level) hread
    · split at hread
      · cases hread
      · exact ih h.flags hread
      · split at hread
        · exact ih (h.add _) hread
        · cases hread
      · split at hread
        · exact ih (h.add _) hread
        · cases hread
      · split at hread
        · cases hread
        · split at hread
          · exact ih (h.add _) hread
          · cases hread
    · split at hread
      · cases hread
      · exact ih (h.repeatLast? ‹_›) hread
    · split at hread
      · cases hread
      · exact ih (h.repeatLast? ‹_›) hread
    · split at hread
      · cases hread
      · exact ih (h.repeatLast? ‹_›) hread
    · split at hread
      · cases hread
      · split at hread
        · cases hread
        · exact ih (h.repeatLast? ‹_›) hread
    · split at hread
      · cases hread
      · exact ih (h.add _) hread

/-! ## The text around a pattern -/

/-- A group that is not captured is read up to the parenthesis that closes it. -/
theorem exists_of_readLevel_scope {b : Bool} {fuel groups : Nat} {level : Level}
    {names : List Text} {t : Text} {r : Regex} {st : Reading}
    (h : readLevel (fuel + 1) level ⟨'(' :: '?' :: ':' :: t, ruleFlags b, groups, names⟩ =
      some (r, st)) :
    ∃ body rest flags groups' names',
      readLevel fuel ⟨[], []⟩ ⟨t, ruleFlags b, groups, names⟩ =
        some (body, ⟨')' :: rest, flags, groups', names'⟩) ∧
      readLevel fuel (level.add (.scope body)) ⟨rest, ruleFlags b, groups', names'⟩ =
        some (r, st) := by
  have hopen : readOpening (ruleFlags b) ('?' :: ':' :: t) = some (.scope (ruleFlags b), t) := rfl
  rw [readLevel] at h
  simp only [gap, ruleFlags, Bool.false_eq_true, if_false] at h hopen ⊢
  simp only [hopen, Option.getD_none] at h
  split at h
  · next body rest flags' groups' names' hbody =>
    exact ⟨body, rest, flags', groups', names', hbody, h⟩
  · cases h

/-- An accepted pattern text is read inside the group it is put in, and what it leaves after
closing that group is read beside it. -/
theorem exists_of_read? {b : Bool} {t : Text} {s : Regex}
    (h : read? (ruleFlags b) (tiedText t) = some s) :
    ∃ body rest flags groups names st,
      readLevel (t.length + 5) ⟨[], []⟩ ⟨t ++ [')'], ruleFlags b, 0, []⟩ =
        some (body, ⟨')' :: rest, flags, groups, names⟩) ∧
      readLevel (t.length + 5) ((Level.add ⟨[], []⟩ (.check .textStart)).add (.scope body))
        ⟨rest, ruleFlags b, groups, names⟩ = some (s, st) := by
  have htext : tiedText t = '\\' :: 'A' :: '(' :: '?' :: ':' :: (t ++ [')']) := rfl
  have hlength : ('\\' :: 'A' :: '(' :: '?' :: ':' :: (t ++ [')'])).length + 1 =
      t.length + 5 + 1 + 1 := by simp
  have hpart (u : Text) : readPart (ruleFlags b) ('\\' :: 'A' :: u) =
      some (.check .textStart, u) := rfl
  rw [htext, read?, hlength, readLevel_part (by decide) (hpart _)] at h
  split at h
  · next r flags groups names hread =>
    cases h
    obtain ⟨body, rest, flags, groups, names, hbody, hafter⟩ := exists_of_readLevel_scope hread
    exact ⟨body, rest, flags, groups, names, _, hbody, hafter⟩
  · cases h

/-- What an accepted pattern text is read as is tied to the start, or it is a choice. -/
theorem tied_or_alt_of_read? {b : Bool} {t : Text} {s : Regex}
    (h : read? (ruleFlags b) (tiedText t) = some s) :
    (∃ r, s = .seq (.check .textStart) r) ∨ ∃ r r', s = .alt r r' := by
  obtain ⟨body, rest, flags, groups, names, st, -, hread⟩ := exists_of_read? h
  obtain ⟨level, hlevel, rfl⟩ := readLevel_tied _ (.inr ⟨[], .scope body, rfl⟩) hread
  exact hlevel.close

/-- A text that is a regular expression by itself is accepted as that expression, tied to the
start. -/
theorem eq_of_read? {b : Bool} {t : Text} {r s : Regex} (hr : read? (ruleFlags b) t = some r)
    (hs : read? (ruleFlags b) (tiedText t) = some s) : s = .seq (.check .textStart) (.scope r) := by
  obtain ⟨body, rest, flags, groups, names, st, hbody, hread⟩ := exists_of_read? hs
  rw [read?] at hr
  split at hr
  · next r' flags' groups' names' halone =>
    cases hr
    obtain ⟨rest', henclosed, hrest⟩ := readLevel_enclosed (t.length + 1) (t.length + 5)
      (by omega) ⟨[], []⟩ (.paren t) halone
    rw [hbody] at henclosed
    cases henclosed
    cases hrest
    rw [readLevel_nil] at hread
    cases hread
    rfl
  · cases hr

end Regex

/-! ## Rules -/

/-- Whether a pattern text ends the group it is put in and goes on with a choice. -/
def breaksOut (ignoreCase : Bool) (t : Text) : Bool :=
  match Regex.read? (Regex.ruleFlags ignoreCase) (Regex.tiedText t) with
  | some (.alt ..) => true
  | _ => false

/-- How a built pattern is tied to the start of what it is matched against. -/
structure Pattern.Anchors (p : Pattern) (ignoreCase : Bool) (t : Text) : Prop where
  /-- Unless the text breaks out, there is no match further on. -/
  start : breaksOut ignoreCase t = false → ∀ u m, p.find u = some m → m.start = 0
  /-- A text that is a regular expression by itself does not break out, and the match is
  the one that this expression has at the start. -/
  alone : ∀ r, Regex.read? (Regex.ruleFlags ignoreCase) t = some r →
    breaksOut ignoreCase t = false ∧ ∀ u, p.find u = r.toPattern.matchAt (Place.start u)

theorem Pattern.anchors_of_tied {limits : Regex.Limits} {ignoreCase : Bool} {t : Text}
    {regex : Regex} (h : (Regex.Compiler.within limits).tied ignoreCase t = .ok regex) :
    regex.toPattern.Anchors ignoreCase t := by
  obtain ⟨hread, -⟩ := Regex.Compiler.within_eq_ok_iff.mp h
  constructor
  case start =>
    intro hbreak u m hfind
    obtain ⟨r, rfl⟩ | ⟨r, s, rfl⟩ := Regex.tied_or_alt_of_read? hread
    · have htied : (Regex.seq (.check .textStart) r).toPattern = r.toPattern.tied := rfl
      rw [htied, Pattern.find_tied] at hfind
      obtain ⟨e, -, rfl⟩ := Option.map_eq_some_iff.mp hfind
      rfl
    · simp [breaksOut, hread] at hbreak
  case alone =>
    intro r hr
    obtain rfl := Regex.eq_of_read? hr hread
    exact ⟨by simp [breaksOut, hread], fun u => Pattern.find_tied r.toPattern u⟩

/-- What a rule that fires has matched is a text that the remaining text starts with. -/
structure Match.IsPrefix (m : Match) (rest : Text) : Prop where
  start : m.start = 0
  text : ∃ u : Text, u ≠ [] ∧ rest = u ++ m.rest ∧ m.stop = u.size

/-- The patterns of a rule are tied to the start, unless their texts break out.  So what the rule
fires on is a prefix of the remaining text, and its lookahead holds right after that prefix. -/
theorem Rule.anchors_of_build {limits : Regex.Limits} {rule : Rule} {state : String}
    {declared : String → Bool} {built : BuiltRule}
    (h : rule.build (.within limits) state declared = .ok built) :
    built.pattern.Anchors rule.ignoreCase rule.pattern ∧
      Option.Rel (fun t q => q.Anchors rule.ignoreCase t) rule.followedBy built.followedBy ∧
      ∀ lineStart rest m, built.fires? lineStart rest = some m →
        (breaksOut rule.ignoreCase rule.pattern = false → m.IsPrefix rest) ∧
          ∀ t ∈ rule.followedBy, breaksOut rule.ignoreCase t = false →
            ∃ q ∈ built.followedBy, ∃ l, q.find m.rest = some l ∧ l.start = 0 := by
  obtain ⟨e, he, -⟩ | ⟨built', hbuilt', hbuilds, -⟩ :=
    rule.build_cases (.within limits) state declared
  · cases h.symm.trans he
  cases h.symm.trans hbuilt'
  obtain ⟨regex, hregex, hpattern⟩ := hbuilds.pattern
  have hanchors : built.pattern.Anchors rule.ignoreCase rule.pattern := by
    rw [hpattern]
    exact Pattern.anchors_of_tied hregex
  have hlook : Option.Rel (fun t q => q.Anchors rule.ignoreCase t) rule.followedBy
      built.followedBy := by
    have hrel := hbuilds.followedBy
    generalize rule.followedBy = t, built.followedBy = q at hrel
    cases hrel with
    | none => exact .none
    | some hq =>
      obtain ⟨r, hr, rfl⟩ := hq
      exact .some (Pattern.anchors_of_tied hr)
  refine ⟨hanchors, hlook, ?_⟩
  intro lineStart rest m hfires
  obtain ⟨-, hfind, -, hlookahead⟩ := BuiltRule.fires?_eq_some_iff.mp hfires
  refine ⟨?_, ?_⟩
  · intro hbreak
    obtain ⟨u, hne, hrest, hstop, -⟩ := BuiltRule.fires?_spans hfires
    exact ⟨hanchors.start hbreak rest m hfind, u, hne, hrest, hstop⟩
  · intro t ht hbreak
    rw [Option.mem_def.mp ht] at hlook
    generalize hq : built.followedBy = followedBy at hlook
    cases hlook with
    | some hanchors =>
    rename_i q
    have hmatches := hlookahead q hq
    obtain ⟨l, hl⟩ := Option.isSome_iff_exists.mp hmatches
    exact ⟨q, rfl, l, hl, hanchors.start hbreak m.rest l hl⟩

/-- A word at the end of a line: the match is a prefix, and the line ends right after it. -/
theorem Rule.anchors_of_build_word :
    ∃ built,
      (⟨"[a-z]+".toList, false, false, some "$".toList, .token .keyword, .stay⟩ : Rule).build
        .standard "root" (fun _ => false) = .ok built ∧
      ∃ m, built.fires? true ['a', 'b', '\n'] = some m ∧ m.IsPrefix ['a', 'b', '\n'] ∧
        ∃ q ∈ built.followedBy, ∃ l, q.find m.rest = some l ∧ l.start = 0 := by
  obtain ⟨built, hbuild, m, hm⟩ : ∃ built,
      (⟨"[a-z]+".toList, false, false, some "$".toList, .token .keyword, .stay⟩ : Rule).build
        .standard "root" (fun _ => false) = .ok built ∧
        ∃ m, built.fires? true ['a', 'b', '\n'] = some m :=
    ⟨_, rfl, _, rfl⟩
  obtain ⟨-, -, hfires⟩ := anchors_of_build hbuild
  obtain ⟨hstarts, hlook⟩ := hfires true ['a', 'b', '\n'] m hm
  have hbreak : breaksOut false "[a-z]+".toList = false := by decide +kernel
  have hbreak' : breaksOut false "$".toList = false := by decide +kernel
  exact ⟨built, hbuild, m, hm, hstarts hbreak, hlook "$".toList rfl hbreak'⟩

/-- A pattern that breaks out: the second branch is found after a character that nothing has
read, and the rule fires on both. -/
theorem Rule.exists_match_later :
    ∃ built,
      (⟨"a)|(?:b".toList, false, false, none, .token .keyword, .stay⟩ : Rule).build .standard
        "root" (fun _ => false) = .ok built ∧
      ∃ m, built.pattern.find ['x', 'b'] = some m ∧ m.start = 1 ∧ m.stop = 2 ∧
        built.fires? true ['x', 'b'] = some m :=
  ⟨_, rfl, _, rfl, rfl, rfl, rfl⟩

end Highlighter
