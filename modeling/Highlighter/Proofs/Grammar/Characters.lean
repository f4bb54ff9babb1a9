import Highlighter.Proofs.Grammar.Parts
import Highlighter.Proofs.Pattern.Locality

/-!
# The characters that patterns read

Most patterns of the built-in grammars stay inside a line and before a comment: they
accept neither `\n` nor `#`.  `Pattern.Inside` says this of a pattern, and that no
test in it tells the `\n` of a line end from a `\r`.  It is closed under all ways in
which the patterns are put together, and holds of plain words without a look at
them.

A pattern is `OneLine` when it also does not end with a `\r`.  Then a match in a line
is the same whether the line ends with `\n` or with `\r\n`.
-/

namespace Highlighter

/-! ## Characters outside words -/

/-- A character that no plain word has, in any case. -/
structure OutsideWords (c : Char) : Prop where
  /-- It has no other case. -/
  uncased : Unicode.caseVariants c = [c]
  /-- It is not a character of plain words. -/
  not_plain : (c.isAlpha || c == '_' || c == '-') = false

theorem outsideWords_newline : OutsideWords '\n' := ⟨rfl, rfl⟩

theorem outsideWords_return : OutsideWords '\r' := ⟨rfl, rfl⟩

theorem outsideWords_hash : OutsideWords '#' := ⟨rfl, rfl⟩

theorem outsideWords_space : OutsideWords ' ' := ⟨rfl, rfl⟩

namespace Pattern

section Words

variable {b : Bool} {c : Char}

/-- A character without another case is held by itself only, in either mode. -/
theorem letter_holds (hc : Unicode.caseVariants c = [c]) (d : Char) :
    (letter b d).holds c = (c == d) := by
  rw [letter]
  split
  · simp [CharSet.holds, hc]
  · rfl

/-- A word accepts no character that is not in it. -/
theorem accepts_word_eq_false (hc : Unicode.caseVariants c = [c]) :
    ∀ {w : Text}, c ∉ w → (word b w).accepts c = false
  | [], _ => rfl
  | [d], h => by
    rw [word, accepts, letter_holds hc]
    simpa using h
  | d :: e :: w, h => by
    rw [List.mem_cons, not_or] at h
    have hrest : word b (d :: e :: w) = .seq (.one (letter b d)) (word b (e :: w)) := rfl
    rw [hrest, accepts, accepts, letter_holds hc, accepts_word_eq_false hc h.2]
    simpa using h.1

/-- A word in front adds to what a pattern accepts only its own characters. -/
theorem accepts_wordThen (hc : Unicode.caseVariants c = [c]) {w : Text} (h : c ∉ w)
    (p : Pattern) : (wordThen b w p).accepts c = p.accepts c := by
  induction w with
  | nil => rfl
  | cons d w ih =>
    rw [List.mem_cons, not_or] at h
    have hd : (c == d) = false := by simpa using h.1
    have hrest : wordThen b (d :: w) p = .seq (.one (letter b d)) (wordThen b w p) := rfl
    rw [hrest, accepts, accepts, letter_holds hc, hd, ih h.2, Bool.false_or]

theorem accepts_choice_eq_false {ps : List Pattern} (h : ∀ p ∈ ps, p.accepts c = false) :
    (choice ps).accepts c = false := by
  induction ps with
  | nil => rfl
  | cons p ps ih =>
    cases ps with
    | nil => exact h p (List.mem_cons_self ..)
    | cons q ps =>
      have hrest : choice (p :: q :: ps) = .alt p (choice (q :: ps)) := rfl
      rw [hrest, accepts, h p (List.mem_cons_self ..),
        ih fun r hr => h r (List.mem_cons_of_mem p hr)]
      rfl

theorem accepts_literal (hc : OutsideWords c) {s : String} (h : Text.Plain s.toList) :
    (literal s).accepts c = false :=
  accepts_word_eq_false hc.uncased (h.not_mem hc.not_plain)

/-- A choice between plain words accepts no character outside words. -/
theorem accepts_words (hc : OutsideWords c) {list : List String} (h : PlainWords list) :
    (words list).accepts c = false := by
  refine accepts_choice_eq_false fun p hp => ?_
  obtain ⟨w, hw, rfl⟩ := List.mem_map.mp hp
  obtain ⟨s, hs, rfl⟩ := List.mem_map.mp (Regex.mem_arrange.mp hw)
  exact accepts_literal hc (h.plain s hs)

end Words

/-! ## Tests -/

section Blind

variable {o o' : Option Char} {b : Bool}

theorem blind_word : ∀ w : Text, (word b w).Blind o o'
  | [] => trivial
  | [_] => trivial
  | _ :: d :: w => ⟨trivial, blind_word (d :: w)⟩

theorem blind_wordThen {p : Pattern} (h : p.Blind o o') : ∀ w : Text, (wordThen b w p).Blind o o'
  | [] => h
  | _ :: w => ⟨trivial, blind_wordThen h w⟩

theorem blind_choice : ∀ {ps : List Pattern}, (∀ p ∈ ps, p.Blind o o') → (choice ps).Blind o o'
  | [], _ => trivial
  | [p], h => h p (List.mem_cons_self ..)
  | p :: _ :: _, h => ⟨h p (List.mem_cons_self ..),
      blind_choice fun r hr => h r (List.mem_cons_of_mem p hr)⟩

/-- Words have no test. -/
theorem blind_words (list : List String) : (words list).Blind o o' := by
  refine blind_choice fun p hp => ?_
  obtain ⟨w, -, rfl⟩ := List.mem_map.mp hp
  exact blind_word w

end Blind

/-! ## Patterns inside a line -/

/-- A pattern that stays inside a line and before a comment. -/
structure Inside (p : Pattern) : Prop where
  /-- It does not accept a line end. -/
  newline : p.accepts '\n' = false
  /-- It does not accept the start of a comment. -/
  hash : p.accepts '#' = false
  /-- It has no test that tells the two kinds of line ends apart. -/
  blind : p.Blind (some '\n') (some '\r')

namespace Inside

variable {p q : Pattern} {s : CharSet}

theorem one (h : s.holds '\n' = false) (h' : s.holds '#' = false) : (Pattern.one s).Inside :=
  ⟨h, h', trivial⟩

theorem many (h : s.holds '\n' = false) (h' : s.holds '#' = false) :
    (Pattern.many true s).Inside :=
  ⟨h, h', trivial⟩

/-- A sequence stays inside the line if its halves do. -/
theorem seq (hp : p.Inside) (hq : q.Inside) : (Pattern.seq p q).Inside where
  newline := by rw [accepts, hp.newline, hq.newline]; rfl
  hash := by rw [accepts, hp.hash, hq.hash]; rfl
  blind := ⟨hp.blind, hq.blind⟩

theorem alt (hp : p.Inside) (hq : q.Inside) : (Pattern.alt p q).Inside where
  newline := by rw [accepts, hp.newline, hq.newline]; rfl
  hash := by rw [accepts, hp.hash, hq.hash]; rfl
  blind := ⟨hp.blind, hq.blind⟩

theorem empty : Pattern.empty.Inside := ⟨rfl, rfl, trivial⟩

theorem opt (hp : p.Inside) : p.opt.Inside := hp.alt empty

theorem plus (h : s.holds '\n' = false) (h' : s.holds '#' = false) : (Pattern.plus s).Inside :=
  (one h h').seq (many h h')

theorem group (hp : p.Inside) (k : Nat) : (Pattern.group k p).Inside :=
  ⟨hp.newline, hp.hash, hp.blind⟩

theorem loop (hp : p.Inside) : (Pattern.loop true p).Inside := ⟨hp.newline, hp.hash, hp.blind⟩

theorem groupsThen (hq : q.Inside) :
    ∀ {ps : List Pattern} {k : Nat}, (∀ p ∈ ps, p.Inside) → (Pattern.groupsThen k ps q).Inside
  | [], _, _ => hq
  | p :: _, k, h => ((h p (List.mem_cons_self ..)).group k).seq
      (groupsThen hq fun r hr => h r (List.mem_cons_of_mem p hr))

/-- A plain word stays inside a line. -/
theorem literal {s : String} (h : Text.Plain s.toList) : (Pattern.literal s).Inside :=
  ⟨accepts_literal outsideWords_newline h, accepts_literal outsideWords_hash h, blind_word _⟩

/-- So does a choice between plain words. -/
theorem words {list : List String} (h : PlainWords list) : (Pattern.words list).Inside :=
  ⟨accepts_words outsideWords_newline h, accepts_words outsideWords_hash h, blind_words list⟩

/-- A plain word in front keeps a pattern inside the line. -/
theorem wordThen {b : Bool} {w : Text} (h : Text.Plain w) (hp : p.Inside) :
    (Pattern.wordThen b w p).Inside where
  newline := by
    rw [accepts_wordThen outsideWords_newline.uncased
      (h.not_mem outsideWords_newline.not_plain)]
    exact hp.newline
  hash := by
    rw [accepts_wordThen outsideWords_hash.uncased (h.not_mem outsideWords_hash.not_plain)]
    exact hp.hash
  blind := blind_wordThen hp.blind w

theorem blanks : Pattern.blanks.Inside := plus rfl rfl

theorem argument : Pattern.argument.Inside :=
  (one rfl rfl).seq ((many rfl rfl).seq (one rfl rfl)).opt

/-- Neither kind of line end starts with a word character. -/
theorem wordEdge : (Pattern.check (.word .either .word)).Inside :=
  ⟨rfl, rfl, fun _ => rfl⟩

end Inside

/-! ## Ends of matches -/

/-- A pattern accepts what its matches end in. -/
theorem accepts_of_endsIn {c : Char} : ∀ {p : Pattern}, p.endsIn c = true → p.accepts c = true
  | .empty, h => h
  | .one _, h => h
  | .many _ _, h => h
  | .check _, h => h
  | .mark _, h => h
  | .group _ p, h => accepts_of_endsIn (p := p) h
  | .loop _ p, h => accepts_of_endsIn (p := p) h
  | .alt p q, h => by
    rcases Bool.or_eq_true_iff.mp h with h | h
    · simp [accepts, accepts_of_endsIn h]
    · simp [accepts, accepts_of_endsIn h]
  | .seq p q, h => by
    rcases Bool.or_eq_true_iff.mp h with h | h
    · simp [accepts, accepts_of_endsIn h]
    · simp [accepts, accepts_of_endsIn (Bool.and_eq_true_iff.mp h).2]

theorem endsIn_eq_false {c : Char} {p : Pattern} (h : p.accepts c = false) :
    p.endsIn c = false := by
  by_contra hends
  rw [accepts_of_endsIn (by simpa using hends)] at h
  exact Bool.noConfusion h

/-- A row ends in what its last part ends in, if that consumes. -/
theorem endsIn_groupsThen {c : Char} {k : Nat} {ps : List Pattern} {q : Pattern}
    (hq : q.consumes = true) (h : q.endsIn c = false) :
    (groupsThen k ps q).endsIn c = false := by
  induction ps generalizing k with
  | nil => exact h
  | cons p ps ih =>
    rw [groupsThen, endsIn, ih, consumes_groupsThen (Or.inl hq)]
    rfl

/-- A pattern whose matches are the same before either kind of line end. -/
structure OneLine (p : Pattern) : Prop where
  /-- It does not accept a line end. -/
  newline : p.accepts '\n' = false
  /-- It does not end with a `\r`. -/
  end_ : p.endsIn '\r' = false
  /-- It has no test that tells the two kinds of line ends apart. -/
  blind : p.Blind (some '\n') (some '\r')

/-- A pattern inside a line needs only its end looked at. -/
theorem Inside.oneLine {p : Pattern} (h : p.Inside) (hend : p.endsIn '\r' = false) : p.OneLine :=
  ⟨h.newline, hend, h.blind⟩

end Pattern

end Highlighter
