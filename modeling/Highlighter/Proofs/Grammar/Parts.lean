import Highlighter.Pdfile
import Highlighter.Prldevops
import Highlighter.Proofs.Grammar.Building

/-!
# The parts of the built-in patterns

The patterns of the built-in grammars are put together from few sets of characters
and from words.  Each set is named here, with the bracket or escape that means it,
and each part that several rules share is shown to mean a pattern.

Words are kept as lists of characters and never evaluated.  All that is used of
them is that they are *plain*: short, and made of letters, `_` and `-`.
-/

namespace Highlighter

/-! ## Sets -/

namespace CharSet

/-- `[ \t]`, where case is ignored. -/
def inlineBlank : CharSet := .anyCase (.union (.only ' ') (.only '\t'))

/-- `[ \t\r]`, where case is ignored. -/
def trailingBlank : CharSet := .anyCase (.union (.union (.only ' ') (.only '\t')) (.only '\r'))

/-- `[^#\n]`, where case is ignored. -/
def beforeComment : CharSet := .complement (.anyCase (.union (.only '#') (.only '\n')))

/-- `[^#\s]`, where case is ignored. -/
def solid : CharSet := .complement (.anyCase (.union (.only '#') .space))

/-- `[^\n]` and `.`. -/
def inLine : CharSet := .complement (.only '\n')

/-- `[^\w\s]`. -/
def sign : CharSet := .complement (.union .word .space)

/-- `[^\S\n]`. -/
def innerBlank : CharSet := .complement (.union (.complement .space) (.only '\n'))

/-- `[A-Z0-9_-]`, where case is ignored. -/
def keyChar : CharSet :=
  .anyCase (.union (.union (.union (.between 'A' 'Z') (.between '0' '9')) (.only '_')) (.only '-'))

/-- `[^;#\s]`, where case is ignored. -/
def valueChar : CharSet := .complement (.anyCase (.union (.union (.only ';') (.only '#')) .space))

/-- `[^,#\s]`. -/
def itemChar : CharSet := .complement (.union (.union (.only ',') (.only '#')) .space)

/-- `[^\s\\#]`. -/
def shellChar : CharSet := .complement (.union (.union .space (.only '\\')) (.only '#'))

/-- `[^\n\\]`. -/
def argumentChar : CharSet := .complement (.union (.only '\n') (.only '\\'))

end CharSet

namespace Regex

section Sets

variable {b : Bool} {t : Text} {s : CharSet}

/-- A bracketed set, which for the sets here is a list of items and no deeper. -/
theorem MeansSet.bracket {d : Nat} (hs : setStates s ≤ 5000) (hd : d ≤ 2)
    (h : ∀ rest, readBracket (ruleFlags b) (t ++ rest) = some (⟨s, d⟩, rest)) :
    MeansSet b ('[' :: t) s :=
  ⟨_, fun _ => ⟨readsPart_bracket h, .bracket hd hs⟩⟩

/-- A set that is read without brackets. -/
theorem MeansSet.one (hs : setStates s ≤ 5000) (h : ∀ k, ReadsPart b k k t (.one s)) :
    MeansSet b t s :=
  ⟨_, fun k => ⟨h k, .one hs⟩⟩

/-- A character that stands for itself. -/
theorem MeansSet.char {c : Char} (h : c ∉ metaChars) : MeansSet b [c] (Pattern.letter b c) := by
  refine .one (Nat.le_trans (setStates_letter_le b c) (by decide)) fun k => ?_
  have hread := readsPart_quote_singleton (b := b) (k := k) c
  have hquote : quote [c] = [c] := by simp [quote, h]
  rwa [hquote, literal_ruleFlags] at hread

theorem meansSet_hash : MeansSet b ['#'] (.only '#') :=
  .one (by decide) fun _ => readsPart_of_readPart (t := []) (by decide) fun _ => by cases b <;> rfl

theorem meansSet_space : MeansSet b ['\\', 's'] .space :=
  .one (by decide) fun _ => readsPart_escape (t := ['s']) rfl fun _ => rfl

/-- `\w`, in either mode. -/
theorem meansSet_word : MeansSet b ['\\', 'w'] .word :=
  .one (by decide) fun _ => readsPart_escape (t := ['w']) rfl fun _ => rfl

theorem meansSet_return : MeansSet b ['\\', 'r'] (.only '\r') :=
  .one (by decide) fun _ => readsPart_escape (t := ['r']) (e := .char '\r') (by cases b <;> rfl)
    fun _ => rfl

theorem meansSet_newline : MeansSet b ['\\', 'n'] (.only '\n') :=
  .one (by decide) fun _ => readsPart_escape (t := ['n']) (e := .char '\n') (by cases b <;> rfl)
    fun _ => rfl

theorem meansSet_backslash : MeansSet b ['\\', '\\'] (.only '\\') :=
  .one (by decide) fun _ => readsPart_escape (t := ['\\']) (e := .char '\\') (by cases b <;> rfl)
    fun _ => rfl

/-- A dot is any character of a line. -/
theorem meansSet_dot : MeansSet b ['.'] .inLine :=
  .one (by decide) fun _ => readsPart_of_readPart (t := []) (by decide) fun _ => rfl

theorem meansSet_inLine : MeansSet false "[^\\n]".toList .inLine :=
  .bracket (t := "^\\n]".toList) (by decide) (by decide) fun _ => rfl

theorem meansSet_inlineBlank : MeansSet true "[ \\t]".toList .inlineBlank :=
  .bracket (t := " \\t]".toList) (by decide) (by decide) fun _ => rfl

theorem meansSet_trailingBlank : MeansSet true "[ \\t\\r]".toList .trailingBlank :=
  .bracket (t := " \\t\\r]".toList) (by decide) (by decide) fun _ => rfl

theorem meansSet_beforeComment : MeansSet true "[^#\\n]".toList .beforeComment :=
  .bracket (t := "^#\\n]".toList) (by decide) (by decide) fun _ => rfl

/-- A set that is read in any case is closed under case before it is negated. -/
theorem meansSet_solid : MeansSet true "[^#\\s]".toList .solid :=
  .bracket (t := "^#\\s]".toList) (by decide) (by decide) fun _ => rfl

theorem meansSet_sign : MeansSet false "[^\\w\\s]".toList .sign :=
  .bracket (t := "^\\w\\s]".toList) (by decide) (by decide) fun _ => rfl

theorem meansSet_innerBlank : MeansSet false "[^\\S\\n]".toList .innerBlank :=
  .bracket (t := "^\\S\\n]".toList) (by decide) (by decide) fun _ => rfl

theorem meansSet_keyChar : MeansSet true "[A-Z0-9_-]".toList .keyChar :=
  .bracket (t := "A-Z0-9_-]".toList) (by decide) (by decide) fun _ => rfl

theorem meansSet_valueChar : MeansSet true "[^;#\\s]".toList .valueChar :=
  .bracket (t := "^;#\\s]".toList) (by decide) (by decide) fun _ => rfl

theorem meansSet_itemChar : MeansSet false "[^,#\\s]".toList .itemChar :=
  .bracket (t := "^,#\\s]".toList) (by decide) (by decide) fun _ => rfl

theorem meansSet_shellChar : MeansSet false "[^\\s\\\\#]".toList .shellChar :=
  .bracket (t := "^\\s\\\\#]".toList) (by decide) (by decide) fun _ => rfl

theorem meansSet_argumentChar : MeansSet false "[^\\n\\\\]".toList .argumentChar :=
  .bracket (t := "^\\n\\\\]".toList) (by decide) (by decide) fun _ => rfl

end Sets

end Regex

/-! ## Plain words -/

/-- A short word of letters, `_` and `-` that starts with a letter. -/
structure Text.Plain (w : Text) : Prop where
  /-- It starts with a letter. -/
  letter : w.head?.any Char.isAlpha = true
  /-- It is short. -/
  length_le : w.length ≤ 30
  /-- Its characters are letters, `_` and `-`. -/
  chars : ∀ c ∈ w, (c.isAlpha || c == '_' || c == '-') = true

instance (w : Text) : Decidable (Text.Plain w) :=
  decidable_of_iff ((w.head?.any Char.isAlpha && decide (w.length ≤ 30) &&
      w.all fun c => c.isAlpha || c == '_' || c == '-') = true)
    (by
      rw [Bool.and_eq_true, Bool.and_eq_true, decide_eq_true_eq, List.all_eq_true, and_assoc]
      exact ⟨fun ⟨hletter, hlen, hchars⟩ => ⟨hletter, hlen, hchars⟩,
        fun ⟨hletter, hlen, hchars⟩ => ⟨hletter, hlen, hchars⟩⟩)

/-- A plain word starts with a letter. -/
theorem Text.Plain.exists_cons {w : Text} (h : w.Plain) :
    ∃ c t, w = c :: t ∧ c.isAlpha = true := by
  cases w with
  | nil => exact absurd h.letter (by decide)
  | cons c t => exact ⟨c, t, rfl, by simpa using h.letter⟩

theorem Text.Plain.ne_nil {w : Text} (h : w.Plain) : w ≠ [] := by
  obtain ⟨c, t, rfl, -⟩ := h.exists_cons
  exact List.cons_ne_nil c t

/-- Whether a literal is plain is read off its characters. -/
theorem Text.Plain.ofList {cs : List Char} (h : Text.Plain cs) :
    Text.Plain (String.ofList cs).toList := by
  rwa [String.toList_ofList]

/-- A short list of plain words. -/
structure PlainWords (list : List String) : Prop where
  /-- There is a word. -/
  ne_nil : list ≠ []
  /-- There are few. -/
  length_le : list.length ≤ 40
  /-- They are plain. -/
  plain : ∀ s ∈ list, Text.Plain s.toList

/-- A plain word has letters, `_` and `-` only. -/
theorem Text.Plain.not_mem {w : Text} (h : w.Plain) {c : Char}
    (hc : (c.isAlpha || c == '_' || c == '-') = false) : c ∉ w := by
  intro hmem
  rw [h.chars c hmem] at hc
  exact Bool.noConfusion hc

theorem Text.Plain.not_mem_metaChars {w : Text} (h : w.Plain) (hhyphen : '-' ∉ w) :
    ∀ c ∈ w, c ∉ Regex.metaChars := by
  have hothers : Regex.metaChars.all
      (fun c => c == '-' || !(c.isAlpha || c == '_' || c == '-')) = true := by decide
  intro c hc hmeta
  have hmeta := List.all_eq_true.mp hothers c hmeta
  rw [h.chars c hc, Bool.not_true, Bool.or_false, beq_iff_eq] at hmeta
  exact hhyphen (hmeta ▸ hc)

/-- A plain word without hyphens is quoted as itself. -/
theorem Text.Plain.quote_eq {w : Text} (h : w.Plain) (hhyphen : '-' ∉ w) :
    Regex.quote w = w := by
  have hquote : ∀ t : Text, (∀ c ∈ t, c ∉ Regex.metaChars) → Regex.quote t = t := by
    intro t ht
    induction t with
    | nil => rfl
    | cons c t ih =>
      have hc := ht c (List.mem_cons_self ..)
      rw [Regex.quote, if_neg (by simpa using hc), ih fun d hd => ht d (List.mem_cons_of_mem c hd)]
  exact hquote w (h.not_mem_metaChars hhyphen)

/-! ## Shared parts -/

namespace Pattern

/-- A word, in any case. -/
def literal (s : String) : Pattern := word true s.toList

/-- One of some words, in any case. -/
def words (list : List String) : Pattern :=
  choice ((Regex.arrange (list.map String.toList)).map (word true))

/-- A run of blanks within a line. -/
def blanks : Pattern := plus .inlineBlank

/-- The rest of a line up to a comment, without the blanks at its end. -/
def argument : Pattern :=
  .seq (.one .solid) (opt (.seq (.many true .beforeComment) (.one .solid)))

/-- The end of a line, after blanks or before a comment. -/
def lineEnd : Pattern :=
  .seq (.many true .trailingBlank) (.alt (.one (.only '#')) (.check .lineEnd))

/-- A comment. -/
def comment : Pattern := .seq (.one (.only '#')) (.many true .inLine)

/-- A line end. -/
def newline : Pattern := .seq (opt (.one (.only '\r'))) (.one (.only '\n'))

/-- Some patterns one after another, captured under the numbers from `k` on, and a pattern. -/
def groupsThen (k : Nat) : List Pattern → Pattern → Pattern
  | [], q => q
  | p :: ps, q => .seq (.group k p) (groupsThen (k + 1) ps q)

/-- An escape. -/
def escape : Pattern := .seq (.one (.only '\\')) (.alt newline (.one .inLine))

theorem consumes_wordThen {b : Bool} {w : Text} (h : w ≠ []) (p : Pattern) :
    (wordThen b w p).consumes = true := by
  cases w with
  | nil => exact absurd rfl h
  | cons c w => simp [wordThen, consumes]

theorem consumes_words {list : List String} (h : PlainWords list) :
    (words list).consumes = true := by
  have hword : ∀ w : Text, w ≠ [] → (word true w).consumes = true := by
    intro w hw
    match w with
    | [] => exact absurd rfl hw
    | [c] => rfl
    | c :: d :: w => rfl
  have hchoice : ∀ ps : List Pattern, ps ≠ [] → (∀ p ∈ ps, p.consumes = true) →
      (choice ps).consumes = true := by
    intro ps
    induction ps with
    | nil => exact fun hne => absurd rfl hne
    | cons p ps ih =>
      intro _ hall
      cases ps with
      | nil => exact hall p (List.mem_cons_self ..)
      | cons q ps =>
        have hrest := ih (by simp) fun r hr => hall r (List.mem_cons_of_mem _ hr)
        simp [choice, consumes, hall p (List.mem_cons_self ..), hrest]
  refine hchoice _ ?_ ?_
  · simpa using Regex.arrange_ne_nil (by simpa using h.ne_nil)
  · intro p hp
    obtain ⟨w, hw, rfl⟩ := List.mem_map.mp hp
    obtain ⟨s, hs, rfl⟩ := List.mem_map.mp (Regex.mem_arrange.mp hw)
    exact hword _ (h.plain s hs).ne_nil

/-- A row consumes if one of its parts does. -/
theorem consumes_groupsThen {k : Nat} {ps : List Pattern} {q : Pattern}
    (h : q.consumes = true ∨ ∃ p ∈ ps, p.consumes = true) :
    (groupsThen k ps q).consumes = true := by
  induction ps generalizing k with
  | nil => simpa [groupsThen] using h
  | cons p ps ih =>
    rw [groupsThen, consumes, Bool.or_eq_true_iff]
    rcases h with h | ⟨r, hr, hcons⟩
    · exact Or.inr (ih (Or.inl h))
    · rcases List.mem_cons.mp hr with rfl | hr
      · exact Or.inl hcons
      · exact Or.inr (ih (Or.inr ⟨r, hr, hcons⟩))

end Pattern

namespace Regex

variable {b : Bool} {k : Nat}

theorem MeansBody.mono {m n : Nat} {t : Text} {p : Pattern} {k' : Nat}
    (h : MeansBody b k k' m t p) (hmn : m ≤ n) : MeansBody b k k' n t p := by
  obtain ⟨f, hread, hf⟩ := h
  exact ⟨f, hread, hf.mono hmn⟩

/-- A word before a text. -/
theorem MeansSeq.wordThen {n k' : Nat} {u : Text} {p : Pattern} (hu : MeansSeq b k k' n u p)
    (hsettled : Settled u) : ∀ w : Text, (∀ c ∈ w, c ∉ metaChars) →
      MeansSeq b k k' (n + 3 * w.length) (w ++ u) (.wordThen b w p)
  | [], _ => hu
  | c :: w, h => by
    have hc : c ∉ metaChars := h c (List.mem_cons_self ..)
    have ih := hu.wordThen hsettled w fun d hd => h d (List.mem_cons_of_mem c hd)
    have hrest : Settled (w ++ u) := by
      cases w with
      | nil => exact hsettled
      | cons d w =>
        have hd : d ∉ metaChars := h d (List.mem_cons_of_mem c (List.mem_cons_self ..))
        refine ⟨?_, ?_⟩ <;> rintro heq <;> rw [List.cons_append, List.head?_cons,
          Option.some.injEq] at heq <;> subst heq <;> exact hd (by decide)
    have hword := (MeansSet.char (b := b) hc).part.append (k := k) ih hrest
    have hsize : 2 + (n + 3 * w.length) + 1 = n + 3 * (c :: w).length := by
      rw [List.length_cons]
      omega
    rwa [hsize] at hword

/-- A text may stand in a captured group and means a pattern without groups. -/
def MeansInGroup (b : Bool) (n : Nat) (t : Text) (p : Pattern) : Prop :=
  t.head? ≠ some '?' ∧ ∀ k, MeansBody b k k n t p

/-- A text in parentheses is the group that comes next. -/
theorem MeansInGroup.part {n : Nat} {t : Text} {p : Pattern} (h : MeansInGroup b n t p) :
    MeansPart b k (k + 1) (n + 1) (Pdfile.group t) (.group (k + 1) p) := by
  obtain ⟨hhead, ht⟩ := h
  exact (ht (k + 1)).group hhead

/-- Some texts, each in parentheses, before a text. -/
theorem MeansSeq.groupsThen {m n k' : Nat} {u : Text} {q : Pattern} (hsettled : Settled u) :
    ∀ {k : Nat} {ts : List Text} {ps : List Pattern},
      List.Forall₂ (MeansInGroup b n) ts ps → MeansSeq b (k + ts.length) k' m u q →
      MeansSeq b k k' (m + (n + 2) * ts.length) (ts.flatMap Pdfile.group ++ u)
        (.groupsThen (k + 1) ps q)
  | k, [], [], .nil, hu => hu
  | k, t :: ts, p :: ps, .cons ht hts, hu => by
    have hindex : k + (t :: ts).length = k + 1 + ts.length := by
      rw [List.length_cons]
      omega
    have ih := MeansSeq.groupsThen hsettled hts (hindex ▸ hu)
    have hrest : Settled (ts.flatMap Pdfile.group ++ u) := by
      cases ts with
      | nil => exact hsettled
      | cons t ts => exact ⟨by simp [Pdfile.group], by simp [Pdfile.group]⟩
    have hgroup := ht.part.append ih hrest
    have hsize : n + 1 + (m + (n + 2) * ts.length) + 1 = m + (n + 2) * (t :: ts).length := by
      rw [List.length_cons, Nat.mul_add]
      omega
    rw [hsize] at hgroup
    simpa [Pdfile.group, Pattern.groupsThen] using hgroup

theorem meansSeq_plain {s : String} (h : Text.Plain s.toList) (hhyphen : '-' ∉ s.toList) :
    MeansSeq true k k 1 s.toList (.literal s) :=
  meansSeq_word (h.quote_eq hhyphen) h.ne_nil h.length_le

/-- A choice between plain words, in parentheses without a number. -/
theorem meansPart_anyOf {list : List String} (h : PlainWords list) :
    MeansPart true k k 4 (Pdfile.anyOf list) (.words list) := by
  refine meansPart_words ?_ ?_ ?_
  · simpa using h.ne_nil
  · intro w hw
    obtain ⟨s, hs, rfl⟩ := List.mem_map.mp hw
    exact (h.plain s hs).length_le
  · simpa using h.length_le

theorem meansUnit_blanks : MeansUnit true k k 5 Pdfile.blanks .blanks :=
  meansSet_inlineBlank.plus

/-- An argument goes from a solid character to the last one before a comment. -/
theorem meansSeq_argument : MeansSeq true k k 11 Pdfile.argument .argument := by
  have hrest : MeansSeq true k k 6 ("[^#\\n]*".toList ++ "[^#\\s]".toList)
      (.seq (.many true .beforeComment) (.one .solid)) :=
    meansSet_beforeComment.star.append meansSet_solid.part.seq ⟨by simp, by simp⟩
  exact meansSet_solid.part.append (hrest.body.scope.opt rfl).seq ⟨by simp, by simp⟩

/-- The lookahead for the end of a line. -/
theorem meansSeq_lineEnd : MeansSeq true k k 9 Pdfile.lineEnd .lineEnd := by
  have hdollar : MeansSeq true k k 1 ['$'] (.check .lineEnd) :=
    MeansPart.seq ⟨_, readsPart_of_readPart (t := []) (by decide) fun _ => rfl, .check _⟩
  have hend := meansSet_hash.part.seq.alt hdollar ⟨by simp, by simp⟩
  exact meansSet_trailingBlank.star.append hend.scope.seq ⟨by simp, by simp⟩

theorem meansInGroup_plain {s : String} (h : Text.Plain s.toList) (hhyphen : '-' ∉ s.toList) :
    MeansInGroup true 12 s.toList (.literal s) := by
  refine ⟨?_, fun k => (meansSeq_plain h hhyphen).body.mono (by decide)⟩
  intro heq
  exact h.not_mem (c := '?') (by decide) (List.mem_of_head? heq)

theorem meansInGroup_anyOf {list : List String} (h : PlainWords list) :
    MeansInGroup true 12 (Pdfile.anyOf list) (.words list) :=
  ⟨by rw [Pdfile.anyOf, Regex.words]; simp, fun k =>
    (meansPart_anyOf h).seq.body.mono (by decide)⟩

theorem meansInGroup_blanks : MeansInGroup true 12 Pdfile.blanks .blanks :=
  ⟨by decide, fun k => meansUnit_blanks.seq.body.mono (by decide)⟩

theorem meansInGroup_argument : MeansInGroup true 12 Pdfile.argument .argument :=
  ⟨by decide, fun k => meansSeq_argument.body.mono (by decide)⟩

theorem meansSeq_comment : MeansSeq false k k 6 "#[^\\n]*".toList .comment :=
  meansSet_hash.part.append meansSet_inLine.star.seq ⟨by simp, by simp⟩

theorem meansSeq_newline : MeansSeq b k k 6 "\\r?\\n".toList .newline :=
  meansSet_return.opt.append meansSet_newline.part.seq ⟨by simp, by simp⟩

/-- A backslash and what it escapes, a whole line end among it. -/
theorem meansSeq_escape : MeansSeq b k k 13 "\\\\(?:\\r?\\n|.)".toList .escape := by
  have hchoice := (meansSeq_newline (b := b) (k := k)).alt meansSet_dot.part.seq ⟨by simp, by simp⟩
  exact meansSet_backslash.part.append hchoice.scope.seq ⟨by simp, by simp⟩

end Regex

/-! ## Shared rules -/

namespace BuiltRule

/-- The rule for blanks between lines and words. -/
def blanks : BuiltRule := ⟨(Pattern.plus .space).tied, false, none, .token .whitespace, .stay⟩

/-- The rule for comments. -/
def comment (t : Transition) : BuiltRule := ⟨Pattern.comment.tied, false, none, .token .comment, t⟩

/-- The rule for a line end that ends a state. -/
def closingLineEnd : BuiltRule :=
  ⟨Pattern.newline.tied, false, none, .token .whitespace, .pop⟩

/-- The rule for escapes. -/
def escape : BuiltRule := ⟨Pattern.escape.tied, false, none, .token .constant, .stay⟩

/-- The rule for blanks within a line. -/
def innerBlanks : BuiltRule :=
  ⟨(Pattern.plus .innerBlank).tied, false, none, .token .whitespace, .stay⟩

/-- The rule for any character within a line. -/
def anyChar : BuiltRule := ⟨(Pattern.one .inLine).tied, false, none, .token .text, .stay⟩

/-- The rule for words. -/
def words : BuiltRule := ⟨(Pattern.plus .word).tied, false, none, .token .text, .stay⟩

/-- The rule for signs. -/
def signs : BuiltRule := ⟨(Pattern.plus .sign).tied, false, none, .token .text, .stay⟩

end BuiltRule

end Highlighter
