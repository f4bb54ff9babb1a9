import Highlighter.Proofs.Grammar.Parts
import Highlighter.Proofs.Scan.Run

/-!
# Captures and rows of tokens

A match makes captures only under the numbers of the groups in its pattern
(`Pattern.captures_of_mem_run`), so a pattern without groups makes none.  Words, blanks
and arguments have no groups.

`Token.row` is what a rule makes of texts that stand one after another.
-/

namespace Highlighter

namespace Pattern

/-! ## Captures -/

/-- Whether a pattern captures a group under a number. -/
def opens : Pattern → Nat → Bool
  | .group k p, i => i == k || p.opens i
  | .seq p q, i => p.opens i || q.opens i
  | .alt p q, i => p.opens i || q.opens i
  | .loop _ p, i => p.opens i
  | _, _ => false

/-- A run of characters captures nothing. -/
theorem captures_of_mem_runEnds {s : CharSet} : ∀ {t : Text} {a : Place} {shorter : List Place},
    ∀ e ∈ runEnds s t a shorter, e ∈ shorter ∨ e.captures = a.captures
  | [], a, shorter, e, he => by
    rcases List.mem_cons.mp he with rfl | he
    · exact Or.inr rfl
    · exact Or.inl he
  | c :: t, a, shorter, e, he => by
    rw [runEnds] at he
    split at he
    · rcases captures_of_mem_runEnds e he with he | he
      · rcases List.mem_cons.mp he with rfl | he
        · exact Or.inr rfl
        · exact Or.inl he
      · exact Or.inr he
    · rcases List.mem_cons.mp he with rfl | he
      · exact Or.inr rfl
      · exact Or.inl he

/-- A match keeps the captures it starts with, and makes captures only under the numbers of the
pattern. -/
theorem captures_of_mem_run (p : Pattern) : ∀ a, ∀ e ∈ p.run a,
    ∃ new, e.captures = new ++ a.captures ∧ ∀ c ∈ new, p.opens c.index = true := by
  induction p with
  | empty =>
    intro a e he
    rw [List.mem_singleton.mp he]
    exact ⟨[], rfl, by simp⟩
  | one s =>
    intro a e he
    simp only [run] at he
    split at he
    · simp at he
    · split at he
      · rw [List.mem_singleton.mp he]
        exact ⟨[], rfl, by simp⟩
      · simp at he
  | many greedy s =>
    intro a e he
    have hmem : e ∈ runEnds s a.rest a [] := by
      cases greedy with
      | true => exact he
      | false => exact List.mem_reverse.mp he
    rcases captures_of_mem_runEnds e hmem with h | h
    · simp at h
    · exact ⟨[], h, by simp⟩
  | check c =>
    intro a e he
    simp only [run] at he
    split at he
    · rw [List.mem_singleton.mp he]
      exact ⟨[], rfl, by simp⟩
    · simp at he
  | mark id =>
    intro a e he
    simp only [run] at he
    split at he
    · simp at he
    · rw [List.mem_singleton.mp he]
      exact ⟨[], rfl, by simp⟩
  | group index p ih =>
    intro a e he
    obtain ⟨e', he', rfl⟩ := List.mem_map.mp he
    obtain ⟨new, hnew, hopens⟩ := ih a e' he'
    refine ⟨⟨index, a.offset, e'.offset⟩ :: new, by rw [Place.capture, hnew]; rfl, fun c hc => ?_⟩
    rcases List.mem_cons.mp hc with rfl | hc
    · simp [opens]
    · simp [opens, hopens c hc]
  | seq p q ihp ihq =>
    intro a e he
    obtain ⟨b, hb, he⟩ := List.mem_flatMap.mp he
    obtain ⟨new, hnew, hopens⟩ := ihp a b hb
    obtain ⟨new', hnew', hopens'⟩ := ihq b e he
    refine ⟨new' ++ new, by rw [hnew', hnew, List.append_assoc], fun c hc => ?_⟩
    rcases List.mem_append.mp hc with hc | hc
    · simp [opens, hopens' c hc]
    · simp [opens, hopens c hc]
  | alt p q ihp ihq =>
    intro a e he
    rcases List.mem_append.mp he with he | he
    · obtain ⟨new, hnew, hopens⟩ := ihp a e he
      exact ⟨new, hnew, fun c hc => by simp [opens, hopens c hc]⟩
    · obtain ⟨new, hnew, hopens⟩ := ihq a e he
      exact ⟨new, hnew, fun c hc => by simp [opens, hopens c hc]⟩
  | loop greedy p ih =>
    intro a e he
    refine loopEnds_induction (P := fun a e => ∃ new, e.captures = new ++ a.captures ∧
      ∀ c ∈ new, p.opens c.index = true) (fun a => ⟨[], rfl, by simp⟩) ?_ _ _ a e he
    rintro a b c hb - ⟨new', hnew', hopens'⟩
    obtain ⟨new, hnew, hopens⟩ := ih a b hb
    refine ⟨new' ++ new, by rw [hnew', hnew, List.append_assoc], fun d hd => ?_⟩
    rcases List.mem_append.mp hd with hd | hd
    · exact hopens' d hd
    · exact hopens d hd

/-- A pattern without groups. -/
def Groupless (p : Pattern) : Prop := ∀ i, p.opens i = false

/-- A pattern without groups leaves the captures as they are. -/
theorem Groupless.captures_eq {p : Pattern} (h : p.Groupless) {a e : Place} (he : e ∈ p.run a) :
    e.captures = a.captures := by
  obtain ⟨new, hnew, hopens⟩ := p.captures_of_mem_run a e he
  cases new with
  | nil => exact hnew
  | cons c new =>
    have hc := hopens c (List.mem_cons_self ..)
    rw [h c.index] at hc
    cases hc

theorem groupless_word (b : Bool) : ∀ w : Text, (word b w).Groupless
  | [], _ => rfl
  | [_], _ => rfl
  | _ :: d :: w, i => groupless_word b (d :: w) i

theorem groupless_wordThen {b : Bool} {p : Pattern} (hp : p.Groupless) :
    ∀ w : Text, (wordThen b w p).Groupless
  | [], i => hp i
  | _ :: w, i => groupless_wordThen hp w i

theorem groupless_choice : ∀ {ps : List Pattern}, (∀ p ∈ ps, p.Groupless) →
    (choice ps).Groupless
  | [], _, _ => rfl
  | [p], h, i => h p (List.mem_cons_self ..) i
  | p :: q :: ps, h, i => by
    have hp := h p (List.mem_cons_self ..) i
    have hps : (choice (q :: ps)).Groupless :=
      groupless_choice fun r hr => h r (List.mem_cons_of_mem p hr)
    rw [choice, opens, hp, hps]
    · rfl
    · exact List.cons_ne_nil q ps

theorem groupless_literal (s : String) : (literal s).Groupless := groupless_word true s.toList

theorem groupless_words (list : List String) : (words list).Groupless := by
  refine groupless_choice fun p hp => ?_
  obtain ⟨w, -, rfl⟩ := List.mem_map.mp hp
  exact groupless_word true w

theorem groupless_blanks : blanks.Groupless := fun _ => rfl

theorem groupless_argument : argument.Groupless := fun _ => rfl

/-- A match that is found is an end of the pattern from the start of the text. -/
theorem exists_mem_run_of_find {p : Pattern} {t : Text} {m : Match} (h : p.tied.find t = some m) :
    ∃ e ∈ p.run (Place.start t), m = ⟨0, e.offset, e.captures, e.rest⟩ := by
  rw [find_tied] at h
  obtain ⟨e, he, rfl⟩ := Option.map_eq_some_iff.mp h
  exact ⟨e, List.mem_of_head? he, rfl⟩

end Pattern

/-! ## Rows of tokens -/

/-- The tokens of some texts that stand one after another. -/
def Token.row : Nat → List (Category × Text) → List Token
  | _, [] => []
  | p, (category, w) :: rest => Token.at category p w :: Token.row (p + w.size) rest

/-- The tokens of a row have the categories of its cells. -/
theorem Token.category_of_mem_row : ∀ {row : List (Category × Text)} {p : Nat},
    ∀ t ∈ Token.row p row, ∃ x ∈ row, t.category = x.1
  | [], _, _, ht => by simp [Token.row] at ht
  | x :: row, p, t, ht => by
    rcases List.mem_cons.mp ht with rfl | ht
    · exact ⟨x, List.mem_cons_self .., rfl⟩
    · obtain ⟨y, hy, hcategory⟩ := category_of_mem_row t ht
      exact ⟨y, List.mem_cons_of_mem x hy, hcategory⟩

end Highlighter
