import Mathlib.Data.List.Forall2
import Highlighter.Proofs.Pattern.Extent

/-!
# Matches and letter case

Two texts are *alike* when they are equal up to the case of ASCII letters.  A set of
characters is *uncased* when it does not tell the two cases of a letter apart, and a
test is when it holds between alike characters or between none.

In alike texts a pattern made of uncased sets and tests has alike ends, in the same
order and with the same captures (`Pattern.alike_run`).  So the pattern finds the same
match in both, up to the letters of the text that is left (`Pattern.alike_find`).
-/

namespace Highlighter

/-! ## Alike characters -/

/-- Two characters are equal up to the case of ASCII letters. -/
def SameLetter (c d : Char) : Prop := c.toLower = d.toLower

/-- An upper-case letter has another lower case, and any other character is its own. -/
theorem toLower_cases (c : Char) :
    c.toLower = c ∨ ∃ n < 26, c = Char.ofNat (65 + n) ∧ c.toLower = Char.ofNat (97 + n) := by
  have hletters : ∀ n < 26, (Char.ofNat (65 + n)).toLower = Char.ofNat (97 + n) := by decide
  by_cases h : c.val ≥ 'A'.val ∧ c.val ≤ 'Z'.val
  · obtain ⟨hlo, hhi⟩ := h
    have hlo : 65 ≤ c.toNat := hlo
    have hhi : c.toNat ≤ 90 := hhi
    obtain ⟨n, hn⟩ : ∃ n, c.toNat = 65 + n := ⟨c.toNat - 65, by omega⟩
    have hc : c = Char.ofNat (65 + n) := by rw [← hn, Char.ofNat_toNat]
    refine .inr ⟨n, by omega, hc, ?_⟩
    rw [hc]
    exact hletters n (by omega)
  · exact .inl (dif_neg h)

/-- What holds of the two cases of every letter alike holds of a character and its lower case. -/
theorem eq_toLower_of_letters {α : Type} {f : Char → α}
    (h : ∀ n < 26, f (Char.ofNat (97 + n)) = f (Char.ofNat (65 + n))) (c : Char) :
    f c.toLower = f c := by
  rcases toLower_cases c with hc | ⟨n, hn, hc, hlower⟩
  · rw [hc]
  · rw [hlower, hc]
    exact h n hn

namespace SameLetter

variable {c d : Char}

theorem eq_of_letters {α : Type} {f : Char → α}
    (hf : ∀ n < 26, f (Char.ofNat (97 + n)) = f (Char.ofNat (65 + n))) (h : SameLetter c d) :
    f c = f d := by
  rw [← eq_toLower_of_letters hf c, ← eq_toLower_of_letters hf d]
  exact congrArg f h

theorem utf8Size_eq (h : SameLetter c d) : c.utf8Size = d.utf8Size :=
  h.eq_of_letters (f := Char.utf8Size) (by decide)

theorem beq_newline (h : SameLetter c d) : (c == '\n') = (d == '\n') :=
  h.eq_of_letters (f := (· == '\n')) (by decide)

end SameLetter

/-! ## Alike texts -/

/-- Two texts are equal up to the case of ASCII letters. -/
def Text.Alike (s t : Text) : Prop := List.Forall₂ SameLetter s t

namespace Text.Alike

variable {s t : Text}

theorem of_eqIgnoreCase (h : eqIgnoreCase s t = true) : s.Alike t := by
  rw [eqIgnoreCase, beq_iff_eq, ← List.forall₂_eq_eq_eq, List.forall₂_map_left_iff,
    List.forall₂_map_right_iff] at h
  exact h

theorem eqIgnoreCase (h : s.Alike t) : eqIgnoreCase s t = true := by
  rw [Text.eqIgnoreCase, beq_iff_eq, ← List.forall₂_eq_eq_eq, List.forall₂_map_left_iff,
    List.forall₂_map_right_iff]
  exact h

theorem length_eq (h : s.Alike t) : s.length = t.length := List.Forall₂.length_eq h

theorem head? (h : s.Alike t) : Option.Rel SameLetter s.head? t.head? := by
  cases h with
  | nil => exact .none
  | cons hc _ => exact .some hc

theorem size_eq (h : s.Alike t) : s.size = t.size := by
  induction h with
  | nil => rfl
  | cons hc _ ih => rw [size_cons, size_cons, hc.utf8Size_eq, ih]

/-- Alike texts are cut alike. -/
theorem takeBytes (h : s.Alike t) : ∀ n, (s.takeBytes n).Alike (t.takeBytes n) := by
  induction h with
  | nil => exact fun n => .nil
  | @cons c d s t hc _ ih =>
    intro n
    rw [Text.takeBytes, Text.takeBytes, hc.utf8Size_eq]
    split
    · exact .cons hc (ih _)
    · exact .nil

theorem dropBytes (h : s.Alike t) : ∀ n, (s.dropBytes n).Alike (t.dropBytes n) := by
  induction h with
  | nil => exact fun n => .nil
  | @cons c d s t hc hst ih =>
    intro n
    rw [Text.dropBytes, Text.dropBytes, hc.utf8Size_eq]
    split
    · exact ih _
    · exact .cons hc hst

theorem isEmpty_eq (h : s.Alike t) : s.isEmpty = t.isEmpty := by
  cases h <;> rfl

/-- Alike texts both end a line or neither does. -/
theorem getLast?_beq (h : s.Alike t) : (s.getLast? == some '\n') = (t.getLast? == some '\n') := by
  induction h with
  | nil => rfl
  | @cons c d s t hc hst ih =>
    cases hst with
    | nil => exact hc.beq_newline
    | cons _ _ => simpa only [List.getLast?_cons_cons] using ih

end Text.Alike

/-! ## Uncased sets and tests -/

/-- A set that does not tell the two cases of a letter apart. -/
def CharSet.Uncased (s : CharSet) : Prop := ∀ c, s.holds c.toLower = s.holds c

namespace CharSet

theorem Uncased.holds_eq {s : CharSet} (h : s.Uncased) {c d : Char} (hcd : SameLetter c d) :
    s.holds c = s.holds d := by
  rw [← h c, ← h d]
  exact congrArg s.holds hcd

/-- Whether a set is uncased shows on the letters. -/
theorem Uncased.of_letters {s : CharSet}
    (h : ∀ n < 26, s.holds (Char.ofNat (97 + n)) = s.holds (Char.ofNat (65 + n))) : s.Uncased :=
  eq_toLower_of_letters h

/-- The two cases of a letter have the same variants. -/
theorem caseVariants_toLower (c : Char) :
    Unicode.caseVariants c.toLower = Unicode.caseVariants c :=
  eq_toLower_of_letters (f := Unicode.caseVariants) (by decide +kernel) c

theorem Uncased.anyCase (s : CharSet) : (CharSet.anyCase s).Uncased := by
  intro c
  rw [holds, holds, caseVariants_toLower]

theorem Uncased.complement {s : CharSet} (h : s.Uncased) : (CharSet.complement s).Uncased := by
  intro c
  rw [holds, holds, h c]

end CharSet

/-- A test that holds between alike characters or between none. -/
def Assertion.Uncased (a : Assertion) : Prop :=
  ∀ o o' n n', Option.Rel SameLetter o o' → Option.Rel SameLetter n n' →
    a.holds o n = a.holds o' n'

theorem Assertion.uncased_word {edge : WordEdge} {s : CharSet} (hs : s.Uncased) :
    (Assertion.word edge s).Uncased := by
  have hany : ∀ {o o' : Option Char}, Option.Rel SameLetter o o' →
      o.any s.holds = o'.any s.holds := by
    intro o o' h
    cases h with
    | none => rfl
    | some h => exact hs.holds_eq h
  intro o o' n n' ho hn
  rw [holds, holds, hany ho, hany hn]

theorem Assertion.uncased_lineEnd : Assertion.lineEnd.Uncased := by
  intro o o' n n' _ hn
  cases hn with
  | none => rfl
  | some h =>
    have hnewline := h.beq_newline
    simpa [holds] using hnewline

/-! ## Patterns made of sets and tests -/

namespace Pattern

/-- Every set of a pattern is one of some, and so is every test. -/
def MadeOf (S : CharSet → Prop) (A : Assertion → Prop) : Pattern → Prop
  | .empty => True
  | .one s => S s
  | .many _ s => S s
  | .check a => A a
  | .mark _ => True
  | .group _ p => p.MadeOf S A
  | .seq p q => p.MadeOf S A ∧ q.MadeOf S A
  | .alt p q => p.MadeOf S A ∧ q.MadeOf S A
  | .loop _ p => p.MadeOf S A

theorem MadeOf.imp {S S' : CharSet → Prop} {A A' : Assertion → Prop} (hS : ∀ s, S s → S' s)
    (hA : ∀ a, A a → A' a) : ∀ {p : Pattern}, p.MadeOf S A → p.MadeOf S' A'
  | .empty, _ => trivial
  | .one _, h => hS _ h
  | .many _ _, h => hS _ h
  | .check _, h => hA _ h
  | .mark _, _ => trivial
  | .group _ p, h => imp (p := p) hS hA h
  | .seq _ _, h => ⟨h.1.imp hS hA, h.2.imp hS hA⟩
  | .alt _ _, h => ⟨h.1.imp hS hA, h.2.imp hS hA⟩
  | .loop _ p, h => imp (p := p) hS hA h

/-- A pattern of uncased sets and tests. -/
def Uncased (p : Pattern) : Prop := p.MadeOf CharSet.Uncased Assertion.Uncased

end Pattern

/-! ## Alike places -/

/-- Two places at the same point of alike texts. -/
structure Place.Alike (a b : Place) : Prop where
  before : Option.Rel SameLetter a.before b.before
  offset : a.offset = b.offset
  rest : a.rest.Alike b.rest
  captures : a.captures = b.captures
  marks : a.marks = b.marks

namespace Place.Alike

variable {a b a' b' : Place}

theorem start {s t : Text} (h : s.Alike t) : (Place.start s).Alike (Place.start t) :=
  ⟨.none, rfl, h, rfl, rfl⟩

theorem advance (h : a.Alike b) {c d : Char} (hcd : SameLetter c d) {s t : Text} (hst : s.Alike t) :
    (a.advance c s).Alike (b.advance d t) where
  before := .some hcd
  offset := by rw [Place.advance, Place.advance, h.offset, hcd.utf8Size_eq]
  rest := hst
  captures := h.captures
  marks := rfl

theorem capture (h : a.Alike b) (h' : a'.Alike b') (index : Nat) :
    (a'.capture index a.offset).Alike (b'.capture index b.offset) where
  before := h'.before
  offset := h'.offset
  rest := h'.rest
  captures := by rw [Place.capture, Place.capture, h.offset, h'.offset, h'.captures]
  marks := h'.marks

end Place.Alike

/-! ## Alike ends -/

theorem alike_runEnds {s : CharSet} (hs : s.Uncased) {t t' : Text} (ht : t.Alike t') :
    ∀ {a b : Place} {l m : List Place}, a.Alike b → List.Forall₂ Place.Alike l m →
      List.Forall₂ Place.Alike (runEnds s t a l) (runEnds s t' b m) := by
  induction ht with
  | nil => exact fun h hl => .cons h hl
  | @cons c d t t' hcd htt ih =>
    intro a b l m h hl
    rw [runEnds, runEnds, hs.holds_eq hcd]
    split
    · exact ih (h.advance hcd htt) (.cons h hl)
    · exact .cons h hl

/-- A body that has alike ends from alike places. -/
def AlikeEnds (body : Place → List Place) : Prop :=
  ∀ a b, a.Alike b → List.Forall₂ Place.Alike (body a) (body b)

theorem alike_loopEnds {body : Place → List Place} (hbody : AlikeEnds body) (greedy : Bool) :
    ∀ (turns : Nat) (seen : List Nat) (a b : Place), a.Alike b →
      (loopEnds body greedy turns seen a).1 = (loopEnds body greedy turns seen b).1 ∧
        List.Forall₂ Place.Alike (loopEnds body greedy turns seen a).2
          (loopEnds body greedy turns seen b).2 := by
  intro turns
  induction turns with
  | zero =>
    intro seen a b h
    rw [loopEnds, loopEnds, h.offset]
    split
    · exact ⟨rfl, .nil⟩
    · exact ⟨rfl, .cons h .nil⟩
  | succ turns ih =>
    intro seen a b h
    have honward : List.Forall₂ Place.Alike
        ((body a).filter (·.rest.length < a.rest.length))
        ((body b).filter (·.rest.length < b.rest.length)) := by
      refine List.rel_filter (fun e e' he => ?_) (hbody a b h)
      simp only [he.rest.length_eq, h.rest.length_eq]
    -- What is collected over alike places is alike, from whatever was collected before.
    have hfold := List.rel_foldl
      (P := fun (x y : List Nat × List Place) => x.1 = y.1 ∧ List.Forall₂ Place.Alike x.2 y.2)
      (show Relator.LiftFun _ (Relator.LiftFun _ _)
          (fun (acc : List Nat × List Place) next =>
            ((loopEnds body greedy turns acc.1 next).1,
              acc.2 ++ (loopEnds body greedy turns acc.1 next).2))
          (fun (acc : List Nat × List Place) next =>
            ((loopEnds body greedy turns acc.1 next).1,
              acc.2 ++ (loopEnds body greedy turns acc.1 next).2)) by
        rintro ⟨seen, ends⟩ ⟨_, ends'⟩ ⟨rfl, hends⟩ next next' hnext
        obtain ⟨hseen, hmore⟩ := ih seen next next' hnext
        exact ⟨hseen, List.rel_append hends hmore⟩)
      (show (a.offset :: seen, ([] : List Place)).1 = (b.offset :: seen, ([] : List Place)).1 ∧ _ by
        exact ⟨by rw [h.offset], .nil⟩) honward
    rw [loopEnds, loopEnds, h.offset]
    split
    · exact ⟨rfl, .nil⟩
    · refine ⟨?_, ?_⟩
      · simpa only [h.offset] using hfold.1
      · cases greedy with
        | true => simpa only [h.offset, if_true] using List.rel_append hfold.2 (.cons h .nil)
        | false =>
          simpa only [h.offset, Bool.false_eq_true, if_false] using List.Forall₂.cons h hfold.2

namespace Pattern

/-- From alike places a pattern of uncased sets and tests has alike ends. -/
theorem alike_run (p : Pattern) (hp : p.Uncased) : AlikeEnds p.run := by
  induction p with
  | empty => exact fun a b h => .cons h .nil
  | one s =>
    intro a b h
    have hrest := h.rest
    simp only [run]
    generalize a.rest = t at hrest
    generalize b.rest = t' at hrest
    cases hrest with
    | nil => exact .nil
    | @cons c d t t' hcd ht =>
      have hholds : s.holds c = s.holds d := CharSet.Uncased.holds_eq hp hcd
      simp only [hholds]
      split
      · exact .cons (h.advance hcd ht) .nil
      · exact .nil
  | many greedy s =>
    intro a b h
    have hends := alike_runEnds hp h.rest h .nil
    cases greedy with
    | true => exact hends
    | false => exact List.rel_reverse hends
  | check c =>
    intro a b h
    have hholds : c.holds a.before a.rest.head? = c.holds b.before b.rest.head? :=
      hp _ _ _ _ h.before h.rest.head?
    simp only [run, hholds]
    split
    · exact .cons h .nil
    · exact .nil
  | mark id =>
    intro a b h
    simp only [run, h.marks]
    split
    · exact .nil
    · exact .cons ⟨h.before, h.offset, h.rest, h.captures, rfl⟩ .nil
  | group index p ih =>
    intro a b h
    simp only [run, List.forall₂_map_left_iff, List.forall₂_map_right_iff]
    exact (ih hp a b h).imp fun _ _ he => h.capture he index
  | seq p q ihp ihq =>
    intro a b h
    exact List.rel_flatMap (ihp hp.1 a b h) (ihq hp.2)
  | alt p q ihp ihq =>
    intro a b h
    exact List.rel_append (ihp hp.1 a b h) (ihq hp.2 a b h)
  | loop greedy p ih =>
    intro a b h
    simp only [run, h.rest.length_eq]
    exact (alike_loopEnds (ih hp) greedy _ [] a b h).2

end Pattern

/-! ## Alike matches -/

/-- Two matches of the same extent in alike texts. -/
structure Match.Alike (m m' : Match) : Prop where
  start : m.start = m'.start
  stop : m.stop = m'.stop
  captures : m.captures = m'.captures
  rest : m.rest.Alike m'.rest

theorem Match.Alike.isEmpty {m m' : Match} (h : m.Alike m') : m'.isEmpty = m.isEmpty := by
  rw [Match.isEmpty, Match.isEmpty, h.start, h.stop]

/-- In alike texts a pattern of uncased sets and tests finds the same match, or none in both. -/
theorem Pattern.alike_find {p : Pattern} (hp : p.Uncased) {t t' : Text} (h : t.Alike t') :
    Option.Rel Match.Alike (p.tied.find t) (p.tied.find t') := by
  have hends := p.alike_run hp _ _ (Place.Alike.start h)
  rw [find_tied, find_tied, matchAt, matchAt]
  generalize p.run (Place.start t) = l at hends
  generalize p.run (Place.start t') = m at hends
  cases hends with
  | nil => exact .none
  | cons he _ => exact .some ⟨rfl, he.offset, he.captures, he.rest⟩

theorem Pattern.matches_eq_of_alike {p : Pattern} (hp : p.Uncased) {t t' : Text} (h : t.Alike t') :
    p.tied.matches t' = p.tied.matches t := by
  have hfind := alike_find hp h
  rw [Pattern.matches, Pattern.matches]
  generalize p.tied.find t = m at hfind
  generalize p.tied.find t' = m' at hfind
  cases hfind <;> rfl

end Highlighter
