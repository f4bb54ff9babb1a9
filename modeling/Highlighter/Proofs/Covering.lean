import Highlighter.Proofs.Boundaries
import Highlighter.Token

/-!
# Exactness of the check for covering

`covers` goes through the tokens with a position and takes a slice of the source for each.
It answers that tokens cover a source exactly if their texts put together are the source and
every span is the one its text has there (`covers_iff`).  Nothing is assumed of the tokens:
a span may be reversed, overlap another, lie outside the source or end within a character,
and a text may be empty or another than the one at its span.

The induction is on the tokens.  What was checked already is kept as a text that stands
before the position, so that a slice from the position on is a beginning of what is left.
-/

namespace Highlighter

/-- What holds of every member with those before it holds of the first with none, and of the others
with the first among those before. -/
theorem forall_split_cons_iff {α : Type} {P : List α → α → Prop} {a : α} {l : List α} :
    (∀ before x after, a :: l = before ++ x :: after → P before x) ↔
      P [] a ∧ ∀ before x after, l = before ++ x :: after → P (a :: before) x := by
  constructor
  · intro h
    exact ⟨h [] a l rfl, fun before x after hl => h (a :: before) x after (by rw [hl]; rfl)⟩
  · rintro ⟨hfirst, hothers⟩ before x after hl
    cases before with
    | nil =>
      obtain ⟨rfl, -⟩ := List.cons.inj hl
      exact hfirst
    | cons b before =>
      obtain ⟨rfl, htail⟩ := List.cons.inj hl
      exact hothers before x after htail

theorem detokenize_cons (t : Token) (tokens : List Token) :
    detokenize (t :: tokens) = t.text ++ detokenize tokens := rfl

/-- Tokens cover the rest of a source behind a text exactly if they have the texts and the spans
that are right there. -/
theorem coversFrom_iff (tokens : List Token) : ∀ pre rest : Text,
    coversFrom (pre ++ rest) pre.size tokens = true ↔
      detokenize tokens = rest ∧
        ∀ before t after, tokens = before ++ t :: after →
          t.start = pre.size + (detokenize before).size ∧ t.stop = t.start + t.text.size := by
  induction tokens with
  | nil =>
    intro pre rest
    have hsplit : ∀ before (t : Token) after, [] ≠ before ++ t :: after := by simp
    rw [coversFrom, beq_iff_eq, Text.size_append]
    constructor
    · intro h
      have hrest : rest = [] := Text.size_eq_zero_iff.mp (by omega)
      exact ⟨hrest.symm, fun before t after hnil => absurd hnil (hsplit before t after)⟩
    · rintro ⟨rfl, -⟩
      rfl
  | cons t tokens ih =>
    intro pre rest
    rw [coversFrom, Bool.and_eq_true, Bool.and_eq_true, beq_iff_eq, beq_iff_eq,
      Text.slice?_eq_some_iff, forall_split_cons_iff, detokenize_cons]
    constructor
    · rintro ⟨⟨hstart, before, after, htext, hbefore, hstop⟩, hothers⟩
      obtain ⟨rfl, rfl⟩ := Text.append_inj_of_size_eq htext (hstart.symm.trans hbefore)
      have hsize : t.stop = (pre ++ t.text).size := by rw [Text.size_append, hstop, hstart]
      rw [hsize, ← List.append_assoc] at hothers
      obtain ⟨hrest, hspans⟩ := (ih (pre ++ t.text) after).mp hothers
      refine ⟨by rw [hrest], ⟨hstart, hstop⟩, fun before u after hsplit => ?_⟩
      obtain ⟨hu, hlength⟩ := hspans before u after hsplit
      rw [Text.size_append, Nat.add_assoc, ← Text.size_append, ← detokenize_cons] at hu
      exact ⟨hu, hlength⟩
    · rintro ⟨rfl, ⟨hstart, hstop⟩, hothers⟩
      have hsize : t.stop = (pre ++ t.text).size := by rw [Text.size_append, hstop, hstart]; rfl
      refine ⟨⟨hstart, pre, detokenize tokens, rfl, hstart, hstop⟩, ?_⟩
      rw [hsize, ← List.append_assoc]
      refine (ih (pre ++ t.text) (detokenize tokens)).mpr ⟨rfl, fun before u after hsplit => ?_⟩
      obtain ⟨hu, hlength⟩ := hothers before u after hsplit
      rw [detokenize_cons, Text.size_append, ← Nat.add_assoc, ← Text.size_append] at hu
      exact ⟨hu, hlength⟩

/-- Tokens cover a source exactly if their texts are the source, and each has the span of its text:
it starts behind the texts before it and is as long as its own. The length of a span is given by its
end, so that a reversed span has none. -/
theorem covers_iff (tokens : List Token) (source : Text) :
    covers tokens source = true ↔
      detokenize tokens = source ∧
        ∀ before t after, tokens = before ++ t :: after →
          t.start = (detokenize before).size ∧ t.stop = t.start + t.text.size := by
  have h := coversFrom_iff tokens [] source
  simpa [covers] using h

end Highlighter
