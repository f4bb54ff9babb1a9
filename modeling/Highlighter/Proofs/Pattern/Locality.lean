import Mathlib.Data.List.Forall2
import Highlighter.Proofs.Pattern.Extent

/-!
# What a match depends on

Two texts may begin alike and go on differently, one with `x` and the other with
`y`.  Places at the same point of the common beginning are *twins*.  A match may
read on beyond the common beginning on either side, but the ends it has within the
beginning are the same on both sides, and in the same order (`Pattern.twins_run`).
This asks of the pattern only that its tests of the place cannot tell `x` from `y`.

The loop is where this is not obvious, since it carries a budget of turns and the
positions it has been at.  Turns that lead beyond the beginning change both, and
`twins_loopEnds` shows that they never influence a turn within it.

`Pattern.exists_twins_find` is the form for whole rules: where a pattern cannot read
beyond the beginning at all, it has a match on both sides or on none, and the two are
twins again.
-/

namespace Highlighter

/-! ## Twins -/

/-- Two places at the same point of a common beginning, before `x` and before `y`. -/
structure Place.Twins (x y : Text) (a b : Place) : Prop where
  /-- What is left of the beginning is the same. -/
  rest : ∃ u : Text, a.rest = u ++ x ∧ b.rest = u ++ y
  /-- The character before is the same. -/
  before : b.before = a.before
  /-- The offset is the same. -/
  offset : b.offset = a.offset
  /-- The captures are the same. -/
  captures : b.captures = a.captures
  /-- The marks are the same. -/
  marks : b.marks = a.marks

/-- Whether a place is not yet beyond the beginning that `x` follows. -/
def Place.within (x : Text) (a : Place) : Bool := decide (x.length ≤ a.rest.length)

section Twins

variable {x y : Text} {a b : Place}

theorem Place.Twins.within_left (h : a.Twins x y b) : a.within x = true := by
  obtain ⟨u, hu, -⟩ := h.rest
  simp [Place.within, hu]

theorem Place.Twins.within_right (h : a.Twins x y b) : b.within y = true := by
  obtain ⟨u, -, hu⟩ := h.rest
  simp [Place.within, hu]

theorem Place.twins_start (u : Text) :
    (Place.start (u ++ x)).Twins x y (Place.start (u ++ y)) :=
  ⟨⟨u, rfl, rfl⟩, rfl, rfl, rfl, rfl⟩

theorem Place.Twins.advance (h : a.Twins x y b) (c : Char) (u : Text) :
    (a.advance c (u ++ x)).Twins x y (b.advance c (u ++ y)) :=
  ⟨⟨u, rfl, rfl⟩, rfl, by simp [Place.advance, h.offset], h.captures, rfl⟩

theorem Place.Twins.capture (h : a.Twins x y b) (index : Nat) {a' b' : Place}
    (h' : a'.Twins x y b') :
    (a'.capture index a.offset).Twins x y (b'.capture index b.offset) :=
  ⟨h'.rest, h'.before, h'.offset, by simp [Place.capture, h.offset, h'.offset, h'.captures],
    h'.marks⟩

theorem Place.Twins.mark (h : a.Twins x y b) (id : Nat) :
    ({ a with marks := id :: a.marks } : Place).Twins x y { b with marks := id :: b.marks } :=
  ⟨h.rest, h.before, h.offset, h.captures, by simp [h.marks]⟩

/-- A place read from one beyond the beginning is beyond it too. -/
theorem Place.Reads.within_eq_false {u : Text} (h : a.Reads u b) (ha : a.within x = false) :
    b.within x = false := by
  rw [Place.within, decide_eq_false_iff_not] at ha ⊢
  have := h.rest
  rw [this, List.length_append] at ha
  omega

end Twins

/-- The ends within the beginnings, in their order, are twins. -/
def TwinEnds (x y : Text) (l m : List Place) : Prop :=
  List.Forall₂ (Place.Twins x y) (l.filter (Place.within x)) (m.filter (Place.within y))

section TwinEnds

variable {x y : Text} {a b : Place} {l m l' m' : List Place}

theorem TwinEnds.nil : TwinEnds x y [] [] := List.Forall₂.nil

theorem TwinEnds.cons (h : a.Twins x y b) (hl : TwinEnds x y l m) :
    TwinEnds x y (a :: l) (b :: m) := by
  rw [TwinEnds, List.filter_cons_of_pos h.within_left, List.filter_cons_of_pos h.within_right]
  exact .cons h hl

theorem TwinEnds.singleton (h : a.Twins x y b) : TwinEnds x y [a] [b] := .cons h .nil

theorem TwinEnds.append (h : TwinEnds x y l m) (h' : TwinEnds x y l' m') :
    TwinEnds x y (l ++ l') (m ++ m') := by
  rw [TwinEnds, List.filter_append, List.filter_append]
  exact List.rel_append h h'

theorem TwinEnds.reverse (h : TwinEnds x y l m) : TwinEnds x y l.reverse m.reverse := by
  rw [TwinEnds, List.filter_reverse, List.filter_reverse]
  exact List.rel_reverse h

theorem TwinEnds.filter {p q : Place → Bool} (h : TwinEnds x y l m)
    (hpq : ∀ a b, a.Twins x y b → p a = q b) : TwinEnds x y (l.filter p) (m.filter q) := by
  have hcomm : ∀ (z : Text) (r : Place → Bool) (k : List Place),
      (k.filter r).filter (Place.within z) = (k.filter (Place.within z)).filter r := by
    intro z r k
    rw [List.filter_filter, List.filter_filter]
    simp only [Bool.and_comm]
  rw [TwinEnds, hcomm, hcomm]
  exact List.rel_filter (fun a b hab => by simp only [hpq a b hab]) h

/-- Ends beyond the beginning do not count. -/
theorem twinEnds_of_beyond (hl : ∀ e ∈ l, e.within x = false) (hm : ∀ e ∈ m, e.within y = false) :
    TwinEnds x y l m := by
  have hnil : ∀ {z : Text} {k : List Place}, (∀ e ∈ k, e.within z = false) →
      k.filter (Place.within z) = [] := by
    intro z k hk
    rw [List.filter_eq_nil_iff]
    exact fun e he => by simp [hk e he]
  rw [TwinEnds, hnil hl, hnil hm]
  exact .nil

/-- Where nothing leads back within the beginning, only the places within it count. -/
theorem filter_within_flatMap {f : Place → List Place}
    (h : ∀ e, e.within x = false → ∀ e' ∈ f e, e'.within x = false) :
    (l.flatMap f).filter (Place.within x) =
      (l.filter (Place.within x)).flatMap fun e => (f e).filter (Place.within x) := by
  induction l with
  | nil => rfl
  | cons e l ih =>
    rw [List.flatMap_cons, List.filter_append, ih]
    cases he : e.within x with
    | true => rw [List.filter_cons_of_pos he, List.flatMap_cons]
    | false =>
      have hnil : (f e).filter (Place.within x) = [] := by
        rw [List.filter_eq_nil_iff]
        exact fun e' he' => by simp [h e he e' he']
      rw [List.filter_cons_of_neg (by simp [he]), hnil, List.nil_append]

theorem TwinEnds.flatMap {f g : Place → List Place} (h : TwinEnds x y l m)
    (hf : ∀ e, e.within x = false → ∀ e' ∈ f e, e'.within x = false)
    (hg : ∀ e, e.within y = false → ∀ e' ∈ g e, e'.within y = false)
    (hfg : ∀ a b, a.Twins x y b → TwinEnds x y (f a) (g b)) :
    TwinEnds x y (l.flatMap f) (m.flatMap g) := by
  rw [TwinEnds, filter_within_flatMap hf, filter_within_flatMap hg]
  exact List.rel_flatMap h fun a b hab => hfg a b hab

end TwinEnds

/-! ## Loops -/

/-- A place of a match whose beginning ends at the offset `edge`, where `x` follows. -/
structure Place.On (edge : Nat) (x : Text) (a : Place) : Prop where
  /-- The offset and what is left add up. -/
  total : a.offset + a.rest.size = edge + x.size
  /-- What is left ends with `x` or is an end of it. -/
  suffix : a.rest <:+ x ∨ x <:+ a.rest

section Loops

variable {x y : Text} {a b e : Place} {edge : Nat} {body : Place → List Place} {greedy : Bool}
variable {turns turns' : Nat}

theorem Place.On.offset_le (h : a.On edge x) (ha : a.within x = true) : a.offset ≤ edge := by
  have hle : x.length ≤ a.rest.length := by simpa [Place.within] using ha
  have hsuffix : x <:+ a.rest := by
    rcases h.suffix with hs | hs
    · exact hs.eq_of_length_le hle ▸ List.suffix_refl a.rest
    · exact hs
  obtain ⟨u, hu⟩ := hsuffix
  have htotal := h.total
  rw [← hu, Text.size_append] at htotal
  omega

theorem Place.On.lt_offset (h : a.On edge x) (ha : a.within x = false) : edge < a.offset := by
  have hlt : a.rest.length < x.length := by simpa [Place.within] using ha
  rcases h.suffix with ⟨u, hu⟩ | hs
  · have hne : u ≠ [] := by
      rintro rfl
      rw [List.nil_append] at hu
      rw [hu] at hlt
      exact Nat.lt_irrefl _ hlt
    have hpos := Text.size_pos hne
    have htotal := h.total
    rw [← hu, Text.size_append] at htotal
    omega
  · have := hs.length_le
    omega

theorem Place.On.of_reads {u : Text} (h : a.On edge x) (hr : a.Reads u e) : e.On edge x where
  total := by
    have htotal := h.total
    rw [hr.rest, Text.size_append] at htotal
    rw [hr.offset]
    omega
  suffix := by
    have hs : e.rest <:+ a.rest := ⟨u, hr.rest.symm⟩
    rcases h.suffix with h | h
    · exact Or.inl (hs.trans h)
    · exact List.suffix_or_suffix_of_suffix hs h

/-- Every end of a body is read from the place where it starts. -/
def ReadsOn (body : Place → List Place) : Prop := ∀ a, ∀ e ∈ body a, ∃ u, a.Reads u e

/-- One turn of a loop added to what was collected before. -/
def loopTurn (body : Place → List Place) (greedy : Bool) (turns : Nat)
    (acc : List Nat × List Place) (next : Place) : List Nat × List Place :=
  let (seen, more) := loopEnds body greedy turns acc.1 next
  (seen, acc.2 ++ more)

/-- A loop with enough turns, at a place it has not been at. -/
theorem loopEnds_eq {seen : List Nat} (hturns : a.rest.length ≤ turns)
    (hseen : seen.contains a.offset = false) :
    loopEnds body greedy turns seen a =
      let acc := ((body a).filter (·.rest.length < a.rest.length)).foldl
        (loopTurn body greedy (turns - 1)) (a.offset :: seen, [])
      (acc.1, if greedy then acc.2 ++ [a] else a :: acc.2) := by
  unfold loopEnds
  rw [if_neg (by rw [hseen]; exact Bool.false_ne_true)]
  cases turns with
  | zero =>
    have hnone : (body a).filter (·.rest.length < a.rest.length) = [] := by
      rw [List.filter_eq_nil_iff]
      intro e _
      simp only [decide_eq_true_eq]
      omega
    simp only [hnone, List.foldl_nil]
    cases greedy <;> rfl
  | succ turns => rfl

theorem loopEnds_of_seen {seen : List Nat} (hseen : seen.contains a.offset = true) :
    loopEnds body greedy turns seen a = (seen, []) := by
  unfold loopEnds
  rw [if_pos hseen]

/-- A loop only adds positions from where it starts on. -/
theorem mem_seen_loopEnds (hbody : ReadsOn body) (greedy : Bool) :
    ∀ turns seen a, (∀ o ∈ seen, o ∈ (loopEnds body greedy turns seen a).1) ∧
      ∀ o ∈ (loopEnds body greedy turns seen a).1, o ∈ seen ∨ a.offset ≤ o := by
  intro turns
  induction turns with
  | zero =>
    intro seen a
    unfold loopEnds
    split
    · exact ⟨fun o ho => ho, fun o ho => Or.inl ho⟩
    · refine ⟨fun o ho => List.mem_cons_of_mem _ ho, fun o ho => ?_⟩
      rcases List.mem_cons.mp ho with rfl | ho
      · exact Or.inr (Nat.le_refl _)
      · exact Or.inl ho
  | succ turns ih =>
    intro seen a
    have hfold : ∀ (onward : List Place) (acc : List Nat × List Place),
        (∀ e ∈ onward, a.offset ≤ e.offset) →
        (∀ o ∈ acc.1, o ∈ (onward.foldl (loopTurn body greedy turns) acc).1) ∧
          ∀ o ∈ (onward.foldl (loopTurn body greedy turns) acc).1, o ∈ acc.1 ∨ a.offset ≤ o := by
      intro onward
      induction onward with
      | nil => exact fun acc _ => ⟨fun o ho => ho, fun o ho => Or.inl ho⟩
      | cons e onward ihfold =>
        intro acc hge
        obtain ⟨hkeep, hnew⟩ := ih acc.1 e
        obtain ⟨hkeep', hnew'⟩ := ihfold (loopTurn body greedy turns acc e)
          fun e' he' => hge e' (List.mem_cons_of_mem e he')
        refine ⟨fun o ho => hkeep' o (hkeep o ho), fun o ho => ?_⟩
        rcases hnew' o ho with ho | ho
        · rcases hnew o ho with ho | ho
          · exact Or.inl ho
          · exact Or.inr (Nat.le_trans (hge e (List.mem_cons_self ..)) ho)
        · exact Or.inr ho
    unfold loopEnds
    split
    · exact ⟨fun o ho => ho, fun o ho => Or.inl ho⟩
    · obtain ⟨hkeep, hnew⟩ := hfold ((body a).filter (·.rest.length < a.rest.length))
        (a.offset :: seen, []) fun e he => by
          obtain ⟨u, hu⟩ := hbody a e (List.mem_filter.mp he).1
          rw [hu.offset]
          omega
      refine ⟨fun o ho => hkeep o (List.mem_cons_of_mem _ ho), fun o ho => ?_⟩
      rcases hnew o ho with ho | ho
      · rcases List.mem_cons.mp ho with rfl | ho
        · exact Or.inr (Nat.le_refl _)
        · exact Or.inl ho
      · exact Or.inr ho

/-- What a loop collects on two sides: the positions agree up to the edge, and the ends within
the beginning are twins. -/
def Collected (edge : Nat) (x y : Text) (acc acc' : List Nat × List Place) : Prop :=
  (∀ o ≤ edge, o ∈ acc.1 ↔ o ∈ acc'.1) ∧ TwinEnds x y acc.2 acc'.2

/-- A turn beyond the beginning changes nothing up to the edge. -/
theorem loopTurn_beyond (greedy : Bool) (turns : Nat) (hbody : ReadsOn body) (he : e.On edge x)
    (hbeyond : e.within x = false) (acc : List Nat × List Place) :
    (∀ o ≤ edge, o ∈ (loopTurn body greedy turns acc e).1 ↔ o ∈ acc.1) ∧
      (loopTurn body greedy turns acc e).2.filter (Place.within x) =
        acc.2.filter (Place.within x) := by
  obtain ⟨hkeep, hnew⟩ := mem_seen_loopEnds hbody greedy turns acc.1 e
  have hends : ∀ e' ∈ (loopEnds body greedy turns acc.1 e).2,
      e.within x = false → e'.within x = false :=
    loopEnds_induction (P := fun a e => a.within x = false → e.within x = false) (fun _ ha => ha)
      (fun a b c hb _ hbc ha => by
        obtain ⟨u, hu⟩ := hbody a b hb
        exact hbc (hu.within_eq_false ha)) turns acc.1 e
  have hnil : (loopEnds body greedy turns acc.1 e).2.filter (Place.within x) = [] := by
    rw [List.filter_eq_nil_iff]
    exact fun e' he' => by simp [hends e' he' hbeyond]
  refine ⟨fun o ho => ⟨fun hmem => ?_, fun hmem => hkeep o hmem⟩, ?_⟩
  · rcases hnew o hmem with hmem | hle
    · exact hmem
    · have := he.lt_offset hbeyond
      omega
  · show (acc.2 ++ (loopEnds body greedy turns acc.1 e).2).filter (Place.within x) = _
    rw [List.filter_append, hnil, List.append_nil]

/-- Collecting over places that are twins within the beginning. -/
theorem collected_foldl (greedy : Bool) (turns turns' : Nat) (hbody : ReadsOn body) :
    ∀ {l m : List Place} {acc acc' : List Nat × List Place}, (∀ e ∈ l, e.On edge x) →
      (∀ e ∈ m, e.On edge y) →
      (∀ a ∈ l, ∀ b ∈ m, a.Twins x y b → ∀ seen seen', (∀ o ≤ edge, o ∈ seen ↔ o ∈ seen') →
        Collected edge x y (loopEnds body greedy turns seen a)
          (loopEnds body greedy turns' seen' b)) →
      TwinEnds x y l m → Collected edge x y acc acc' →
      Collected edge x y (l.foldl (loopTurn body greedy turns) acc)
        (m.foldl (loopTurn body greedy turns') acc') := by
  intro l
  induction l with
  | nil =>
    intro m
    induction m with
    | nil => exact fun _ _ _ _ hacc => hacc
    | cons b m ih =>
      intro acc acc' hl hm hturn hends ⟨hseen, hacc⟩
      have hb : b.within y = false := by
        by_contra hwithin
        rw [TwinEnds, List.filter_cons_of_pos (by simpa using hwithin)] at hends
        cases hends
      obtain ⟨hseen', hfilter⟩ := loopTurn_beyond greedy turns' hbody
        (hm b (List.mem_cons_self ..)) hb acc'
      rw [List.foldl_cons]
      refine ih hl (fun e he => hm e (List.mem_cons_of_mem b he)) (by simp) ?_ ⟨fun o ho => ?_, ?_⟩
      · rwa [TwinEnds, List.filter_cons_of_neg (by simp [hb])] at hends
      · rw [hseen o ho, hseen' o ho]
      · rw [TwinEnds, hfilter]
        exact hacc
  | cons a l ihl =>
    intro m
    cases ha : a.within x with
    | false =>
      intro acc acc' hl hm hturn hends ⟨hseen, hacc⟩
      obtain ⟨hseen', hfilter⟩ := loopTurn_beyond greedy turns hbody
        (hl a (List.mem_cons_self ..)) ha acc
      rw [List.foldl_cons]
      refine ihl (fun e he => hl e (List.mem_cons_of_mem a he)) hm
        (fun a' ha' => hturn a' (List.mem_cons_of_mem a ha')) ?_ ⟨fun o ho => ?_, ?_⟩
      · rwa [TwinEnds, List.filter_cons_of_neg (by simp [ha])] at hends
      · rw [← hseen o ho, hseen' o ho]
      · rw [TwinEnds, hfilter]
        exact hacc
    | true =>
      induction m with
      | nil =>
        intro acc acc' hl hm hturn hends
        rw [TwinEnds, List.filter_cons_of_pos ha] at hends
        cases hends
      | cons b m ihm =>
        intro acc acc' hl hm hturn hends ⟨hseen, hacc⟩
        cases hb : b.within y with
        | false =>
          obtain ⟨hseen', hfilter⟩ := loopTurn_beyond greedy turns' hbody
            (hm b (List.mem_cons_self ..)) hb acc'
          show Collected edge x y _ (m.foldl (loopTurn body greedy turns')
            (loopTurn body greedy turns' acc' b))
          refine ihm hl (fun e he => hm e (List.mem_cons_of_mem b he))
            (fun a' ha' b' hb' => hturn a' ha' b' (List.mem_cons_of_mem b hb')) ?_
            ⟨fun o ho => ?_, ?_⟩
          · rwa [TwinEnds, List.filter_cons_of_neg (a := b) (by simp [hb])] at hends
          · rw [hseen o ho, hseen' o ho]
          · rw [TwinEnds, hfilter]
            exact hacc
        | true =>
          rw [TwinEnds, List.filter_cons_of_pos ha, List.filter_cons_of_pos hb] at hends
          obtain ⟨htwins, hends⟩ := List.forall₂_cons.mp hends
          obtain ⟨hseen', hmore⟩ := hturn a (List.mem_cons_self ..) b (List.mem_cons_self ..) htwins
            acc.1 acc'.1 hseen
          rw [List.foldl_cons, List.foldl_cons]
          exact ihl (fun e he => hl e (List.mem_cons_of_mem a he))
            (fun e he => hm e (List.mem_cons_of_mem b he))
            (fun a' ha' b' hb' => hturn a' (List.mem_cons_of_mem a ha') b'
              (List.mem_cons_of_mem b hb')) hends ⟨hseen', hacc.append hmore⟩

/-- A loop whose body keeps twins keeps them, whatever else it has been at beyond the edge. -/
theorem twins_loopEnds (hbody : ReadsOn body)
    (htwins : ∀ a b, a.Twins x y b → TwinEnds x y (body a) (body b)) :
    ∀ turns turns' seen seen' a b, a.Twins x y b → a.On edge x → b.On edge y →
      a.rest.length ≤ turns → b.rest.length ≤ turns' → (∀ o ≤ edge, o ∈ seen ↔ o ∈ seen') →
      Collected edge x y (loopEnds body greedy turns seen a)
        (loopEnds body greedy turns' seen' b) := by
  intro turns
  induction turns using Nat.strongRecOn with
  | _ turns ih =>
  intro turns' seen seen' a b h ha hb hturns hturns' hseen
  have hedge := ha.offset_le h.within_left
  have hcontains : seen'.contains b.offset = seen.contains a.offset := by
    rw [h.offset, Bool.eq_iff_iff, List.contains_iff_mem, List.contains_iff_mem]
    exact (hseen _ hedge).symm
  cases hc : seen.contains a.offset with
  | true =>
    rw [hc] at hcontains
    rw [loopEnds_of_seen hc, loopEnds_of_seen hcontains]
    exact ⟨hseen, .nil⟩
  | false =>
    rw [hc] at hcontains
    rw [loopEnds_eq hturns hc, loopEnds_eq hturns' hcontains]
    obtain ⟨u, hua, hub⟩ := h.rest
    have honward : TwinEnds x y ((body a).filter (·.rest.length < a.rest.length))
        ((body b).filter (·.rest.length < b.rest.length)) := by
      refine (htwins a b h).filter fun a' b' h' => ?_
      obtain ⟨u', hua', hub'⟩ := h'.rest
      simp only [hua, hub, hua', hub', List.length_append, Nat.add_lt_add_iff_right]
    have hstart : Collected edge x y (a.offset :: seen, []) (b.offset :: seen', []) :=
      ⟨fun o ho => by rw [List.mem_cons, List.mem_cons, h.offset, hseen o ho], .nil⟩
    have hfold := collected_foldl greedy (turns - 1) (turns' - 1) hbody
      (l := (body a).filter (·.rest.length < a.rest.length))
      (m := (body b).filter (·.rest.length < b.rest.length))
      (fun e he => by
        obtain ⟨v, hv⟩ := hbody a e (List.mem_filter.mp he).1
        exact ha.of_reads hv)
      (fun e he => by
        obtain ⟨v, hv⟩ := hbody b e (List.mem_filter.mp he).1
        exact hb.of_reads hv)
      (fun a' ha' b' hb' h' seen₁ seen₂ hseen₁ => by
        obtain ⟨ha', hlt⟩ := List.mem_filter.mp ha'
        obtain ⟨hb', hlt'⟩ := List.mem_filter.mp hb'
        simp only [decide_eq_true_eq] at hlt hlt'
        obtain ⟨v, hv⟩ := hbody a a' ha'
        obtain ⟨w, hw⟩ := hbody b b' hb'
        exact ih (turns - 1) (by omega) (turns' - 1) seen₁ seen₂ a' b' h' (ha.of_reads hv)
          (hb.of_reads hw) (by omega) (by omega) hseen₁)
      honward hstart
    refine ⟨hfold.1, ?_⟩
    cases greedy with
    | true => exact hfold.2.append (.singleton h)
    | false => exact .cons h hfold.2

end Loops

/-! ## Runs of a set -/

/-- The ends of a run are those beyond a place, the place, and those given. -/
theorem runEnds_eq (s : CharSet) : ∀ (t : Text) (a : Place) (shorter : List Place),
    ∃ longer, runEnds s t a shorter = longer ++ a :: shorter ∧
      ∀ e ∈ longer, e.rest.length < t.length
  | [], a, shorter => ⟨[], rfl, by simp⟩
  | c :: rest, a, shorter => by
    rw [runEnds]
    split
    · obtain ⟨longer, heq, hlong⟩ := runEnds_eq s rest (a.advance c rest) (a :: shorter)
      refine ⟨longer ++ [a.advance c rest], by rw [heq]; simp, ?_⟩
      intro e he
      rcases List.mem_append.mp he with he | he
      · have := hlong e he
        rw [List.length_cons]
        omega
      · rw [List.mem_singleton.mp he]
        simp [Place.advance]
    · exact ⟨[], rfl, by simp⟩

theorem twinEnds_runEnds {x y : Text} (s : CharSet) :
    ∀ (u : Text) {a b : Place} {shorter shorter' : List Place}, a.Twins x y b →
      TwinEnds x y shorter shorter' →
      TwinEnds x y (runEnds s (u ++ x) a shorter) (runEnds s (u ++ y) b shorter')
  | [], a, b, shorter, shorter', h, hshorter => by
    obtain ⟨longer, heq, hlong⟩ := runEnds_eq s x a shorter
    obtain ⟨longer', heq', hlong'⟩ := runEnds_eq s y b shorter'
    have hbeyond : ∀ {z : Text} {k : List Place}, (∀ e ∈ k, e.rest.length < z.length) →
        ∀ e ∈ k, e.within z = false := by
      intro z k hk e he
      have := hk e he
      simpa [Place.within] using this
    rw [List.nil_append, List.nil_append, heq, heq']
    exact (twinEnds_of_beyond (hbeyond hlong) (hbeyond hlong')).append (.cons h hshorter)
  | c :: u, a, b, shorter, shorter', h, hshorter => by
    rw [List.cons_append, List.cons_append, runEnds, runEnds]
    split
    · exact twinEnds_runEnds s u (h.advance c u) (.cons h hshorter)
    · exact .cons h hshorter

/-! ## Patterns -/

/-- Whether two assertions about what comes after a place agree, whatever comes before. -/
def Assertion.Blind (a : Assertion) (c d : Option Char) : Prop :=
  ∀ before, a.holds before c = a.holds before d

/-- No test in a pattern tells two characters apart that may come after a place. -/
def Pattern.Blind (c d : Option Char) : Pattern → Prop
  | .empty => True
  | .one _ => True
  | .many _ _ => True
  | .check a => a.Blind c d
  | .mark _ => True
  | .group _ p => p.Blind c d
  | .seq p q => p.Blind c d ∧ q.Blind c d
  | .alt p q => p.Blind c d ∧ q.Blind c d
  | .loop _ p => p.Blind c d

theorem Pattern.blind_refl (c : Option Char) : ∀ p : Pattern, p.Blind c c
  | .empty => trivial
  | .one _ => trivial
  | .many _ _ => trivial
  | .check _ => fun _ => rfl
  | .mark _ => trivial
  | .group _ p => blind_refl c p
  | .seq p q => ⟨blind_refl c p, blind_refl c q⟩
  | .alt p q => ⟨blind_refl c p, blind_refl c q⟩
  | .loop _ p => blind_refl c p

theorem Pattern.within_eq_false (p : Pattern) {x : Text} {a : Place}
    (ha : a.within x = false) : ∀ e ∈ p.run a, e.within x = false := by
  intro e he
  obtain ⟨u, hu, -⟩ := p.exists_reads a e he
  exact hu.within_eq_false ha

/-- The ends within a common beginning are the same, whatever comes after it. -/
theorem Pattern.twins_run {x y : Text} (p : Pattern) (hp : p.Blind x.head? y.head?) :
    ∀ a b, a.Twins x y b → TwinEnds x y (p.run a) (p.run b) := by
  induction p with
  | empty => exact fun a b h => .singleton h
  | one s =>
    intro a b h
    obtain ⟨u, hua, hub⟩ := h.rest
    cases u with
    | nil =>
      have hbeyond : ∀ {z : Text} {e : Place}, e.rest = z → ∀ e' ∈ (Pattern.one s).run e,
          e'.within z = false := by
        intro z e he e' he'
        have hlt := (Pattern.one s).rest_length_lt_of_consumes rfl e e' he'
        rw [he] at hlt
        simpa [Place.within] using hlt
      exact twinEnds_of_beyond (hbeyond hua) (hbeyond hub)
    | cons c u =>
      simp only [Pattern.run, hua, hub, List.cons_append]
      split
      · exact .singleton (h.advance c u)
      · exact .nil
  | many greedy s =>
    intro a b h
    obtain ⟨u, hua, hub⟩ := h.rest
    have hends := twinEnds_runEnds s u h .nil
    simp only [Pattern.run, hua, hub]
    cases greedy with
    | true => exact hends
    | false => exact hends.reverse
  | check c =>
    intro a b h
    obtain ⟨u, hua, hub⟩ := h.rest
    have hholds : c.holds b.before b.rest.head? = c.holds a.before a.rest.head? := by
      rw [h.before, hua, hub]
      cases u with
      | nil => exact (hp a.before).symm
      | cons d u => rfl
    simp only [Pattern.run, hholds]
    split
    · exact .singleton h
    · exact .nil
  | mark id =>
    intro a b h
    simp only [Pattern.run, h.marks]
    split
    · exact .nil
    · have hmark := h.mark id
      rw [h.marks] at hmark
      exact .singleton hmark
  | group index p ih =>
    intro a b h
    have hmap : ∀ (z : Text) (e : Place) (l : List Place),
        (l.map (Place.capture index e.offset)).filter (Place.within z) =
          (l.filter (Place.within z)).map (Place.capture index e.offset) := by
      intro z e l
      rw [List.filter_map]
      rfl
    rw [Pattern.run, Pattern.run, TwinEnds, hmap, hmap, List.forall₂_map_left_iff,
      List.forall₂_map_right_iff]
    exact (ih hp a b h).imp fun a' b' h' => h.capture index h'
  | seq p q ihp ihq =>
    intro a b h
    exact (ihp hp.1 a b h).flatMap (fun e he => q.within_eq_false he)
      (fun e he => q.within_eq_false he) (ihq hp.2)
  | alt p q ihp ihq => exact fun a b h => (ihp hp.1 a b h).append (ihq hp.2 a b h)
  | loop greedy p ih =>
    intro a b h
    obtain ⟨u, hua, hub⟩ := h.rest
    have hreads : ReadsOn p.run := fun a e he => by
      obtain ⟨u, hu, -⟩ := p.exists_reads a e he
      exact ⟨u, hu⟩
    have ha : a.On (a.offset + u.size) x :=
      ⟨by rw [hua, Text.size_append]; omega, Or.inr ⟨u, hua.symm⟩⟩
    have hb : b.On (a.offset + u.size) y :=
      ⟨by rw [hub, h.offset, Text.size_append]; omega, Or.inr ⟨u, hub.symm⟩⟩
    exact (twins_loopEnds hreads (ih hp) _ _ [] [] a b h ha hb (Nat.le_refl _) (Nat.le_refl _)
      fun o _ => Iff.rfl).2

/-! ## Staying within the beginning -/

/-- No match of a pattern that starts before `x` reads into it. -/
def Pattern.Stays (x : Text) (p : Pattern) : Prop :=
  ∀ a, x <:+ a.rest → ∀ e ∈ p.run a, e.within x = true

theorem Pattern.stays_nil (p : Pattern) : p.Stays [] := by
  intro a _ e _
  simp [Place.within]

/-- What is read from a place and beyond the beginning has the first character after it. -/
theorem Place.Reads.exists_of_beyond {a e : Place} {u x : Text} (h : a.Reads u e)
    (hx : x <:+ a.rest) (he : e.within x = false) :
    ∃ w v : Text, u = w ++ v ∧ v ≠ [] ∧ x = v ++ e.rest := by
  obtain ⟨w, hw⟩ := hx
  have hlt : e.rest.length < x.length := by simpa [Place.within] using he
  have heq : w ++ x = u ++ e.rest := hw.trans h.rest
  rcases List.append_eq_append_iff.mp heq with ⟨v, hu, hv⟩ | ⟨v, hw', hv⟩
  · refine ⟨w, v, hu, ?_, hv⟩
    rintro rfl
    rw [hv, List.nil_append] at hlt
    exact Nat.lt_irrefl _ hlt
  · rw [hv, List.length_append] at hlt
    omega

/-- A pattern that does not accept the first character after the beginning stays within it. -/
theorem Pattern.stays_of_accepts {p : Pattern} {c : Char} (h : p.accepts c = false) (x : Text) :
    p.Stays (c :: x) := by
  intro a hx e he
  obtain ⟨u, hu, hall⟩ := p.exists_reads a e he
  by_contra hbeyond
  obtain ⟨w, v, rfl, hne, heq⟩ := hu.exists_of_beyond hx (by simpa using hbeyond)
  obtain ⟨d, v, rfl⟩ := List.exists_cons_of_ne_nil hne
  rw [List.cons_append, List.cons.injEq] at heq
  obtain ⟨rfl, -⟩ := heq
  rw [hall c (by simp)] at h
  exact Bool.noConfusion h

/-- Whether a match of a pattern may end with a character. -/
def Pattern.endsIn : Pattern → Char → Bool
  | .empty, _ => false
  | .one s, c => s.holds c
  | .many _ s, c => s.holds c
  | .check _, _ => false
  | .mark _, _ => false
  | .group _ p, c => p.endsIn c
  | .seq p q, c => q.endsIn c || (!q.consumes && p.endsIn c)
  | .alt p q, c => p.endsIn c || q.endsIn c
  | .loop _ p, c => p.endsIn c

theorem Pattern.endsIn_of_reads (p : Pattern) :
    ∀ a, ∀ e ∈ p.run a, ∃ u, a.Reads u e ∧ ∀ c ∈ u.getLast?, p.endsIn c = true := by
  induction p with
  | empty =>
    intro a e he
    rw [List.mem_singleton.mp he]
    exact ⟨[], .refl a, by simp⟩
  | one s =>
    intro a e he
    obtain ⟨u, hu, hall⟩ := (Pattern.one s).exists_reads a e he
    exact ⟨u, hu, fun c hc => hall c (List.mem_of_getLast? hc)⟩
  | many greedy s =>
    intro a e he
    obtain ⟨u, hu, hall⟩ := (Pattern.many greedy s).exists_reads a e he
    exact ⟨u, hu, fun c hc => hall c (List.mem_of_getLast? hc)⟩
  | check c =>
    intro a e he
    simp only [Pattern.run] at he
    split at he
    · rw [List.mem_singleton.mp he]
      exact ⟨[], .refl a, by simp⟩
    · simp at he
  | mark id =>
    intro a e he
    simp only [Pattern.run] at he
    split at he
    · simp at he
    · rw [List.mem_singleton.mp he]
      exact ⟨[], ⟨rfl, rfl, rfl, fun _ hg => Or.inl hg⟩, by simp⟩
  | group index p ih =>
    intro a e he
    obtain ⟨e', he', rfl⟩ := List.mem_map.mp he
    obtain ⟨u, hu, hlast⟩ := ih a e' he'
    exact ⟨u, hu.capture index, hlast⟩
  | seq p q ihp ihq =>
    intro a e he
    obtain ⟨b, hb, he⟩ := List.mem_flatMap.mp he
    obtain ⟨u, hu, hlastu⟩ := ihp a b hb
    obtain ⟨v, hv, hlastv⟩ := ihq b e he
    refine ⟨u ++ v, hu.trans hv, fun c hc => ?_⟩
    cases v with
    | nil =>
      have hconsumes : q.consumes = false := by
        by_contra hcons
        exact Pattern.ne_nil_of_reads (by simpa using hcons) he hv rfl
      rw [List.append_nil] at hc
      simp [Pattern.endsIn, hconsumes, hlastu c hc]
    | cons d v =>
      rw [List.getLast?_append_of_ne_nil _ (by simp)] at hc
      simp [Pattern.endsIn, hlastv c hc]
  | alt p q ihp ihq =>
    intro a e he
    rcases List.mem_append.mp he with he | he
    · obtain ⟨u, hu, hlast⟩ := ihp a e he
      exact ⟨u, hu, fun c hc => by simp [Pattern.endsIn, hlast c hc]⟩
    · obtain ⟨u, hu, hlast⟩ := ihq a e he
      exact ⟨u, hu, fun c hc => by simp [Pattern.endsIn, hlast c hc]⟩
  | loop greedy p ih =>
    intro a e he
    refine loopEnds_induction
      (P := fun a e => ∃ u, a.Reads u e ∧ ∀ c ∈ u.getLast?, p.endsIn c = true)
      (fun a => ⟨[], .refl a, by simp⟩) ?_ _ _ a e he
    rintro a b e hb - ⟨v, hv, hlastv⟩
    obtain ⟨u, hu, hlastu⟩ := ih a b hb
    refine ⟨u ++ v, hu.trans hv, fun c hc => ?_⟩
    cases v with
    | nil => exact hlastu c (by simpa using hc)
    | cons d v =>
      rw [List.getLast?_append_of_ne_nil _ (by simp)] at hc
      exact hlastv c hc

/-- What is read beyond the beginning, but not up to the second character after it, ends with the
first one. -/
theorem Place.Reads.eq_of_beyond {a e : Place} {u x : Text} {c d : Char} (h : a.Reads u e)
    (hx : c :: d :: x <:+ a.rest) (he : e.within (c :: d :: x) = false) (hd : d ∉ u) :
    ∃ w : Text, a.rest = w ++ c :: d :: x ∧ u = w ++ [c] := by
  obtain ⟨w, v, rfl, hne, heq⟩ := h.exists_of_beyond hx he
  have hrest : a.rest = w ++ c :: d :: x := by
    rw [h.rest, List.append_assoc, ← heq]
  match v, hne, heq with
  | [c'], _, heq =>
    obtain ⟨rfl, -⟩ := List.cons.inj heq
    exact ⟨w, hrest, rfl⟩
  | c' :: d' :: v, _, heq =>
    obtain ⟨-, htail⟩ := List.cons.inj heq
    obtain ⟨rfl, -⟩ := List.cons.inj htail
    exact absurd (by simp) hd

/-- A pattern that neither ends with the first character after the beginning nor accepts the
second stays within it. -/
theorem Pattern.stays_of_endsIn {p : Pattern} {c d : Char} (hc : p.endsIn c = false)
    (hd : p.accepts d = false) (x : Text) : p.Stays (c :: d :: x) := by
  intro a hx e he
  obtain ⟨u, hu, hlast⟩ := p.endsIn_of_reads a e he
  obtain ⟨u', hu', hall⟩ := p.exists_reads a e he
  obtain rfl := hu.unique hu'
  by_contra hbeyond
  have hmem : d ∉ u := fun hmem => by
    rw [hall d hmem] at hd
    exact Bool.noConfusion hd
  obtain ⟨w, -, rfl⟩ := hu.eq_of_beyond hx (by simpa using hbeyond) hmem
  rw [hlast c (by simp)] at hc
  exact Bool.noConfusion hc

/-! ## Matches -/

/-- Two matches that end at the same point of a common beginning. -/
structure Match.Twins (x y : Text) (m m' : Match) : Prop where
  /-- They start at the same position. -/
  start : m'.start = m.start
  /-- They stop at the same position. -/
  stop : m'.stop = m.stop
  /-- They have the same captures. -/
  captures : m'.captures = m.captures
  /-- What is left of the beginning is the same. -/
  rest : ∃ u : Text, m.rest = u ++ x ∧ m'.rest = u ++ y

theorem Match.Twins.isEmpty {x y : Text} {m m' : Match} (h : m.Twins x y m') :
    m'.isEmpty = m.isEmpty := by
  rw [Match.isEmpty, Match.isEmpty, h.start, h.stop]

/-- Where no match of a pattern reads beyond a common beginning of two texts, the pattern has the
same match in both. -/
theorem Pattern.twins_find_of_within {x y : Text} {p : Pattern} (hblind : p.Blind x.head? y.head?)
    {u : Text} (hx : ∀ e ∈ p.run (Place.start (u ++ x)), e.within x = true)
    (hy : ∀ e ∈ p.run (Place.start (u ++ y)), e.within y = true) :
    Option.Rel (Match.Twins x y) (p.tied.find (u ++ x)) (p.tied.find (u ++ y)) := by
  have hends := p.twins_run hblind _ _ (Place.twins_start (x := x) (y := y) u)
  rw [TwinEnds, List.filter_eq_self.mpr hx, List.filter_eq_self.mpr hy] at hends
  rw [find_tied, find_tied, matchAt, matchAt]
  generalize p.run (Place.start (u ++ x)) = l at hends
  generalize p.run (Place.start (u ++ y)) = m at hends
  cases hends with
  | nil => exact .none
  | cons h _ => exact .some ⟨rfl, h.offset, h.captures, h.rest⟩

/-- A pattern that stays within a common beginning of two texts has the same match in both. -/
theorem Pattern.twins_find {x y : Text} {p : Pattern} (hblind : p.Blind x.head? y.head?)
    (hx : p.Stays x) (hy : p.Stays y) (u : Text) :
    Option.Rel (Match.Twins x y) (p.tied.find (u ++ x)) (p.tied.find (u ++ y)) :=
  twins_find_of_within hblind (hx _ (List.suffix_append u x)) (hy _ (List.suffix_append u y))

end Highlighter
