import Highlighter.Proofs.Grammar.Preferred

/-!
# Preferred matches of rows

`p.PrefersRow k a ws e` says of a row what `p.Prefers a w e` says of any pattern, and
what each of its groups reads.  There is a lemma for each former of rows.  Where the
ends of a group are tried one after another, the first one that leads to a match of the
row after it is taken (`PrefersRow.cons_of_split`).

An argument may end behind every solid character of the line, and its ends are tried from
the last one on (`exists_mem_argument`, `longestFirst_argument`).
-/

namespace Highlighter.Pattern

variable {p q : Pattern} {k : Nat} {a b e : Place} {w t : Text} {ws : List Text}

/-! ## Rows -/

/-- From the place `a` on the preferred match of a row ends at `e`, and its groups, numbered from
`k` on, read some texts one after another. -/
structure PrefersRow (p : Pattern) (k : Nat) (a : Place) (ws : List Text) (e : Place) : Prop where
  head : (p.run a).head? = some e
  reads : a.Reads ws.flatten e
  captures : ∃ new, e.captures = new ++ a.captures ∧ RowCaptures k a.offset ws new

/-- What an end of a group captures. -/
theorem captures_of_group (hp : p.Groupless) (hb : b ∈ p.run a) (hw : a.Reads w b) (k : Nat) :
    (b.capture k a.offset).captures = [⟨k, a.offset, a.offset + w.size⟩] ++ a.captures := by
  simp only [Place.capture, hp.captures_eq hb, hw.offset, List.cons_append, List.nil_append]

namespace Prefers

/-- The last group of a row. -/
theorem last (h : p.Prefers a w b) (hp : p.Groupless) (k : Nat) :
    (Pattern.group k p).PrefersRow k a [w] (b.capture k a.offset) where
  head := (h.group k).head
  reads := by simpa using h.reads.capture k
  captures := ⟨_, captures_of_group hp (List.mem_of_head? h.head) h.reads k, .present .nil⟩

/-- The last group of a row, which is optional and takes part. -/
theorem present (h : p.Prefers a w b) (hp : p.Groupless) (k : Nat) :
    (opt (.group k p)).PrefersRow k a [w] (b.capture k a.offset) where
  head := by rw [opt, run, List.head?_append, (h.last hp k).head, Option.some_or]
  reads := (h.last hp k).reads
  captures := (h.last hp k).captures

end Prefers

/-- The last group of a row, which is optional and takes no part. -/
theorem prefersRow_absent (h : p.run a = []) (k : Nat) :
    (opt (.group k p)).PrefersRow k a [[]] a where
  head := by simp [opt, run, h]
  reads := .refl a
  captures := ⟨[], rfl, .absent .nil⟩

namespace PrefersRow

/-- A group before a row.  Of its ends the first is taken that leads to a match of the row. -/
theorem cons_of_split {earlier later : List Place}
    (h : q.PrefersRow (k + 1) (b.capture k a.offset) ws e) (hp : p.Groupless)
    (hrun : p.run a = earlier ++ b :: later)
    (hsilent : ∀ x ∈ earlier, q.run (x.capture k a.offset) = []) (hw : a.Reads w b) :
    (Pattern.seq (.group k p) q).PrefersRow k a (w :: ws) e where
  head := by
    have hnone : (earlier.map (Place.capture k a.offset)).flatMap q.run = [] := by
      simpa [List.flatMap_eq_nil_iff] using hsilent
    rw [run, run, hrun, List.map_append, List.flatMap_append, hnone, List.nil_append,
      List.map_cons, List.flatMap_cons, List.head?_append, h.head, Option.some_or]
  reads := (hw.capture k).trans h.reads
  captures := by
    obtain ⟨new, hcaptures, hnew⟩ := h.captures
    have hb : b ∈ p.run a := by simp [hrun]
    have hoffset : (b.capture k a.offset).offset = a.offset + w.size := hw.offset
    rw [hoffset] at hnew
    refine ⟨_, ?_, .present hnew⟩
    rw [hcaptures, captures_of_group hp hb hw k, List.append_assoc]

/-- A group before a row that goes on where the group prefers to end. -/
theorem cons (h : q.PrefersRow (k + 1) (b.capture k a.offset) ws e) (hw : p.Prefers a w b)
    (hp : p.Groupless) : (Pattern.seq (.group k p) q).PrefersRow k a (w :: ws) e := by
  obtain ⟨later, hrun⟩ := List.head?_eq_some_iff.mp hw.head
  have hrun : p.run a = [] ++ b :: later := hrun
  exact h.cons_of_split hp hrun (by simp) hw.reads

/-- A test before a row. -/
theorem check {x : Assertion} (h : q.PrefersRow k a ws e)
    (hx : x.holds a.before a.rest.head? = true) :
    (Pattern.seq (.check x) q).PrefersRow k a ws e where
  head := by simpa [run, hx] using h.head
  reads := h.reads
  captures := h.captures

/-- What a row prefers from the start of a text is its match there, with these groups. -/
theorem exists_find (h : p.PrefersRow 1 (Place.start t) ws e) :
    ∃ m, p.tied.find t = some m ∧ t = ws.flatten ++ m.rest ∧ m.HasGroups 1 0 ws := by
  obtain ⟨new, hcaptures, hnew⟩ := h.captures
  refine ⟨⟨0, e.offset, e.captures, e.rest⟩, ?_, h.reads.rest,
    Match.hasGroups_of_rowCaptures hnew [] (by simp) hcaptures⟩
  rw [find_tied, matchAt, h.head]
  rfl

end PrefersRow

/-- Where some end leads on, there is a first one that does. -/
theorem exists_split_of_flatMap_ne_nil {α β : Type} {f : α → List β} {l : List α}
    (h : l.flatMap f ≠ []) :
    ∃ earlier x later, l = earlier ++ x :: later ∧ (∀ y ∈ earlier, f y = []) ∧ f x ≠ [] := by
  induction l with
  | nil => exact absurd rfl h
  | cons x l ih =>
    by_cases hx : f x = []
    · rw [List.flatMap_cons, hx, List.nil_append] at h
      obtain ⟨earlier, y, later, rfl, hearlier, hy⟩ := ih h
      exact ⟨x :: earlier, y, later, rfl, List.forall_mem_cons.mpr ⟨hx, hearlier⟩, hy⟩
    · exact ⟨[], x, l, rfl, by simp, hx⟩

/-! ## Ends of arguments -/

/-- The ends that leave less text come first. -/
def LongestFirst (l : List Place) : Prop := l.Pairwise fun x y => x.rest.length < y.rest.length

/-- A run of characters has its longest end first. -/
theorem longestFirst_runEnds (s : CharSet) : ∀ (t : Text) (a : Place) (shorter : List Place),
    a.rest = t → LongestFirst (a :: shorter) → LongestFirst (runEnds s t a shorter)
  | [], _, _, _, h => h
  | c :: t, a, shorter, ha, h => by
    rw [runEnds]
    split
    · refine longestFirst_runEnds s t _ _ rfl (List.pairwise_cons.mpr ⟨?_, h⟩)
      have hfirst : (a.advance c t).rest.length < a.rest.length := by
        rw [ha]
        exact Nat.lt_succ_self _
      intro x hx
      rcases List.mem_cons.mp hx with rfl | hx
      · exact hfirst
      · exact hfirst.trans ((List.pairwise_cons.mp h).1 x hx)
    · exact h

/-- One character is read. -/
theorem length_of_mem_one {s : CharSet} (h : b ∈ (one s).run a) :
    b.rest.length + 1 = a.rest.length := by
  simp only [run] at h
  split at h
  · simp at h
  · next c t hrest =>
    split at h
    · rw [List.mem_singleton.mp h, hrest]
      rfl
    · simp at h

/-- A character after each end keeps their order. -/
theorem LongestFirst.flatMap_one {l : List Place} (h : LongestFirst l) (s : CharSet) :
    LongestFirst (l.flatMap (one s).run) := by
  refine List.pairwise_flatMap.mpr ⟨fun x _ => ?_, h.imp fun {x y} hlt b hb e he => ?_⟩
  · simp only [run]
    split
    · exact .nil
    · split
      · exact List.pairwise_singleton ..
      · exact .nil
  · have := length_of_mem_one hb
    have := length_of_mem_one he
    omega

/-- An argument has its longest end first. -/
theorem longestFirst_argument {c : Char} (ha : a.rest = c :: t)
    (hc : CharSet.solid.holds c = true) : LongestFirst (argument.run a) := by
  rw [run_argument ha hc, run]
  have hends := longestFirst_runEnds .beforeComment t (a.advance c t) [] rfl
    (List.pairwise_singleton ..)
  refine List.pairwise_append.mpr ⟨hends.flatMap_one .solid, List.pairwise_singleton .., ?_⟩
  intro x hx y hy
  obtain rfl := List.mem_singleton.mp hy
  obtain ⟨b, hb, hx⟩ := List.mem_flatMap.mp hx
  obtain ⟨v, hv, -⟩ := (many true CharSet.beforeComment).exists_reads (a.advance c t) b hb
  have hlength := congrArg List.length hv.rest
  rw [List.length_append] at hlength
  have := length_of_mem_one hx
  omega

/-- Where an argument stands, one of the ends is behind it. -/
theorem exists_mem_argument {u : Text} (ha : a.rest = u ++ t) (hne : u ≠ [])
    (hall : ∀ c ∈ u, CharSet.beforeComment.holds c = true)
    (hfirst : ∀ c ∈ u.head?, CharSet.solid.holds c = true)
    (hlast : ∀ c ∈ u.getLast?, CharSet.solid.holds c = true) :
    ∃ b ∈ argument.run a, a.Reads u b := by
  obtain ⟨c, u, rfl⟩ := List.exists_cons_of_ne_nil hne
  rcases List.eq_nil_or_concat' u with rfl | ⟨v, d, rfl⟩
  · rw [run_argument ha (hfirst c rfl)]
    exact ⟨_, List.mem_append_right _ (List.mem_singleton_self _), .advance ha⟩
  · have ha : a.rest = c :: (v ++ d :: t) := by simpa using ha
    have hd : CharSet.solid.holds d = true := hlast d (by simp [List.getLast?_cons])
    obtain ⟨b, hb, hv⟩ := exists_mem_runEnds (t := d :: t) (a.advance c (v ++ d :: t)) [] rfl
      fun x hx => hall x (List.mem_cons_of_mem c (List.mem_append_left _ hx))
    have hrest : b.rest = d :: t := List.append_cancel_left hv.rest.symm
    have hend : b.advance d t ∈ (one .solid).run b := by simp [run, hrest, hd]
    rw [run_argument ha (hfirst c rfl)]
    exact ⟨_, List.mem_append_left _ (List.mem_flatMap.mpr ⟨b, hb, hend⟩),
      ((Place.Reads.advance ha).trans hv).trans (.advance hrest)⟩

end Highlighter.Pattern
