import Mathlib.Data.List.Destutter
import Mathlib.Data.List.Sort
import Highlighter.Regex.Quote

/-!
# The written order of words

A choice between words is written with its words in an order: by size in bytes from the
largest, and words of one size by their characters.  This is a strict total order
(`writtenBefore_irrefl`, `writtenBefore_trans`, `writtenBefore_of_ne`), so there is only
one list that has given words in order (`InOrder.unique`).

`Regex.arrange` puts the words into this order one by one and leaves out a word that is
there already (`inOrder_arrange`, `mem_arrange`).  So the arrangement depends on the set
of the words alone (`arrange_congr`).  It is also what comes out when the list is sorted
first and then every word is dropped that stands behind an equal one
(`arrange_eq_sortedOnce`), since sorting brings equal words side by side.
-/

namespace Highlighter.Regex

variable {u v w : Text} {ws ws' list list' : List Text}

/-! ## The order -/

theorem writtenBefore_iff :
    writtenBefore v w = true ↔ w.size < v.size ∨ v.size = w.size ∧ v < w := by
  simp [writtenBefore]

theorem writtenBefore_irrefl (w : Text) : ¬ writtenBefore w w = true := by
  rw [writtenBefore_iff]
  rintro (hsize | ⟨-, hlt⟩)
  · exact Nat.lt_irrefl _ hsize
  · exact List.lt_irrefl w hlt

theorem writtenBefore_trans (huv : writtenBefore u v = true) (hvw : writtenBefore v w = true) :
    writtenBefore u w = true := by
  rw [writtenBefore_iff] at *
  rcases huv with huv | ⟨huv, hlt⟩
  · left
    omega
  · rcases hvw with hvw | ⟨hvw, hlt'⟩
    · left
      omega
    · exact .inr ⟨huv.trans hvw, List.lt_trans hlt hlt'⟩

/-- Of two different words one is written before the other. -/
theorem writtenBefore_of_ne (hne : v ≠ w) (h : ¬ writtenBefore v w = true) :
    writtenBefore w v = true := by
  rw [writtenBefore_iff] at *
  rw [not_or, not_and] at h
  rcases Nat.lt_or_eq_of_le (Nat.le_of_not_lt h.1) with hlt | hsame
  · exact .inl hlt
  · refine .inr ⟨hsame.symm, ?_⟩
    by_contra hnot
    exact hne (List.le_antisymm (List.not_lt.mp hnot) (List.not_lt.mp (h.2 hsame)))

theorem size_le_of_writtenBefore (h : writtenBefore v w = true) : w.size ≤ v.size := by
  rcases writtenBefore_iff.mp h with hlt | ⟨hsame, -⟩
  · exact Nat.le_of_lt hlt
  · exact Nat.le_of_eq hsame.symm

/-- The words of a list are in written order, each of them once. -/
def InOrder (ws : List Text) : Prop := ws.Pairwise fun v w => writtenBefore v w = true

/-- A list in order holds no word twice. -/
theorem InOrder.nodup (h : InOrder ws) : ws.Nodup := by
  refine h.imp ?_
  rintro v w hbefore rfl
  exact writtenBefore_irrefl v hbefore

/-- Words can be in order in one way only. -/
theorem InOrder.unique (h : InOrder ws) (h' : InOrder ws') (hmem : ∀ w, w ∈ ws ↔ w ∈ ws') :
    ws = ws' := by
  have hperm : ws.Perm ws' := (List.perm_ext_iff_of_nodup h.nodup h'.nodup).mpr hmem
  refine hperm.eq_of_pairwise ?_ h h'
  intro v w _ _ hvw hwv
  exact absurd (writtenBefore_trans hvw hwv) (writtenBefore_irrefl v)

/-! ## Arranged words -/

/-- Insertion adds the word and drops nothing. -/
theorem mem_insertWord : w ∈ insertWord v ws ↔ w = v ∨ w ∈ ws := by
  induction ws with
  | nil => simp [insertWord]
  | cons u ws ih =>
    rw [insertWord]
    split
    · simp
    · split
      · next h =>
        rw [beq_iff_eq.mp h]
        simp
      · rw [List.mem_cons, ih, List.mem_cons]
        exact or_left_comm

/-- The words of a list are those of its arrangement. -/
theorem mem_arrange : w ∈ arrange list ↔ w ∈ list := by
  induction list with
  | nil => simp [arrange]
  | cons v list ih =>
    have h : arrange (v :: list) = insertWord v (arrange list) := rfl
    simp only [h, mem_insertWord, ih, List.mem_cons]

/-- Insertion keeps the order. -/
theorem InOrder.insertWord (h : InOrder ws) (v : Text) : InOrder (insertWord v ws) := by
  induction ws with
  | nil => exact List.pairwise_singleton ..
  | cons u ws ih =>
    obtain ⟨hu, hws⟩ := List.pairwise_cons.mp h
    rw [Regex.insertWord]
    split
    · next hvu =>
      exact List.pairwise_cons.mpr ⟨List.forall_mem_cons.mpr
        ⟨hvu, fun w hw => writtenBefore_trans hvu (hu w hw)⟩, h⟩
    · next hvu =>
      split
      · exact h
      · next hne =>
        -- The new word goes further back, so the first one has to be before it as well.
        have huv : writtenBefore u v = true := writtenBefore_of_ne (by simpa using hne) hvu
        refine List.pairwise_cons.mpr ⟨fun w hw => ?_, ih hws⟩
        rcases mem_insertWord.mp hw with rfl | hw
        · exact huv
        · exact hu w hw

theorem inOrder_arrange (list : List Text) : InOrder (arrange list) := by
  induction list with
  | nil => exact .nil
  | cons v list ih => exact ih.insertWord v

/-- The longer words of an arrangement come first. -/
theorem pairwise_arrange (list : List Text) :
    (arrange list).Pairwise fun v w => w.size ≤ v.size :=
  (inOrder_arrange list).imp size_le_of_writtenBefore

theorem arrange_ne_nil (h : list ≠ []) : arrange list ≠ [] := by
  obtain ⟨w, hw⟩ := List.exists_mem_of_ne_nil list h
  exact List.ne_nil_of_mem (mem_arrange.mpr hw)

/-- An arrangement is no longer than its list. -/
theorem length_arrange_le (list : List Text) : (arrange list).length ≤ list.length := by
  refine List.Subperm.length_le (List.subperm_of_subset (inOrder_arrange list).nodup ?_)
  exact fun w hw => mem_arrange.mp hw

/-- What has the words of a list in order is its arrangement. -/
theorem InOrder.arrange_eq (h : InOrder ws) (hmem : ∀ w, w ∈ ws ↔ w ∈ list) : arrange list = ws :=
  (inOrder_arrange list).unique h fun _ => mem_arrange.trans (hmem _).symm

/-- Lists with the same words have the same arrangement. -/
theorem arrange_congr (h : ∀ w, w ∈ list ↔ w ∈ list') : arrange list = arrange list' :=
  (inOrder_arrange list').arrange_eq fun w => mem_arrange.trans (h w).symm

/-! ## Sorted words -/

/-- The words of a list, sorted, and then without those that stand behind an equal one. -/
def sortedOnce (list : List Text) : List Text :=
  (list.mergeSort fun v w => !writtenBefore w v).destutter (· ≠ ·)

/-- In a sorted list a word stands before those that are equal and those that are written
after it. -/
theorem not_writtenBefore_iff : (!writtenBefore w v) = true ↔ v = w ∨ writtenBefore v w = true := by
  rw [Bool.not_eq_true', Bool.eq_false_iff, Ne]
  constructor
  · intro h
    by_cases heq : v = w
    · exact .inl heq
    · exact .inr (writtenBefore_of_ne (Ne.symm heq) h)
  · rintro (rfl | hvw) hwv
    · exact writtenBefore_irrefl v hwv
    · exact writtenBefore_irrefl v (writtenBefore_trans hvw hwv)

/-- The library sort leaves no word before one that is written before it. -/
theorem pairwise_mergeSort (list : List Text) :
    (list.mergeSort fun v w => !writtenBefore w v).Pairwise
      fun v w => v = w ∨ writtenBefore v w = true := by
  refine (List.pairwise_mergeSort ?trans ?total list).imp not_writtenBefore_iff.mp
  case trans =>
    intro u v w huv hvw
    rw [not_writtenBefore_iff] at *
    rcases huv with rfl | huv
    · exact hvw
    · rcases hvw with rfl | hvw
      · exact .inr huv
      · exact .inr (writtenBefore_trans huv hvw)
  case total =>
    intro v w
    rw [Bool.or_eq_true_iff, not_writtenBefore_iff, not_writtenBefore_iff]
    by_cases hvw : writtenBefore v w = true
    · exact .inl (.inr hvw)
    · by_cases heq : v = w
      · exact .inl (.inl heq)
      · exact .inr (.inr (writtenBefore_of_ne heq hvw))

/-- Equal words of a sorted list stand side by side, so that each is left once. -/
theorem sortedOnce_eq_dedup (list : List Text) :
    sortedOnce list = (list.mergeSort fun v w => !writtenBefore w v).dedup := by
  have hantisymm : Std.Antisymm fun v w : Text => v = w ∨ writtenBefore v w = true := by
    constructor
    rintro v w (rfl | hvw) (heq | hwv)
    · rfl
    · rfl
    · exact heq.symm
    · exact absurd (writtenBefore_trans hvw hwv) (writtenBefore_irrefl v)
  exact (pairwise_mergeSort list).destutter_eq_dedup

theorem mem_sortedOnce : w ∈ sortedOnce list ↔ w ∈ list := by
  rw [sortedOnce_eq_dedup, List.mem_dedup, List.mem_mergeSort]

theorem inOrder_sortedOnce (list : List Text) : InOrder (sortedOnce list) := by
  rw [sortedOnce_eq_dedup]
  have hsorted := (pairwise_mergeSort list).sublist (List.dedup_sublist _)
  exact (hsorted.and (List.nodup_dedup _)).imp fun h => h.1.resolve_left h.2

/-- Putting the words into order one by one is sorting them and dropping what is repeated. -/
theorem arrange_eq_sortedOnce (list : List Text) : arrange list = sortedOnce list :=
  (inOrder_sortedOnce list).arrange_eq fun _ => mem_sortedOnce

end Highlighter.Regex
