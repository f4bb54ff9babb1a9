import Mathlib.Data.List.ReduceOption
import Highlighter.Proofs.Scan.Slices

/-!
# The groups that give tokens

A pattern that matched may have groups that are absent, empty, nested in one another or
out of order.  The tokens of the match are chosen greedily.  The groups are gone through
by their numbers, and a group gives a token when it has an extent that is not empty and
does not start before the end of the last group that gave one.

`GreedyLabels` says this of a list of tokens.  Each token has a label, which is the index
of the group it is for, or nothing for plain text between groups.  The labels of groups
ascend, and an index is among them just when its group passes the greedy test, where the
end of the last group is read off the labels themselves (`endBefore`).

`Action.groups_greedy` is the result for the tokens of one match.  They tile the match,
and they are the tokens that cutting the source between two positions gives.
-/

namespace Highlighter

/-! ## The greedy test -/

/-- Groups with their categories and extents, in the order of their numbers. -/
abbrev Groups := List (Category × Option (Nat × Nat))

namespace Groups

/-- Where a group ends, if it took part. -/
def stop? (groups : Groups) (i : Nat) : Option Nat := (groups[i]?.bind Prod.snd).map Prod.snd

/-- The end of the last of the picked groups before an index.  Before the first one it is the
position where the choice starts. -/
def endBefore (groups : Groups) (position : Nat) (picked : List Nat) (i : Nat) : Nat :=
  ((picked.filter (· < i)).filterMap groups.stop?).getLastD position

/-- A group took part, is not empty, and does not start before the end of the last picked group
before it. -/
def Passes (groups : Groups) (position : Nat) (picked : List Nat) (i : Nat) : Prop :=
  ∃ category start stop, groups[i]? = some (category, some (start, stop)) ∧ start ≠ stop ∧
    groups.endBefore position picked i ≤ start

variable {groups : Groups} {position : Nat} {picked : List Nat} {i : Nat}

theorem endBefore_zero : groups.endBefore position picked 0 = position := by
  simp [endBefore]

/-- What was picked behind one more group. -/
theorem filter_map_succ (picked : List Nat) (i : Nat) :
    (picked.map (· + 1)).filter (· < i + 1) = (picked.filter (· < i)).map (· + 1) := by
  rw [List.filter_map]
  simp [Function.comp_def]

theorem filterMap_stop?_succ (g : Category × Option (Nat × Nat)) (picked : List Nat) :
    (picked.map (· + 1)).filterMap (stop? (g :: groups)) = picked.filterMap groups.stop? := by
  rw [List.filterMap_map]
  rfl

/-- A group in front that is not picked changes no end. -/
theorem endBefore_skip (g : Category × Option (Nat × Nat)) :
    endBefore (g :: groups) position (picked.map (· + 1)) (i + 1) =
      groups.endBefore position picked i := by
  rw [endBefore, filter_map_succ, filterMap_stop?_succ, endBefore]

/-- Behind a group that is picked the choice goes on from where that group ends. -/
theorem endBefore_pick (category : Category) (start stop : Nat) :
    endBefore ((category, some (start, stop)) :: groups) position (0 :: picked.map (· + 1))
      (i + 1) = groups.endBefore stop picked i := by
  rw [endBefore, List.filter_cons_of_pos (by simp), filter_map_succ,
    List.filterMap_cons_some (show stop? _ 0 = some stop from rfl), filterMap_stop?_succ,
    List.getLastD_cons, endBefore]

theorem passes_skip (g : Category × Option (Nat × Nat)) :
    Passes (g :: groups) position (picked.map (· + 1)) (i + 1) ↔
      groups.Passes position picked i := by
  simp only [Passes, endBefore_skip, List.getElem?_cons_succ]

theorem passes_pick (category : Category) (start stop : Nat) :
    Passes ((category, some (start, stop)) :: groups) position (0 :: picked.map (· + 1)) (i + 1) ↔
      groups.Passes stop picked i := by
  simp only [Passes, endBefore_pick, List.getElem?_cons_succ]

end Groups

/-! ## Labels -/

/-- A token is that of the group with an index, or plain text that belongs to no group. -/
def Token.LabelledBy (base : Nat) (groups : Groups) (t : Token) : Option Nat → Prop
  | none => t.category = .text
  | some i => ∃ start stop, groups[i]? = some (t.category, some (start, stop)) ∧
      t.start = base + start ∧ t.stop = base + stop

/-- Tokens of a match that starts at `base` are chosen greedily from a position in it on. -/
structure GreedyLabels (base position : Nat) (groups : Groups) (tokens : List Token)
    (labels : List (Option Nat)) : Prop where
  /-- Each token is what its label says. -/
  tokens : List.Forall₂ (Token.LabelledBy base groups) tokens labels
  /-- The groups are in the order of their numbers, and none is there twice. -/
  order : labels.reduceOption.Pairwise (· < ·)
  /-- A group has a token just when it passes. -/
  picked : ∀ i, some i ∈ labels ↔ groups.Passes position labels.reduceOption i
  /-- What lies between groups is one token. -/
  apart : labels.IsChain fun a b => a.isSome ∨ b.isSome

namespace GreedyLabels

variable {base position : Nat} {groups : Groups} {tokens : List Token}
variable {labels : List (Option Nat)}

/-- The labels behind one more group. -/
def shift (labels : List (Option Nat)) : List (Option Nat) := labels.map (Option.map (· + 1))

theorem reduceOption_shift (labels : List (Option Nat)) :
    (shift labels).reduceOption = labels.reduceOption.map (· + 1) := List.reduceOption_map

theorem zero_notMem_shift (labels : List (Option Nat)) : some 0 ∉ shift labels := by
  simp [shift]

theorem succ_mem_shift {i : Nat} : some (i + 1) ∈ shift labels ↔ some i ∈ labels := by
  simp [shift]

theorem tokens_shift (g : Category × Option (Nat × Nat))
    (h : List.Forall₂ (Token.LabelledBy base groups) tokens labels) :
    List.Forall₂ (Token.LabelledBy base (g :: groups)) tokens (shift labels) := by
  refine List.forall₂_map_right_iff.mpr (h.imp fun t label hlabel => ?_)
  cases label with
  | none => exact hlabel
  | some i => simpa [Token.LabelledBy] using hlabel

theorem order_shift (h : labels.reduceOption.Pairwise (· < ·)) :
    (shift labels).reduceOption.Pairwise (· < ·) := by
  rw [reduceOption_shift, List.pairwise_map]
  exact h.imp Nat.succ_lt_succ

theorem apart_shift (h : labels.IsChain fun a b => a.isSome ∨ b.isSome) :
    (shift labels).IsChain fun a b => a.isSome ∨ b.isSome := by
  rw [shift, List.isChain_map]
  simpa only [Option.isSome_map] using h

/-- No groups and nothing left. -/
theorem nil : GreedyLabels base position [] [] [] where
  tokens := .nil
  order := .nil
  picked := by simp [Groups.Passes]
  apart := .nil

/-- No groups, and plain text to the end. -/
theorem rest {t : Token} (ht : t.category = .text) :
    GreedyLabels base position [] [t] [none] where
  tokens := .cons ht .nil
  order := .nil
  picked := by simp [Groups.Passes]
  apart := .singleton _

/-- A group in front that is absent, empty, or starts before the position. -/
theorem skip {g : Category × Option (Nat × Nat)}
    (hskip : ∀ extent ∈ g.2, extent.1 = extent.2 ∨ extent.1 < position)
    (h : GreedyLabels base position groups tokens labels) :
    GreedyLabels base position (g :: groups) tokens (shift labels) where
  tokens := tokens_shift g h.tokens
  order := order_shift h.order
  picked
    | 0 => by
      refine iff_of_false (zero_notMem_shift labels) fun ⟨category, start, stop, hg, hne, hle⟩ => ?_
      obtain rfl : g = (category, some (start, stop)) := Option.some.inj hg
      rw [Groups.endBefore_zero] at hle
      have : start = stop ∨ start < position := hskip (start, stop) rfl
      omega
    | i + 1 => by rw [succ_mem_shift, reduceOption_shift, Groups.passes_skip, h.picked]
  apart := apart_shift h.apart

/-- A group in front that gives a token, from where the choice goes on. -/
theorem pick {category : Category} {start stop : Nat} {t : Token}
    (hcategory : t.category = category) (hstart : t.start = base + start)
    (hstop : t.stop = base + stop) (hne : start ≠ stop) (hle : position ≤ start)
    (h : GreedyLabels base stop groups tokens labels) :
    GreedyLabels base position ((category, some (start, stop)) :: groups) (t :: tokens)
      (some 0 :: shift labels) where
  tokens := .cons ⟨start, stop, by rw [hcategory]; rfl, hstart, hstop⟩ (tokens_shift _ h.tokens)
  order := by
    rw [List.reduceOption_cons_of_some, List.pairwise_cons]
    exact ⟨by simp [reduceOption_shift], order_shift h.order⟩
  picked
    | 0 => by
      refine iff_of_true (List.mem_cons_self ..) ⟨category, start, stop, rfl, hne, ?_⟩
      rwa [Groups.endBefore_zero]
    | i + 1 => by
      rw [List.mem_cons, succ_mem_shift, List.reduceOption_cons_of_some, reduceOption_shift,
        Groups.passes_pick, h.picked]
      simp
  apart := List.isChain_cons.mpr ⟨fun _ _ => .inl rfl, apart_shift h.apart⟩

/-- Plain text in front of a group's token. -/
theorem filler {t : Token} (ht : t.category = .text) {i : Nat}
    (h : GreedyLabels base position groups tokens (some i :: labels)) :
    GreedyLabels base position groups (t :: tokens) (none :: some i :: labels) where
  tokens := .cons ht h.tokens
  order := h.order
  picked j := by
    rw [List.reduceOption_cons_of_none, ← h.picked]
    simp
  apart := .cons_cons (.inr rfl) h.apart

end GreedyLabels

/-! ## The tokens of one match -/

/-- From any position in a match on, the tokens of the groups are chosen greedily. -/
theorem exists_greedyLabels (base : Nat) :
    ∀ (groups : Groups) (read t : Text),
      (∀ g ∈ groups, ∀ extent ∈ g.2, (read ++ t).HasPart extent) →
        ∃ labels, GreedyLabels base read.size groups (groupTokens base groups read.size t) labels
  | [], read, t, _ => by
    rw [groupTokens]
    split
    · exact ⟨[], .nil⟩
    · exact ⟨[none], .rest rfl⟩
  | (category, none) :: rest, read, t, h => by
    obtain ⟨labels, hlabels⟩ :=
      exists_greedyLabels base rest read t fun g hg => h g (List.mem_cons_of_mem _ hg)
    rw [groupTokens]
    exact ⟨_, hlabels.skip (by simp)⟩
  | (category, some (start, stop)) :: rest, read, t, h => by
    have hrest := fun g hg => h g (List.mem_cons_of_mem _ hg)
    by_cases hskip : start = stop ∨ start < read.size
    · obtain ⟨labels, hlabels⟩ := exists_greedyLabels base rest read t hrest
      rw [groupTokens_of_skipped base hskip]
      exact ⟨_, hlabels.skip (by simpa using hskip)⟩
    · obtain ⟨hne, hlt⟩ := not_or.mp hskip
      have hle := Nat.le_of_not_lt hlt
      obtain ⟨between, inside, after, rfl, -, hstart, hstop, htokens⟩ :=
        exists_groupTokens_eq base (h _ (List.mem_cons_self ..) (start, stop) rfl) hne hle
      have hread : (read ++ (between ++ inside)).size = stop := by
        simp only [Text.size_append]
        omega
      obtain ⟨labels, hlabels⟩ := exists_greedyLabels base rest (read ++ (between ++ inside)) after
        fun g hg e he => by simpa using hrest g hg e he
      rw [hread] at hlabels
      have hpick := hlabels.pick (t := Token.at category (base + start) inside) rfl rfl
        (by simp only [Token.at]; omega) hne hle
      rw [htokens]
      split
      · exact ⟨_, hpick⟩
      · exact ⟨_, hpick.filler rfl⟩

/-- The groups of a match, with the categories that an action has for them. -/
def Match.groups (m : Match) (categories : List Category) : Groups :=
  categories.zipIdx.map fun (c, i) => (c, m.group? (i + 1))

namespace Action

/-- A match in a source that is not empty and whose groups lie in it gives tokens that tile it,
one for each group that is chosen greedily and plain text for the rest. -/
theorem groups_greedy (categories : List Category) {m : Match} {pre t post : Text} (ht : t ≠ [])
    (hparts : ∀ i < categories.length, ∀ extent ∈ m.group? (i + 1), t.HasPart extent) :
    ∃ tokens labels,
      (groups categories).tokens pre.size t m = tokens ∧
      (groups categories).sliceTokens? (pre ++ (t ++ post)) pre.size (pre.size + t.size) m =
        some tokens ∧
      tokens ≠ [] ∧ Tiles pre.size t tokens ∧
      GreedyLabels pre.size 0 (m.groups categories) tokens labels := by
  have hgroups : ∀ g ∈ m.groups categories, ∀ extent ∈ g.2, t.HasPart extent := by
    intro g hg extent hextent
    obtain ⟨⟨c, i⟩, hc, rfl⟩ := List.mem_map.mp hg
    exact hparts i (List.mem_zipIdx' hc).1 extent hextent
  obtain ⟨labels, hlabels⟩ := exists_greedyLabels pre.size _ [] t hgroups
  have htiles := groupTokens_tiles pre.size _ [] t hgroups
  exact ⟨_, labels, rfl, sliceGroups?_eq_some pre t post _ [] t rfl hgroups, htiles.ne_nil ht,
    htiles, hlabels⟩

/-- The second group of five is absent, the third is empty, and the fourth starts before the end
of the first.  The first and the last give tokens, with plain text before and after them. -/
theorem groups_greedy_abcd :
    let m : Match := ⟨0, 4, [⟨1, 1, 2⟩, ⟨5, 2, 3⟩, ⟨4, 0, 1⟩, ⟨3, 1, 1⟩], ['z']⟩
    let categories := [.keyword, .string, .operator, .comment, .identifier]
    let tokens : List Token := [⟨.text, 2, 3, ['a']⟩, ⟨.keyword, 3, 4, ['b']⟩,
      ⟨.identifier, 4, 5, ['c']⟩, ⟨.text, 5, 6, ['d']⟩]
    (groups categories).sliceTokens? ['é', 'a', 'b', 'c', 'd', 'z'] 2 6 m = some tokens ∧
      Tiles 2 ['a', 'b', 'c', 'd'] tokens ∧
      ∃ labels, GreedyLabels 2 0 (m.groups categories) tokens labels := by
  intro m categories tokens
  have hparts : ∀ i < categories.length, ∀ extent ∈ m.group? (i + 1),
      Text.HasPart ['a', 'b', 'c', 'd'] extent
    | 0, _, extent, h => by
      obtain rfl : (1, 2) = extent := Option.some.inj h
      exact ⟨['a'], ['b'], ['c', 'd'], rfl, rfl, rfl⟩
    | 1, _, extent, h => nomatch h
    | 2, _, extent, h => by
      obtain rfl : (1, 1) = extent := Option.some.inj h
      exact ⟨['a'], [], ['b', 'c', 'd'], rfl, rfl, rfl⟩
    | 3, _, extent, h => by
      obtain rfl : (0, 1) = extent := Option.some.inj h
      exact ⟨[], ['a'], ['b', 'c', 'd'], rfl, rfl, rfl⟩
    | 4, _, extent, h => by
      obtain rfl : (2, 3) = extent := Option.some.inj h
      exact ⟨['a', 'b'], ['c'], ['d'], rfl, rfl, rfl⟩
    | i + 5, hi, _, _ => absurd hi (by simp [categories])
  obtain ⟨found, labels, htokens, hslices, -, htiles, hlabels⟩ :=
    @groups_greedy categories m ['é'] ['a', 'b', 'c', 'd'] ['z'] (by simp) hparts
  obtain rfl : tokens = found := by
    rw [← htokens]
    decide +kernel
  exact ⟨hslices, htiles, labels, hlabels⟩

end Action

end Highlighter
