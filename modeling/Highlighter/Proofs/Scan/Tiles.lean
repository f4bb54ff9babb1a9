import Mathlib.Data.List.Chain
import Highlighter.Scan
import Highlighter.Proofs.Pattern.Extent

/-!
# Tiles

Tokens *tile* a text from a position on when none is empty, each has the position
where the one before it ends, and together they have the characters of the text.
The tokens of one match tile what was matched (`Action.tokens_tiles`), whatever
groups took part: absent, empty, nested and out of order ones are passed over, and
what lies between groups is filled.

`Tiles.covers` is the link to the check of `covers`.
-/

namespace Highlighter

/-- Tokens tile a text that stands at a position. -/
def Tiles : Nat → Text → List Token → Prop
  | _, t, [] => t = []
  | position, t, token :: rest =>
      token.text ≠ [] ∧ token.start = position ∧ token.stop = position + token.text.size ∧
        ∃ t', t = token.text ++ t' ∧ Tiles token.stop t' rest

namespace Tiles

theorem nil (position : Nat) : Tiles position [] [] := rfl

/-- A token before tokens that go on where it ends. -/
theorem cons {position : Nat} {category : Category} {t t' : Text} {rest : List Token}
    (ht : t ≠ []) (h : Tiles (position + t.size) t' rest) :
    Tiles position (t ++ t') (Token.at category position t :: rest) :=
  ⟨ht, rfl, rfl, t', rfl, h⟩

theorem singleton {position : Nat} {category : Category} {t : Text} (ht : t ≠ []) :
    Tiles position t [Token.at category position t] := by
  have h : Tiles position (t ++ []) [Token.at category position t] := .cons ht (Tiles.nil _)
  rwa [List.append_nil] at h

theorem append : ∀ {position : Nat} {t t' : Text} {tokens tokens' : List Token},
    Tiles position t tokens → Tiles (position + t.size) t' tokens' →
      Tiles position (t ++ t') (tokens ++ tokens')
  | position, t, t', [], tokens', h, h' => by
    rw [show t = [] from h] at h' ⊢
    simpa using h'
  | position, t, t', token :: rest, tokens', h, h' => by
    obtain ⟨hne, hstart, hstop, u, rfl, hrest⟩ := h
    refine ⟨hne, hstart, hstop, u ++ t', by simp, hrest.append ?_⟩
    rw [Text.size_append, ← Nat.add_assoc, ← hstop] at h'
    exact h'

theorem detokenize : ∀ {position : Nat} {t : Text} {tokens : List Token},
    Tiles position t tokens → detokenize tokens = t
  | _, _, [], h => by
    rw [show _ = [] from h]
    rfl
  | _, _, token :: rest, ⟨_, _, _, u, ht, hrest⟩ => by
    rw [ht, ← hrest.detokenize]
    rfl

theorem text_ne_nil : ∀ {position : Nat} {t : Text} {tokens : List Token},
    Tiles position t tokens → ∀ token ∈ tokens, token.text ≠ []
  | _, _, [], _, _, hmem => by simp at hmem
  | _, _, token :: rest, ⟨hne, _, _, _, _, hrest⟩, tk, hmem => by
    rcases List.mem_cons.mp hmem with rfl | hmem
    · exact hne
    · exact hrest.text_ne_nil tk hmem

/-- The text of a token is a part of the text. -/
theorem subset {position : Nat} {t : Text} {tokens : List Token} (h : Tiles position t tokens) :
    ∀ token ∈ tokens, ∀ c ∈ token.text, c ∈ t := by
  intro token hmem c hc
  rw [← h.detokenize]
  exact List.mem_flatMap.mpr ⟨token, hmem, hc⟩

/-- There are no more tokens than characters. -/
theorem length_le : ∀ {position : Nat} {t : Text} {tokens : List Token},
    Tiles position t tokens → tokens.length ≤ t.length
  | _, _, [], _ => Nat.zero_le _
  | _, _, token :: rest, ⟨hne, _, _, u, ht, hrest⟩ => by
    have := hrest.length_le
    have := List.length_pos_iff.mpr hne
    rw [ht, List.length_append, List.length_cons]
    omega

/-- The text of a token is the part of the text between its positions. -/
theorem exists_part : ∀ {position : Nat} {t : Text} {tokens : List Token},
    Tiles position t tokens → ∀ token ∈ tokens, ∃ x y : Text, t = x ++ (token.text ++ y) ∧
      token.start = position + x.size ∧ token.stop = token.start + token.text.size
  | _, _, [], _, _, hmem => by simp at hmem
  | _, _, token :: rest, ⟨_, hstart, hstop, u, ht, hrest⟩, tk, hmem => by
    rcases List.mem_cons.mp hmem with rfl | hmem
    · exact ⟨[], u, ht, hstart, by rw [hstop, hstart]⟩
    · obtain ⟨x, y, hu, htk, htk'⟩ := hrest.exists_part tk hmem
      refine ⟨token.text ++ x, y, by rw [ht, hu, List.append_assoc], ?_, htk'⟩
      rw [htk, hstop, Text.size_append]
      omega

/-- A token lies between the ends of the text. -/
theorem bounds : ∀ {position : Nat} {t : Text} {tokens : List Token}, Tiles position t tokens →
    ∀ token ∈ tokens, position ≤ token.start ∧ token.start < token.stop ∧
      token.stop ≤ position + t.size
  | _, _, [], _, _, hmem => by simp at hmem
  | _, _, token :: rest, ⟨hne, hstart, hstop, u, ht, hrest⟩, tk, hmem => by
    have hpos := Text.size_pos hne
    rw [ht, Text.size_append]
    rcases List.mem_cons.mp hmem with rfl | hmem
    · omega
    · have := hrest.bounds tk hmem
      omega

/-- No two tokens start at one position. -/
theorem eq_of_start_eq : ∀ {position : Nat} {t : Text} {tokens : List Token},
    Tiles position t tokens → ∀ token ∈ tokens, ∀ token' ∈ tokens, token.start = token'.start →
      token = token'
  | _, _, [], _, _, hmem, _, _, _ => by simp at hmem
  | _, _, first :: rest, ⟨hne, hstart, hstop, u, _, hrest⟩, tk, hmem, tk', hmem', heq => by
    have hpos := Text.size_pos hne
    have hlater : ∀ token ∈ rest, first.start < token.start := fun token htoken => by
      have := hrest.bounds token htoken
      omega
    rcases List.mem_cons.mp hmem with rfl | hrest₁
    · rcases List.mem_cons.mp hmem' with rfl | hrest₂
      · rfl
      · have := hlater tk' hrest₂
        omega
    · rcases List.mem_cons.mp hmem' with rfl | hrest₂
      · have := hlater tk hrest₁
        omega
      · exact hrest.eq_of_start_eq tk hrest₁ tk' hrest₂ heq

theorem ne_nil {position : Nat} {t : Text} {tokens : List Token} (h : Tiles position t tokens)
    (ht : t ≠ []) : tokens ≠ [] := by
  rintro rfl
  exact ht h

theorem eq_nil {position : Nat} {tokens : List Token} (h : Tiles position [] tokens) :
    tokens = [] :=
  List.length_eq_zero_iff.mp (Nat.le_zero.mp h.length_le)

theorem start_eq {position : Nat} {t : Text} {token : Token} {rest : List Token}
    (h : Tiles position t (token :: rest)) : token.start = position := h.2.1

/-- Each token starts where the one before it stops. -/
theorem isChain : ∀ {position : Nat} {t : Text} {tokens : List Token},
    Tiles position t tokens → tokens.IsChain (fun a b => a.stop = b.start)
  | _, _, [], _ => .nil
  | _, _, [_], _ => .singleton _
  | _, _, _ :: _ :: _, ⟨_, _, _, _, _, hrest⟩ => .cons_cons hrest.start_eq.symm hrest.isChain

theorem stop_getLast? : ∀ {position : Nat} {t : Text} {tokens : List Token},
    Tiles position t tokens → ∀ token ∈ tokens.getLast?, token.stop = position + t.size
  | _, _, [], _, _, hmem => by simp at hmem
  | _, _, [token], ⟨_, _, hstop, u, ht, hu⟩, tk, hmem => by
    rw [show u = [] from hu, List.append_nil] at ht
    rw [List.getLast?_singleton, Option.mem_some] at hmem
    rw [← hmem, hstop, ht]
  | _, _, token :: next :: rest, ⟨_, _, hstop, u, ht, hrest⟩, tk, hmem => by
    have h := hrest.stop_getLast? tk (by simpa using hmem)
    rw [h, hstop, ht, Text.size_append]
    omega

/-- A token of a tiling of the end of a source is the slice of the source at its positions. -/
theorem slice? : ∀ {pre t : Text} {tokens : List Token}, Tiles pre.size t tokens →
    ∀ token ∈ tokens, Text.slice? token.start token.stop (pre ++ t) = some token.text
  | _, _, [], _, _, hmem => by simp at hmem
  | pre, _, token :: rest, ⟨_, hstart, hstop, u, ht, hrest⟩, tk, hmem => by
    rcases List.mem_cons.mp hmem with rfl | hmem
    · rw [hstart, hstop, ht]
      exact Text.slice?_append ..
    · rw [hstop, ← Text.size_append] at hrest
      have h := hrest.slice? tk hmem
      rwa [List.append_assoc, ← ht] at h

theorem coversFrom : ∀ {pre t : Text} {tokens : List Token}, Tiles pre.size t tokens →
    coversFrom (pre ++ t) pre.size tokens = true
  | _, _, [], h => by
    rw [show _ = [] from h]
    simp [Highlighter.coversFrom]
  | pre, t, token :: rest, h => by
    have hslice := h.slice? token (List.mem_cons_self ..)
    obtain ⟨_, hstart, hstop, u, ht, hrest⟩ := h
    have hnext : token.stop = (pre ++ token.text).size := by rw [hstop, Text.size_append]
    rw [hnext] at hrest
    have ih := hrest.coversFrom
    rw [List.append_assoc, ← ht, ← hnext] at ih
    simp [Highlighter.coversFrom, ← hstart, hslice, ih]

/-- Tokens that tile a source from its start cover it. -/
theorem covers {source : Text} {tokens : List Token} (h : Tiles 0 source tokens) :
    covers tokens source = true := by
  simpa [Highlighter.covers] using Tiles.coversFrom (show Tiles (Text.size []) source tokens from h)

end Tiles

/-! ## The tokens of one match -/

/-- A group extent is a part of a text on character boundaries. -/
def Text.HasPart (t : Text) (extent : Nat × Nat) : Prop :=
  ∃ v w x, t = v ++ (w ++ x) ∧ extent.1 = v.size ∧ extent.2 = extent.1 + w.size

/-- The part of a text that a group extent names, seen from a position inside the text that is
not behind the start of the part. -/
theorem Text.HasPart.from_position {read t : Text} {start stop : Nat}
    (h : (read ++ t).HasPart (start, stop)) (hle : read.size ≤ start) :
    ∃ between inside after, t = between ++ (inside ++ after) ∧
      start = read.size + between.size ∧ stop = start + inside.size := by
  obtain ⟨v, w, x, ht, hstart, hstop⟩ := h
  simp only at hstart hstop
  obtain ⟨between, hv, hrest⟩ := Text.append_cases_of_size_le ht (by omega)
  exact ⟨between, w, x, hrest, by rw [hstart, hv, Text.size_append], hstop⟩

/-- A group that is empty, or starts behind the position, gives no token. -/
theorem groupTokens_of_skipped (base : Nat) {category : Category} {start stop position : Nat}
    {rest : List (Category × Option (Nat × Nat))} {t : Text}
    (h : start = stop ∨ start < position) :
    groupTokens base ((category, some (start, stop)) :: rest) position t =
      groupTokens base rest position t := by
  rw [groupTokens, if_pos (by simpa using h)]

/-- Any other group gives a token, after one for what lies between. -/
theorem exists_groupTokens_eq (base : Nat) {category : Category} {start stop : Nat}
    {rest : List (Category × Option (Nat × Nat))} {read t : Text}
    (hpart : (read ++ t).HasPart (start, stop)) (hne : start ≠ stop) (hle : read.size ≤ start) :
    ∃ between inside after : Text, t = between ++ (inside ++ after) ∧ inside ≠ [] ∧
      start = read.size + between.size ∧ stop = start + inside.size ∧
      groupTokens base ((category, some (start, stop)) :: rest) read.size t =
        (if between.isEmpty then [] else [Token.at .text (base + read.size) between]) ++
          Token.at category (base + start) inside :: groupTokens base rest stop after := by
  obtain ⟨between, inside, after, rfl, hstart, hstop⟩ := hpart.from_position hle
  have hinside : inside ≠ [] := by
    rintro rfl
    exact hne (by simp [hstop])
  refine ⟨between, inside, after, rfl, hinside, hstart, hstop, ?_⟩
  -- The three cuts fall on the boundaries of `between` and `inside`.
  have hbetween : start - read.size = between.size := by omega
  have hinner : stop - start = inside.size := by omega
  have hskip : ¬ (start == stop || start < read.size) = true := by
    simpa [hne] using Nat.not_lt.mpr hle
  rw [groupTokens, if_neg hskip]
  simp only [hbetween, hinner, Text.takeBytes_size_append, Text.dropBytes_size_append]
  congr 1
  cases between with
  | nil =>
    rw [Text.size_nil, Nat.add_zero] at hstart
    rw [if_neg (by omega)]
    rfl
  | cons c between =>
    have := Text.size_pos (List.cons_ne_nil c between)
    rw [if_pos (by omega)]
    rfl

/-- The tokens of groups tile the rest of a match from wherever one is in it. -/
theorem groupTokens_tiles (base : Nat) :
    ∀ (groups : List (Category × Option (Nat × Nat))) (read t : Text),
      (∀ g ∈ groups, ∀ extent ∈ g.2, (read ++ t).HasPart extent) →
        Tiles (base + read.size) t (groupTokens base groups read.size t)
  | [], read, t, _ => by
    rw [groupTokens]
    split
    · next h => exact List.isEmpty_iff.mp h
    · next h => exact Tiles.singleton (by simpa using h)
  | (_, none) :: rest, read, t, h => by
    rw [groupTokens]
    exact groupTokens_tiles base rest read t fun g hg => h g (List.mem_cons_of_mem _ hg)
  | (category, some (start, stop)) :: rest, read, t, h => by
    have hrest := fun g hg => h g (List.mem_cons_of_mem _ hg)
    by_cases hskip : start = stop ∨ start < read.size
    · rw [groupTokens_of_skipped base hskip]
      exact groupTokens_tiles base rest read t hrest
    · obtain ⟨hne, hle⟩ := not_or.mp hskip
      obtain ⟨between, inside, after, rfl, hinside, hstart, hstop, htokens⟩ :=
        exists_groupTokens_eq base (h _ (List.mem_cons_self ..) (start, stop) rfl) hne
          (Nat.le_of_not_lt hle)
      have hread : (read ++ (between ++ inside)).size = stop := by
        simp only [Text.size_append]
        omega
      have ih := groupTokens_tiles base rest (read ++ (between ++ inside)) after
        (fun g hg e he => by simpa using hrest g hg e he)
      rw [hread] at ih
      have htail : Tiles (base + start) (inside ++ after)
          (Token.at category (base + start) inside :: groupTokens base rest stop after) :=
        Tiles.cons hinside (by rwa [Nat.add_assoc, ← hstop])
      rw [hstart, ← Nat.add_assoc] at htail
      rw [htokens]
      split
      · next hnil =>
        obtain rfl := List.isEmpty_iff.mp hnil
        rw [hstart]
        simpa using htail
      · next hbetween =>
        have hbetween : between ≠ [] := by simpa using hbetween
        rw [hstart, ← Nat.add_assoc]
        exact (Tiles.singleton hbetween).append htail

/-- The tokens of a match tile what was matched. -/
theorem Action.tokens_tiles (action : Action) (base : Nat) {t : Text} {m : Match} (ht : t ≠ [])
    (hgroups : ∀ index, ∀ extent ∈ m.group? index, t.HasPart extent) :
    Tiles base t (action.tokens base t m) := by
  cases action with
  | token category => exact Tiles.singleton ht
  | groups categories =>
    refine groupTokens_tiles base _ [] t ?_
    intro g hg extent hextent
    obtain ⟨⟨c, i⟩, -, rfl⟩ := List.mem_map.mp hg
    exact hgroups (i + 1) extent hextent

/-! ## Categories -/

/-- The categories an action names. -/
def Action.categories : Action → List Category
  | .token category => [category]
  | .groups categories => categories

theorem category_of_mem_groupTokens (base : Nat) :
    ∀ (groups : List (Category × Option (Nat × Nat))) (position : Nat) (text : Text),
      ∀ t ∈ groupTokens base groups position text,
        t.category ∈ groups.map Prod.fst ∨ t.category = .text
  | [], position, text, t, ht => by
    rw [groupTokens] at ht
    split at ht
    · simp at ht
    · rw [List.mem_singleton.mp ht]
      exact Or.inr rfl
  | (_, none) :: rest, position, text, t, ht =>
    (category_of_mem_groupTokens base rest position text t ht).imp (List.mem_cons_of_mem _) id
  | (category, some (start, stop)) :: rest, position, text, t, ht => by
    rw [groupTokens] at ht
    split at ht
    · exact (category_of_mem_groupTokens base rest position text t ht).imp
        (List.mem_cons_of_mem _) id
    · rcases List.mem_append.mp ht with ht | ht
      · split at ht
        · rw [List.mem_singleton.mp ht]
          exact Or.inr rfl
        · simp at ht
      · rcases List.mem_cons.mp ht with rfl | ht
        · exact Or.inl (List.mem_cons_self ..)
        · exact (category_of_mem_groupTokens base rest _ _ t ht).imp (List.mem_cons_of_mem _) id

/-- The category of a token of a match is one its action names, or that of what lies between
groups. -/
theorem Action.category_of_mem_tokens {action : Action} {base : Nat} {u : Text} {m : Match} :
    ∀ t ∈ action.tokens base u m, t.category ∈ action.categories ∨ t.category = .text := by
  intro t ht
  cases action with
  | token category =>
    rw [List.mem_singleton.mp ht]
    exact Or.inl (List.mem_singleton_self category)
  | groups categories =>
    refine (category_of_mem_groupTokens base _ 0 u t ht).imp (fun h => ?_) id
    obtain ⟨_, hmem, heq⟩ := List.mem_map.mp h
    obtain ⟨⟨c, i⟩, hc, rfl⟩ := List.mem_map.mp hmem
    exact heq ▸ (List.mem_zipIdx' hc).2 ▸ List.getElem_mem _

end Highlighter
