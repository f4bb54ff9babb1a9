import Mathlib.Data.List.SplitBy
import Highlighter.Proofs.Pdfile.DirectiveLines

/-!
# Comma lists

The list after a directive for lists is read run by run (`comma_list_tokens`).  The runs
are those of the characters of items and those of blanks, each as long as it can be, and
every comma by itself (`together`).  An item gives a variable and blanks give whitespace.
A comma gives punctuation if the character before it is of an item, and plain text
otherwise (`runCategory`).

* A comma behind an item is read together with the item, by the rule for both
  (`exists_fires_itemThenCommaRule`).  Since no item has a comma, this rule does not fire
  where a blank or the end of the list follows the item (`itemThenCommaRule_silent`).
* Any other comma is read alone, by the rule for any character.

So a step reads one run or two, and leaves no comma behind an item
(`exists_readsRow_runs`).  By induction the steps read the whole list
(`exists_readsRow_list`).
-/

namespace Highlighter.Pdfile

open Category Pattern

/-! ## The runs of a list -/

/-- A character of an item: neither a comma nor a blank. -/
def isItemChar (c : Char) : Bool := c != ',' && !isBlank c

/-- Neighbours in one run: both are of an item, or both are blanks. -/
def together (c d : Char) : Bool := (isItemChar c && isItemChar d) || (isBlank c && isBlank d)

/-- The category of a run, from the character before it. -/
def runCategory (before : Option Char) (run : Text) : Category :=
  if run = [','] then if before.any isItemChar then punctuation else text
  else if run.all isBlank then whitespace else identifier

/-- Runs with their categories, from the character before the first. -/
def runRow : Option Char → List Text → List (Category × Text)
  | _, [] => []
  | before, run :: runs => (runCategory before run, run) :: runRow run.getLast? runs

/-- The runs of a list with their categories. -/
def listRow (list : Text) : List (Category × Text) := runRow none (list.splitBy together)

/-- A list as it is written: it stays within its line and before a comment, and starts with no
blank. -/
structure ListText (list : Text) : Prop where
  chars : ∀ c ∈ list, c ≠ '\n' ∧ c ≠ '\r' ∧ c ≠ '#'
  solid : ∃ c rest, list = c :: rest ∧ isBlank c = false

/-- The run that a text starts with, and the text after it. -/
inductive FirstRun : Text → Text → Prop where
  | comma (rest : Text) : FirstRun [','] rest
  | blanks {run rest : Text} : run ≠ [] → (∀ c ∈ run, isBlank c = true) →
      (∀ c ∈ rest.head?, isBlank c = false) → FirstRun run rest
  | item {run rest : Text} : run ≠ [] → (∀ c ∈ run, isItemChar c = true) →
      (∀ c ∈ rest.head?, isItemChar c = false) → FirstRun run rest

theorem isItemChar_of_isBlank {c : Char} (hc : isBlank c = true) : isItemChar c = false := by
  simp [isItemChar, hc]

theorem FirstRun.ne_nil {run rest : Text} (h : FirstRun run rest) : run ≠ [] := by
  cases h with
  | comma => exact List.cons_ne_nil _ _
  | blanks hne _ _ => exact hne
  | item hne _ _ => exact hne

theorem FirstRun.splitBy_eq {run rest : Text} (h : FirstRun run rest) :
    (run ++ rest).splitBy together = run :: rest.splitBy together := by
  have hcut : ∀ (hne : run ≠ []), (∀ c ∈ run, ∀ d ∈ run, together c d = true) →
      (∀ c ∈ run, ∀ d ∈ rest.head?, together c d = false) →
      (run ++ rest).splitBy together = run :: rest.splitBy together := fun hne hall hstop => by
    have hchain : run.IsChain fun c d => together c d = true :=
      (List.pairwise_iff_forall_sublist.mpr fun hsub =>
        hall _ (hsub.subset (by simp)) _ (hsub.subset (by simp))).isChain
    rw [List.splitBy_append fun c hc d hd => hstop c (List.mem_of_getLast? hc) d hd,
      List.splitBy_of_isChain hne hchain, List.singleton_append]
  cases h with
  | comma rest =>
    have hcomma : ∀ d, together ',' d = false := fun d => rfl
    rw [List.splitBy_append fun c hc d _ => by
      obtain rfl : ',' = c := by simpa using hc
      exact hcomma d]
    rfl
  | blanks hne hrun hrest =>
    refine hcut hne (fun c hc d hd => by simp [together, hrun c hc, hrun d hd]) fun c hc d hd => ?_
    simp [together, hrest d hd, isItemChar_of_isBlank (hrun c hc)]
  | item hne hrun hrest =>
    refine hcut hne (fun c hc d hd => by simp [together, hrun c hc, hrun d hd]) fun c hc d hd => ?_
    have hblank : isBlank c = false := by
      have hitem := hrun c hc
      simp only [isItemChar, Bool.and_eq_true, Bool.not_eq_true'] at hitem
      exact hitem.2
    simp [together, hrest d hd, hblank]

/-- Every text that is not empty starts with a run. -/
theorem exists_firstRun {x : Text} (hx : x ≠ []) :
    ∃ run rest, x = run ++ rest ∧ FirstRun run rest := by
  obtain ⟨c, x, rfl⟩ := List.exists_cons_of_ne_nil hx
  have hstop : ∀ p : Char → Bool, ∀ d ∈ (x.dropWhile p).head?, p d = false := fun p d hd => by
    have hnot := List.head?_dropWhile_not p x
    rwa [Option.mem_def.mp hd] at hnot
  have hrun : ∀ {p : Char → Bool}, p c = true → ∀ d ∈ c :: x.takeWhile p, p d = true := fun hc =>
    List.forall_mem_cons.mpr ⟨hc, fun d hd => List.mem_takeWhile_imp hd⟩
  have hcut : ∀ p : Char → Bool, c :: x = (c :: x.takeWhile p) ++ x.dropWhile p := fun p => by simp
  cases hitem : isItemChar c with
  | true => exact ⟨_, _, hcut _, .item (by simp) (hrun hitem) (hstop _)⟩
  | false =>
    cases hblank : isBlank c with
    | true => exact ⟨_, _, hcut _, .blanks (by simp) (hrun hblank) (hstop _)⟩
    | false =>
      obtain rfl : c = ',' := by simpa [isItemChar, hblank] using hitem
      exact ⟨[','], x, rfl, .comma x⟩

theorem runCategory_blanks {run : Text} (before : Option Char)
    (hrun : ∀ c ∈ run, isBlank c = true) : runCategory before run = whitespace := by
  have hcomma : run ≠ [','] := by
    rintro rfl
    exact absurd (hrun ',' (by simp)) (by decide)
  rw [runCategory, if_neg hcomma, if_pos (List.all_eq_true.mpr hrun)]

theorem runCategory_item {run : Text} (before : Option Char) (hne : run ≠ [])
    (hrun : ∀ c ∈ run, isItemChar c = true) : runCategory before run = identifier := by
  obtain ⟨c, run, rfl⟩ := List.exists_cons_of_ne_nil hne
  have hc : (c ≠ ',') ∧ isBlank c = false := by
    simpa [isItemChar] using hrun c (List.mem_cons_self ..)
  rw [runCategory, if_neg fun heq => hc.1 (List.cons.inj heq).1, if_neg (by simp [hc.2])]

theorem any_getLast? {run : Text} {b : Bool} (hne : run ≠ [])
    (hrun : ∀ c ∈ run, isItemChar c = b) : run.getLast?.any isItemChar = b := by
  obtain ⟨c, hc⟩ := Option.ne_none_iff_exists'.mp (mt List.getLast?_eq_none_iff.mp hne)
  rw [hc, Option.any_some, hrun c (List.mem_of_getLast? hc)]

/-! ## The rules for items -/

/-- The rule for an item and the comma behind it. -/
def itemThenCommaRule : BuiltRule :=
  ⟨itemThenSeparator.tied, false, none, .groups [identifier, punctuation], .stay⟩

/-- The rule for an item. -/
def itemRule : BuiltRule := ⟨(plus .itemChar).tied, false, none, .token identifier, .stay⟩

theorem commaListTable_eq : commaListTable =
    [.comment .pop, .closingLineEnd, .innerBlanks, itemThenCommaRule, itemRule, .anyChar] := rfl

theorem itemChar_holds (c : Char) : CharSet.itemChar.holds c = (isItemChar c && c != '#') := by
  rw [CharSet.itemChar, CharSet.holds, CharSet.holds, CharSet.holds, CharSet.holds, CharSet.holds,
    CharSet.holds, Bool.not_or, Bool.not_or, isItemChar, Bool.and_right_comm]
  rfl

/-- An item stands at the start of a text: some characters of items, none of which is `#`. -/
structure Item (u : Text) : Prop where
  ne_nil : u ≠ []
  chars : ∀ c ∈ u, CharSet.itemChar.holds c = true

section Rules

variable {u t : Text} {lineStart : Bool}

/-- Where a comma stands behind an item, the rule for both fires. -/
theorem exists_fires_itemThenCommaRule (hu : Item u) (lineStart : Bool) (t : Text) :
    ∃ m, itemThenCommaRule.fires? lineStart (u ++ ',' :: t) = some m ∧ m.rest = t ∧
      m.HasGroups 1 0 [u, [',']] := by
  have hstop : CharSet.itemChar.holds ',' = false := rfl
  obtain ⟨e, hitem⟩ := prefers_plus (a := Place.start (u ++ ',' :: t)) hu.ne_nil hu.chars rfl
    fun c hc => Option.some.inj hc ▸ hstop
  have hrest : (e.capture 1 0).rest = ',' :: t := hitem.reads.leaves (a := Place.start _) rfl
  have hcomma := prefers_one (s := .only ',') (beq_self_eq_true ',') hrest
  obtain ⟨m, hm, htext, hgroups⟩ :=
    ((hcomma.last (fun _ => rfl) 2).cons hitem (fun _ => rfl)).exists_find
  have hform : itemThenCommaRule.Form := form_of_mem_commaListTable _ (by simp [commaListTable_eq])
  exact ⟨m, hform.fires?_alone hm rfl, by simpa using htext.symm, hgroups⟩

/-- Where no comma stands behind an item, the rule for both does not fire. -/
theorem itemThenCommaRule_silent (hu : Item u)
    (ht : ∀ c ∈ t.head?, CharSet.itemChar.holds c = false ∧ c ≠ ',') :
    itemThenCommaRule.fires? lineStart (u ++ t) = none := by
  refine Option.eq_none_iff_forall_ne_some.mpr fun m hm => ?_
  obtain ⟨ws, htakes, htext, -⟩ :=
    row_itemThenSeparator.exists_of_find (BuiltRule.fires?_eq_some_iff.mp hm).2.1
  obtain _ | @⟨_, v, _, _, hv, _ | @⟨_, comma, _, _, hcomma, _ | _⟩⟩ := htakes
  obtain rfl := hcomma.only
  have hread : ∀ c ∈ v, CharSet.itemChar.holds c = true := fun c hc => by
    simpa [plus, accepts] using hv.accepts c hc
  have htext : u ++ t = v ++ ',' :: m.rest := by simpa using htext
  have hstop : CharSet.itemChar.holds ',' = false := rfl
  obtain ⟨-, rfl⟩ := Text.cut_unique htext hu.chars hread (fun c hc => (ht c hc).1)
    fun c hc => Option.some.inj hc ▸ hstop
  exact (ht ',' rfl).2 rfl

/-- Behind an item that ends, the rule for an item fires. -/
theorem exists_fires_itemRule (hu : Item u) (lineStart : Bool)
    (ht : ∀ c ∈ t.head?, CharSet.itemChar.holds c = false) :
    ∃ m, itemRule.fires? lineStart (u ++ t) = some m ∧ m.rest = t := by
  obtain ⟨e, hitem⟩ := prefers_plus (a := Place.start (u ++ t)) hu.ne_nil hu.chars rfl ht
  obtain ⟨m, hm, htext⟩ := hitem.exists_find
  have hform : itemRule.Form := form_of_mem_commaListTable _ (by simp [commaListTable_eq])
  exact ⟨m, hform.fires?_alone hm rfl, (List.append_cancel_left htext).symm⟩

end Rules

/-! ## What a scan reads -/

section Scans

variable {lx : Lexer} {u t : Text}

theorem rulesOf_of_top (htop : lx.stack.top = commaList) :
    table.rulesOf lx.stack.top = commaListTable := by
  rw [htop, rulesOf_commaList]

/-- At an item the rules for items come first. -/
theorem firstFiring?_at_item {lineStart : Bool} (hu : Item u) (t : Text) :
    firstFiring? lineStart (u ++ t) commaListTable =
      firstFiring? lineStart (u ++ t) [itemThenCommaRule, itemRule, .anyChar] := by
  obtain ⟨c, u, rfl⟩ := List.exists_cons_of_ne_nil hu.ne_nil
  have hc := hu.chars c (List.mem_cons_self ..)
  rw [itemChar_holds, isItemChar, Bool.and_eq_true, Bool.and_eq_true, Bool.not_eq_true',
    bne_iff_ne, bne_iff_ne] at hc
  rw [commaListTable_eq, List.cons_append]
  exact firstFiring?_of_solid _ hc.1.2 hc.2 _

/-- A step reads an item and the comma behind it. -/
theorem exists_readsRow_item_comma (hidle : lx.Idle) (htop : lx.stack.top = commaList)
    (hu : Item u) (hrest : lx.rest = u ++ ',' :: t) :
    ∃ lx', ReadsRow lx [(identifier, u), (punctuation, [','])] lx' ∧ lx'.rest = t := by
  obtain ⟨m, hm, rfl, hgroups⟩ := exists_fires_itemThenCommaRule hu lx.lineStart t
  have hfire : firstFiring? lx.lineStart lx.rest (table.rulesOf lx.stack.top) =
      some (itemThenCommaRule, m) := by
    rw [rulesOf_of_top htop, hrest, firstFiring?_at_item hu, firstFiring?, hm]
  have hrow : ([identifier, punctuation].zip [u, [',']]).filter (·.2 ≠ []) =
      [(identifier, u), (punctuation, [','])] := by
    simp [hu.ne_nil]
  rw [← hrow]
  exact exists_readsRow_groups hidle hfire rfl rfl rfl (by simpa using hrest) hgroups

/-- A step reads an item that no comma follows. -/
theorem exists_readsRow_item (hidle : lx.Idle) (htop : lx.stack.top = commaList) (hu : Item u)
    (ht : ∀ c ∈ t.head?, CharSet.itemChar.holds c = false ∧ c ≠ ',') (hrest : lx.rest = u ++ t) :
    ∃ lx', ReadsRow lx [(identifier, u)] lx' ∧ lx'.rest = t := by
  obtain ⟨m, hm, rfl⟩ := exists_fires_itemRule hu lx.lineStart fun c hc => (ht c hc).1
  have hfire : firstFiring? lx.lineStart lx.rest (table.rulesOf lx.stack.top) =
      some (itemRule, m) := by
    rw [rulesOf_of_top htop, hrest, firstFiring?_at_item hu, firstFiring?,
      itemThenCommaRule_silent hu ht, firstFiring?, hm]
  exact exists_readsRow_token hidle hfire rfl rfl hrest

/-- A step reads a comma that no item is before. -/
theorem exists_readsRow_comma (hidle : lx.Idle) (htop : lx.stack.top = commaList)
    (hrest : lx.rest = ',' :: t) :
    ∃ lx', ReadsRow lx [(text, [','])] lx' ∧ lx'.rest = t := by
  have hpair : itemThenCommaRule.fires? lx.lineStart (',' :: t) = none := by
    have hfind := find_eq_none_of_starts (p := itemThenSeparator) rfl (c := ',') rfl t
    rw [itemThenCommaRule, BuiltRule.fires?, hfind]
    rfl
  have hitem : itemRule.fires? lx.lineStart (',' :: t) = none := by
    have hfind := find_eq_none_of_starts (p := plus .itemChar) rfl (c := ',') rfl t
    rw [itemRule, BuiltRule.fires?_plain rfl, hfind]
  have hany : BuiltRule.anyChar.fires? lx.lineStart (',' :: t) = some ⟨0, 1, [], t⟩ := by
    rw [BuiltRule.anyChar, BuiltRule.fires?_plain rfl, find_inLine]
    rfl
  have hfire : firstFiring? lx.lineStart lx.rest (table.rulesOf lx.stack.top) =
      some (.anyChar, ⟨0, 1, [], t⟩) := by
    rw [rulesOf_of_top htop, hrest, commaListTable_eq, firstFiring?_of_solid t rfl (by decide),
      firstFiring?, hpair, firstFiring?, hitem, firstFiring?, hany]
  exact exists_readsRow_token hidle hfire rfl rfl hrest

/-- Of a list that starts with no comma behind an item, the first run is read, and with an item the
comma behind it.  What is left starts with no comma behind an item either. -/
theorem exists_readsRow_runs {x : Text} {before : Option Char} (hx : x ≠ [])
    (hchars : ∀ c ∈ x, c ≠ '\n' ∧ c ≠ '\r' ∧ c ≠ '#')
    (hbefore : before.any isItemChar = true → x.head? ≠ some ',')
    (ht : ∀ c ∈ t.head?, c = '\n' ∨ c = '#') (hidle : lx.Idle) (htop : lx.stack.top = commaList)
    (hrest : lx.rest = x ++ t) :
    ∃ row before' y lx', ReadsRow lx row lx' ∧ lx'.rest = y ++ t ∧ y <:+ x ∧ y.length < x.length ∧
      (before'.any isItemChar = true → y.head? ≠ some ',') ∧
      runRow before (x.splitBy together) = row ++ runRow before' (y.splitBy together) := by
  obtain ⟨run, rest, rfl, hrun⟩ := exists_firstRun hx
  have hshorter : rest.length < (run ++ rest).length := by
    have := List.length_pos_iff.mpr hrun.ne_nil
    rw [List.length_append]
    omega
  have hsplit := hrun.splitBy_eq
  rw [List.append_assoc] at hrest
  cases hrun with
  | comma rest =>
    obtain ⟨lx', hreads, hrest'⟩ := exists_readsRow_comma hidle htop hrest
    have hcategory : runCategory before [','] = text := by
      have hno : before.any isItemChar = false :=
        Bool.eq_false_iff.mpr fun hitem => hbefore hitem rfl
      simp [runCategory, hno]
    refine ⟨_, some ',', rest, lx', hreads, hrest', List.suffix_append _ _, hshorter,
      fun hitem => absurd hitem (by decide), ?_⟩
    rw [hsplit, runRow, hcategory]
    rfl
  | blanks hne hblank hstop =>
    have hinner : ∀ c ∈ run, isBlank c = true ∧ c ≠ '\n' ∧ c ≠ '\r' := fun c hc => by
      obtain ⟨hnewline, hreturn, -⟩ := hchars c (List.mem_append_left rest hc)
      exact ⟨hblank c hc, hnewline, hreturn⟩
    have hend : ∀ c ∈ (rest ++ t).head?, CharSet.innerBlank.holds c = false := fun c hc => by
      rw [List.head?_append, Option.mem_def, Option.or_eq_some_iff] at hc
      rcases hc with hc | ⟨-, hc⟩
      · simp [CharSet.innerBlank, CharSet.holds, hstop c hc]
      · rcases ht c hc with rfl | rfl <;> rfl
    obtain ⟨lx', hreads, hrest'⟩ := exists_readsRow_blanks (by decide) hidle htop hrest hinner hend
    rw [List.filter_cons_of_pos (by simpa using hne)] at hreads
    refine ⟨_, run.getLast?, rest, lx', hreads, hrest', List.suffix_append _ _, hshorter, ?_, ?_⟩
    · rw [any_getLast? hne fun c hc => isItemChar_of_isBlank (hblank c hc)]
      exact fun hitem => absurd hitem (by decide)
    · rw [hsplit, runRow, runCategory_blanks before hblank]
      rfl
  | item hne hitem hstop =>
    have hu : Item run := ⟨hne, fun c hc => by
      simp [itemChar_holds, hitem c hc, (hchars c (List.mem_append_left rest hc)).2.2]⟩
    by_cases hcomma : rest.head? = some ','
    · obtain ⟨y, rfl⟩ := List.head?_eq_some_iff.mp hcomma
      obtain ⟨lx', hreads, hrest'⟩ := exists_readsRow_item_comma hidle htop hu hrest
      have hy : y <:+ run ++ ',' :: y := ⟨run ++ [','], by simp⟩
      have hmore : (',' :: y).splitBy together = [','] :: y.splitBy together :=
        (FirstRun.comma y).splitBy_eq
      refine ⟨_, some ',', y, lx', hreads, hrest', hy, Nat.lt_of_succ_lt hshorter,
        fun hitem => absurd hitem (by decide), ?_⟩
      have hpunctuation : runCategory run.getLast? [','] = punctuation := by
        simp [runCategory, any_getLast? hne hitem]
      rw [hsplit, hmore, runRow, runRow, runCategory_item before hne hitem, hpunctuation]
      rfl
    · have hend : ∀ c ∈ (rest ++ t).head?, CharSet.itemChar.holds c = false ∧ c ≠ ',' :=
        fun c hc => by
          rw [List.head?_append, Option.mem_def, Option.or_eq_some_iff] at hc
          rcases hc with hc | ⟨-, hc⟩
          · exact ⟨by simp [itemChar_holds, hstop c hc], fun heq => hcomma (heq ▸ hc)⟩
          · rcases ht c hc with rfl | rfl <;> decide
      obtain ⟨lx', hreads, hrest'⟩ := exists_readsRow_item hidle htop hu hend hrest
      refine ⟨_, run.getLast?, rest, lx', hreads, hrest', List.suffix_append _ _, hshorter,
        fun _ => hcomma, ?_⟩
      rw [hsplit, runRow, runCategory_item before hne hitem]
      rfl

/-- The steps for a list. -/
theorem exists_readsRow_list (ht : ∀ c ∈ t.head?, c = '\n' ∨ c = '#') (x : Text)
    {before : Option Char} {lx : Lexer} (hchars : ∀ c ∈ x, c ≠ '\n' ∧ c ≠ '\r' ∧ c ≠ '#')
    (hbefore : before.any isItemChar = true → x.head? ≠ some ',') (hidle : lx.Idle)
    (htop : lx.stack.top = commaList) (hrest : lx.rest = x ++ t) :
    ∃ lx', ReadsRow lx (runRow before (x.splitBy together)) lx' ∧ lx'.rest = t := by
  by_cases hx : x = []
  · subst hx
    exact ⟨lx, .refl hidle, hrest⟩
  · obtain ⟨row, before', y, lx₁, hfirst, hrest₁, hsuffix, hshorter, hbefore', hrow⟩ :=
      exists_readsRow_runs hx hchars hbefore ht hidle htop hrest
    obtain ⟨lx₂, hmore, hrest₂⟩ := exists_readsRow_list ht y
      (fun c hc => hchars c (hsuffix.subset hc)) hbefore' hfirst.scans.idle_right
      (hfirst.stack ▸ htop) hrest₁
    exact ⟨lx₂, hrow ▸ hfirst.trans hmore, hrest₂⟩
termination_by x.length

end Scans

/-! ## The tokens of the line -/

section Tokens

variable {name : String} {w b t : Text}

theorem list_mem_keywords : ∀ name ∈ listDirectives, name ∈ keywords := by decide

/-- The rule for a directive with a list fires and reads the directive and the blanks. -/
theorem exists_fires_listRule (hname : name ∈ listDirectives) (h : ArgumentLine name w b t) :
    ∃ m, listRule.fires? true (w ++ (b ++ t)) = some m ∧ m.rest = t ∧ m.HasGroups 1 0 [w, b] := by
  have hfree : PrefixFree listDirectives :=
    .of_upper (fun s hs => upper_of_mem_keywords s (list_mem_keywords s hs)) (by decide)
  obtain ⟨e₁, hw⟩ := prefers_words (a := Place.start (w ++ (b ++ t))) plainWords_listDirectives
    hfree hname h.directive rfl
  have hrest : (e₁.capture 1 0).rest = b ++ t := hw.reads.leaves (a := Place.start _) rfl
  obtain ⟨e₂, hb⟩ := prefers_blanks h.blanks hrest h.head?_ne_blank
  obtain ⟨m, hm, htext, hgroups⟩ :=
    ((hb.last groupless_blanks 2).cons hw (groupless_words listDirectives)).exists_find
  have hmem : listRule ∈ rootTable := by simp [rootTable, lastTable_eq]
  exact ⟨m, (form_of_mem_rootTable _ hmem).fires?_alone hm rfl, by simpa using htext.symm, hgroups⟩

/-- Where it fires, it is the first of all. -/
theorem firstFiring?_listRule {m : Match} (hname : name ∈ listDirectives)
    (h : ArgumentLine name w b t) (hm : listRule.fires? true (w ++ (b ++ t)) = some m) :
    firstFiring? true (w ++ (b ++ t)) rootTable = some (listRule, m) := by
  have hlead : ∀ name ∈ listDirectives, name ∉ leadNames := by decide
  have hfield : ∀ name ∈ listDirectives, ∀ entry ∈ fieldDirectives, entry.1 ≠ name := by decide
  have hvalue : ∀ name ∈ listDirectives, ∀ entry ∈ valueDirectives, name ≠ entry.1 := by decide
  have hkeyword := list_mem_keywords name hname
  have hvalues : firstFiring? true (w ++ (b ++ t)) (valueDirectives.flatMap valueTable) = none :=
    firstFiring?_of_forall_none fun rule hrule => by
      obtain ⟨entry, hentry, hrule⟩ := List.mem_flatMap.mp hrule
      exact h.toDirectiveLine.valueTable_silent hkeyword hentry (hvalue name hname entry hentry)
        rule hrule
  have htable : rootTable = (blankTable ++ (leadTable ++ fieldDirectives.flatMap fieldTable)) ++
      (valueDirectives.flatMap valueTable ++ lastTable) := by
    simp only [rootTable, List.append_assoc]
  rw [htable, firstFiring?_append, h.firstFiring?_others hkeyword (hlead name hname)
    (hfield name hname), Option.none_or, firstFiring?_append, hvalues, Option.none_or, lastTable_eq,
    firstFiring?, hm]

/-- At a line that takes a list, the directive and the blanks are read, and the state of lists is
entered. -/
theorem ArgumentLine.exists_readsLine_list {source before : Text} (hname : name ∈ listDirectives)
    (h : ArgumentLine name w b t) (hplace : LineAt source before (w ++ (b ++ t))) :
    ∃ lx, ReadsLine source before [(.keyword, w), (whitespace, b)] lx ∧ lx.rest = t ∧
      lx.stack = ⟨commaList, [root]⟩ := by
  obtain ⟨m, hm, hrest, hgroups⟩ := exists_fires_listRule hname h
  have htext : t = [].flatten ++ m.rest := hrest.symm
  have haction : listRule.action = .groups [keyword, whitespace] := rfl
  obtain ⟨lx, hreads, hrest', hstack⟩ := h.exists_readsLine (list_mem_keywords name hname) hplace
    (firstFiring?_listRule hname h hm) haction rfl htext hgroups
  exact ⟨lx, hreads, hrest'.trans hrest, hstack⟩

theorem ListText.argumentLine {list : Text} (h : ListText list) (hw : w.EqFold name.toList)
    (hb : b.Blanks) : ArgumentLine name w b (list ++ t) := by
  obtain ⟨c, rest, rfl, hc⟩ := h.solid
  exact ⟨hw, hb, c, rest ++ t, rfl, hc, (h.chars c (List.mem_cons_self ..)).2.2⟩

/-- A list after a directive for lists is read run by run: the line gives the directive, the blanks,
and each run of the list with its category. -/
theorem comma_list_tokens {source before list ending : Text} (hname : name ∈ listDirectives)
    (hw : w.EqFold name.toList) (hb : b.Blanks) (hlist : ListText list)
    (hending : ∀ c ∈ ending.head?, c = '\n' ∨ c = '#')
    (hplace : LineAt source before (w ++ (b ++ (list ++ ending)))) :
    ∃ lead others, tokenize Language.pdfile.grammar source =
        lead ++ (Token.row before.size ([(.keyword, w), (.whitespace, b)] ++ listRow list) ++
          others) ∧
      Tiles 0 before lead := by
  obtain ⟨lx, hdirective, hrest, hstack⟩ :=
    (hlist.argumentLine hw hb).exists_readsLine_list hname hplace
  have hbefore : (none : Option Char).any isItemChar = true → list.head? ≠ some ',' :=
    fun hitem => by cases hitem
  obtain ⟨lx', hruns, -⟩ := exists_readsRow_list hending list hlist.chars hbefore
    hdirective.idle (by rw [hstack]) hrest
  obtain ⟨lead, htokens, hlead⟩ := (hdirective.append hruns).exists_tokenize_eq
  exact ⟨lead, _, htokens, hlead⟩

end Tokens

/-- Empty items, blanks around a comma, and a comma at the end before a comment. -/
theorem comma_list_tokens_tag :
    let w : Text := ['t', 'A', 'g']
    let list : Text := ['é', ',', ',', 'b', ' ', ',', '\u00a0', '\t', 'c', '.', ',', ' ']
    ListText list ∧ ∃ others,
      tokenize Language.pdfile.grammar (w ++ ([' '] ++ (list ++ ['#', 'x']))) =
        Token.row 0 [(.keyword, w), (.whitespace, [' ']), (.identifier, ['é']),
          (.punctuation, [',']), (.text, [',']), (.identifier, ['b']), (.whitespace, [' ']),
          (.text, [',']), (.whitespace, ['\u00a0', '\t']), (.identifier, ['c', '.']),
          (.punctuation, [',']), (.whitespace, [' '])] ++ others := by
  intro w list
  have hlist : ListText list := ⟨by simp [list], 'é', _, rfl, by decide⟩
  have hname : "TAG" ∈ listDirectives := by decide
  have hfold : w.EqFold "TAG".toList := by decide +kernel
  have hplace : LineAt (w ++ ([' '] ++ (list ++ ['#', 'x']))) []
      (w ++ ([' '] ++ (list ++ ['#', 'x']))) := .first (by decide : isBlank 't' = false)
  obtain ⟨lead, others, htokens, hlead⟩ :=
    comma_list_tokens hname hfold ⟨by decide, by simp⟩ hlist (by simp) hplace
  rw [hlead.eq_nil] at htokens
  exact ⟨hlist, others, htokens⟩

end Highlighter.Pdfile
