import Highlighter.Proofs.Pdfile.Fields

/-!
# Lists of attributes

A list of attributes that is written after the directive for them is read back
(`attribute_list_tokens`): every key gives a variable, every value a string, and they
are the given ones in the given order.

A key ends at the first `=`, since no key has one, and a value ends where a character
of values does not follow.  So the rule for an attribute with a separator reads one where
a separator stands and does not fire elsewhere (`exists_fires_closedPairRule`,
`closedPairRule_silent`), and the rule after it reads the others.  A step for an attribute
and one for the blanks after it read its row (`Attribute.exists_readsRow`), and by
induction on the list the steps for all of them read all rows
(`exists_readsRow_attributes`).
-/

namespace Highlighter.Pdfile

open Category Pattern

/-! ## Attributes -/

/-- An ASCII letter or digit, an underscore or a hyphen. -/
def isKeyChar (c : Char) : Bool := c.isAlphanum || c == '_' || c == '-'

/-- An attribute as it is written: a key, a value, whether a separator follows, and the blanks
behind that. -/
structure Attribute where
  /-- The key. -/
  key : Text
  /-- The value. -/
  value : Text
  /-- A separator follows the value. -/
  closed : Bool
  /-- The blanks at the end. -/
  blanks : Text
  key_ne_nil : key ≠ []
  key_chars : ∀ c ∈ key, isKeyChar c = true
  value_ne_nil : value ≠ []
  value_chars : ∀ c ∈ value, c ≠ ';' ∧ c ≠ '#' ∧ isBlank c = false
  blanks_chars : ∀ c ∈ blanks, c = ' ' ∨ c = '\t'

namespace Attribute

/-- The separator, if there is one. -/
def separator (x : Attribute) : Text := if x.closed then [';'] else []

/-- The attribute as it is written. -/
def text (x : Attribute) : Text := x.key ++ ('=' :: (x.value ++ (x.separator ++ x.blanks)))

/-- The parts of an attribute that are not empty, with their categories. -/
def row (x : Attribute) : List (Category × Text) :=
  [(identifier, x.key), (operator, ['=']), (string, x.value), (punctuation, x.separator),
    (whitespace, x.blanks)].filter (·.2 ≠ [])

end Attribute

/-! ## Characters of keys and values -/

section Characters

variable {c : Char}

theorem toNat_lt_of_isKeyChar (hc : isKeyChar c = true) : c.toNat < 128 := by
  simp only [isKeyChar, Bool.or_eq_true, beq_iff_eq] at hc
  rcases hc with (h | rfl) | rfl
  · rcases Bool.or_eq_true_iff.mp (show (c.isAlpha || c.isDigit) = true from h) with h | h
    · exact Unicode.toNat_lt_of_isAlpha h
    · have hle := of_decide_eq_true (Bool.and_eq_true_iff.mp h).2
      exact Nat.lt_of_le_of_lt hle (by decide)
  · decide
  · decide

/-- What holds of the characters of keys up to the last ASCII character holds of all. -/
theorem of_isKeyChar {p : Char → Prop}
    (h : ∀ n < 128, isKeyChar (Char.ofNat n) = true → p (Char.ofNat n))
    (hc : isKeyChar c = true) : p c := by
  have hp := h c.toNat (toNat_lt_of_isKeyChar hc)
  rw [Char.ofNat_toNat] at hp
  exact hp hc

theorem keyChar_of_isKeyChar (hc : isKeyChar c = true) : CharSet.keyChar.holds c = true :=
  of_isKeyChar (p := fun c => CharSet.keyChar.holds c = true) (by decide +kernel) hc

theorem solid_of_isKeyChar (hc : isKeyChar c = true) :
    isBlank c = false ∧ c ≠ '#' ∧ c ≠ '\n' ∧ c ≠ '\r' :=
  of_isKeyChar (p := fun c => isBlank c = false ∧ c ≠ '#' ∧ c ≠ '\n' ∧ c ≠ '\r')
    (by decide +kernel) hc

theorem keyChar_equals : CharSet.keyChar.holds '=' = false := by decide +kernel

end Characters

namespace Attribute

theorem key_holds (x : Attribute) : ∀ c ∈ x.key, CharSet.keyChar.holds c = true :=
  fun c hc => keyChar_of_isKeyChar (x.key_chars c hc)

theorem value_holds (x : Attribute) : ∀ c ∈ x.value, CharSet.valueChar.holds c = true :=
  fun c hc => by
    obtain ⟨hseparator, hash, hblank⟩ := x.value_chars c hc
    simp [CharSet.valueChar_holds, hseparator, hash, hblank]

end Attribute

/-! ## The two rules for attributes -/

/-- The rule for an attribute with a separator. -/
def closedPairRule : BuiltRule :=
  ⟨pairThenSeparator.tied, false, none, .groups [identifier, operator, string, punctuation], .stay⟩

/-- The rule for an attribute without a separator. -/
def pairRule : BuiltRule := ⟨pair.tied, false, none, .groups [identifier, operator, string], .stay⟩

theorem providerAttributeTable_eq : providerAttributeTable =
    [.comment .pop, .closingLineEnd, .innerBlanks, closedPairRule, pairRule, .anyChar] := rfl

section Rules

variable {t : Text} {lineStart : Bool}

/-- A key, a `=` and a value are read to their ends. -/
theorem Attribute.exists_prefers (x : Attribute) {a : Place}
    (ha : a.rest = x.key ++ ('=' :: (x.value ++ t)))
    (ht : ∀ c ∈ t.head?, CharSet.valueChar.holds c = false) :
    ∃ e₁ e₂ e₃, (plus .keyChar).Prefers a x.key e₁ ∧
      (one (.only '=')).Prefers (e₁.capture 1 a.offset) ['='] e₂ ∧
      (plus .valueChar).Prefers (e₂.capture 2 (e₁.capture 1 a.offset).offset) x.value e₃ ∧
      e₃.rest = t := by
  obtain ⟨e₁, hkey⟩ := prefers_plus x.key_ne_nil x.key_holds ha
    fun c hc => Option.some.inj hc ▸ keyChar_equals
  have hrest : (e₁.capture 1 a.offset).rest = '=' :: (x.value ++ t) := hkey.reads.leaves ha
  have hequals := prefers_one (s := .only '=') (beq_self_eq_true '=') hrest
  obtain ⟨e₃, hvalue⟩ := prefers_plus x.value_ne_nil x.value_holds
    (a := ((e₁.capture 1 a.offset).advance '=' (x.value ++ t)).capture 2
      (e₁.capture 1 a.offset).offset) rfl ht
  exact ⟨e₁, _, e₃, hkey, hequals, hvalue, List.append_cancel_left hvalue.reads.rest.symm⟩

/-- Where a separator stands behind a value, the rule for both fires. -/
theorem exists_fires_closedPairRule (x : Attribute) (lineStart : Bool) (t : Text) :
    ∃ m, closedPairRule.fires? lineStart (x.key ++ ('=' :: (x.value ++ ';' :: t))) = some m ∧
      m.rest = t ∧ m.HasGroups 1 0 [x.key, ['='], x.value, [';']] := by
  have hstop : ∀ c ∈ (';' :: t).head?, CharSet.valueChar.holds c = false := fun c hc => by
    rw [← Option.some.inj hc, CharSet.valueChar_holds]
    rfl
  obtain ⟨e₁, e₂, e₃, hkey, hequals, hvalue, hrest⟩ := x.exists_prefers
    (a := Place.start (x.key ++ ('=' :: (x.value ++ ';' :: t)))) rfl hstop
  have hseparator := prefers_one (s := .only ';') (beq_self_eq_true ';')
    (a := e₃.capture 3 (e₂.capture 2 (e₁.capture 1 0).offset).offset) hrest
  obtain ⟨m, hm, htext, hgroups⟩ := ((((hseparator.last (fun _ => rfl) 4).cons hvalue
    (fun _ => rfl)).cons hequals (fun _ => rfl)).cons hkey (fun _ => rfl)).exists_find
  have hform : closedPairRule.Form := form_of_mem_providerAttributeTable _ (by
    simp [providerAttributeTable_eq])
  refine ⟨m, hform.fires?_alone hm rfl, ?_, hgroups⟩
  simpa using htext.symm

/-- Where no separator stands behind a value, the rule for both does not fire. -/
theorem closedPairRule_silent (x : Attribute)
    (ht : ∀ c ∈ t.head?, CharSet.valueChar.holds c = false ∧ c ≠ ';') :
    closedPairRule.fires? lineStart (x.key ++ ('=' :: (x.value ++ t))) = none := by
  refine Option.eq_none_iff_forall_ne_some.mpr fun m hm => ?_
  obtain ⟨ws, htakes, htext, -⟩ :=
    row_pairThenSeparator.exists_of_find (BuiltRule.fires?_eq_some_iff.mp hm).2.1
  obtain _ | @⟨_, k, _, _, hk, _ | @⟨_, e, _, _, he, _ | @⟨_, v, _, _, hv, _ | @⟨_, s, _, _, hs,
    _ | _⟩⟩⟩⟩ := htakes
  obtain rfl := he.only
  obtain rfl := hs.only
  have hread : ∀ {s : CharSet} {u : Text}, (plus s).Takes u → ∀ c ∈ u, s.holds c = true :=
    fun hu c hc => by simpa [plus, accepts] using hu.accepts c hc
  have htext : x.key ++ ('=' :: (x.value ++ t)) = k ++ ('=' :: (v ++ ';' :: m.rest)) := by
    simpa using htext
  obtain ⟨-, hafter⟩ := Text.cut_unique htext x.key_holds (hread hk)
    (fun c hc => Option.some.inj hc ▸ keyChar_equals)
    fun c hc => Option.some.inj hc ▸ keyChar_equals
  obtain ⟨-, rfl⟩ := Text.cut_unique (List.cons.inj hafter).2 x.value_holds (hread hv)
    (fun c hc => (ht c hc).1) fun c hc => by
      rw [← Option.some.inj hc, CharSet.valueChar_holds]
      rfl
  exact (ht ';' rfl).2 rfl

/-- Behind a value that ends, the rule without a separator fires. -/
theorem exists_fires_pairRule (x : Attribute) (lineStart : Bool)
    (ht : ∀ c ∈ t.head?, CharSet.valueChar.holds c = false) :
    ∃ m, pairRule.fires? lineStart (x.key ++ ('=' :: (x.value ++ t))) = some m ∧
      m.rest = t ∧ m.HasGroups 1 0 [x.key, ['='], x.value] := by
  obtain ⟨e₁, e₂, e₃, hkey, hequals, hvalue, -⟩ := x.exists_prefers
    (a := Place.start (x.key ++ ('=' :: (x.value ++ t)))) rfl ht
  obtain ⟨m, hm, htext, hgroups⟩ := (((hvalue.last (fun _ => rfl) 3).cons hequals
    (fun _ => rfl)).cons hkey (fun _ => rfl)).exists_find
  have hform : pairRule.Form := form_of_mem_providerAttributeTable _ (by
    simp [providerAttributeTable_eq])
  refine ⟨m, hform.fires?_alone hm rfl, ?_, hgroups⟩
  simpa using htext.symm

/-- At a key, the rules for comments, line ends and blanks do not fire. -/
theorem firstFiring?_at_key (x : Attribute) (rest : Text) :
    firstFiring? lineStart (x.key ++ rest) providerAttributeTable =
      firstFiring? lineStart (x.key ++ rest) [closedPairRule, pairRule, .anyChar] := by
  obtain ⟨c, key, hkey⟩ := List.exists_cons_of_ne_nil x.key_ne_nil
  obtain ⟨hblank, hash, -⟩ := solid_of_isKeyChar (x.key_chars c (by simp [hkey]))
  rw [hkey, List.cons_append, providerAttributeTable_eq]
  exact firstFiring?_of_solid _ hblank hash _

end Rules

/-! ## What a scan reads -/

section Scans

variable {lx : Lexer} {t : Text}

/-- A step reads an attribute, with its separator if it has one. -/
theorem Attribute.exists_readsRow_pair (x : Attribute) (hidle : lx.Idle)
    (htop : lx.stack.top = providerAttributes)
    (hrest : lx.rest = x.key ++ ('=' :: (x.value ++ (x.separator ++ t))))
    (ht : x.closed = false → ∀ c ∈ t.head?, CharSet.valueChar.holds c = false ∧ c ≠ ';') :
    ∃ lx', ReadsRow lx ([(identifier, x.key), (operator, ['=']), (string, x.value),
      (punctuation, x.separator)].filter (·.2 ≠ [])) lx' ∧ lx'.rest = t := by
  have hrules : table.rulesOf lx.stack.top = providerAttributeTable := by
    rw [htop, rulesOf_providerAttributes]
  cases hclosed : x.closed with
  | true =>
    have hseparator : x.separator = [';'] := by rw [separator, hclosed]; rfl
    rw [hseparator] at hrest ⊢
    obtain ⟨m, hm, rfl, hgroups⟩ := exists_fires_closedPairRule x lx.lineStart t
    have hfire : firstFiring? lx.lineStart lx.rest (table.rulesOf lx.stack.top) =
        some (closedPairRule, m) := by
      rw [hrules, hrest, firstFiring?_at_key, List.singleton_append, firstFiring?, hm]
    have haction : closedPairRule.action = .groups [identifier, operator, string, punctuation] :=
      rfl
    exact exists_readsRow_groups hidle hfire haction rfl rfl (by simpa using hrest) hgroups
  | false =>
    have hseparator : x.separator = [] := by rw [separator, hclosed]; rfl
    rw [hseparator, List.nil_append] at hrest
    obtain ⟨m, hm, rfl, hgroups⟩ :=
      exists_fires_pairRule x lx.lineStart fun c hc => (ht hclosed c hc).1
    have hfire : firstFiring? lx.lineStart lx.rest (table.rulesOf lx.stack.top) =
        some (pairRule, m) := by
      rw [hrules, hrest, firstFiring?_at_key, firstFiring?, closedPairRule_silent x (ht hclosed),
        firstFiring?, hm]
    have hrow : [(identifier, x.key), (operator, ['=']), (string, x.value),
        (punctuation, x.separator)].filter (·.2 ≠ []) =
        ([identifier, operator, string].zip [x.key, ['='], x.value]).filter (·.2 ≠ []) := by
      simp [hseparator, x.key_ne_nil, x.value_ne_nil]
    rw [hrow]
    exact exists_readsRow_groups hidle hfire rfl rfl rfl (by simpa using hrest) hgroups

/-- The steps for an attribute and the blanks behind it. -/
theorem Attribute.exists_readsRow (x : Attribute) (hidle : lx.Idle)
    (htop : lx.stack.top = providerAttributes) (hrest : lx.rest = x.text ++ t)
    (ht : ∀ c ∈ t.head?, CharSet.innerBlank.holds c = false)
    (hend : x.closed = false → ∀ c ∈ t.head?, c = '\n' ∨ c = '#') :
    ∃ lx', ReadsRow lx x.row lx' ∧ lx'.rest = t := by
  have hafter : x.closed = false →
      ∀ c ∈ (x.blanks ++ t).head?, CharSet.valueChar.holds c = false ∧ c ≠ ';' := by
    intro hopen c hc
    have hcases : (c = ' ' ∨ c = '\t') ∨ c = '\n' ∨ c = '#' := by
      cases hblanks : x.blanks with
      | nil =>
        rw [hblanks] at hc
        exact .inr (hend hopen c hc)
      | cons d blanks =>
        rw [hblanks] at hc
        obtain rfl : d = c := Option.some.inj hc
        exact .inl (x.blanks_chars d (by simp [hblanks]))
    rw [CharSet.valueChar_holds]
    rcases hcases with (rfl | rfl) | rfl | rfl <;> decide
  obtain ⟨lx₁, hpair, hrest₁⟩ := x.exists_readsRow_pair hidle htop (t := x.blanks ++ t)
    (by simpa [text] using hrest) hafter
  have hblanks : ∀ c ∈ x.blanks, isBlank c = true ∧ c ≠ '\n' ∧ c ≠ '\r' := fun c hc => by
    rcases x.blanks_chars c hc with rfl | rfl <;> decide
  have htop₁ : lx₁.stack.top = providerAttributes := by rw [hpair.stack, htop]
  obtain ⟨lx₂, hgap, hrest₂⟩ := exists_readsRow_blanks (by decide) hpair.scans.idle_right htop₁
    hrest₁ hblanks ht
  refine ⟨lx₂, ?_, hrest₂⟩
  have hrow := hpair.trans hgap
  rwa [← List.filter_append] at hrow

/-- A list of attributes, or what ends it, starts with no blank within the line. -/
theorem head?_attributes (attributes : List Attribute)
    (ht : ∀ c ∈ t.head?, c = '\n' ∨ c = '#') :
    ∀ c ∈ (attributes.flatMap Attribute.text ++ t).head?, CharSet.innerBlank.holds c = false := by
  intro c hc
  cases attributes with
  | nil => rcases ht c hc with rfl | rfl <;> rfl
  | cons x attributes =>
    obtain ⟨d, key, hkey⟩ := List.exists_cons_of_ne_nil x.key_ne_nil
    have hsolid := solid_of_isKeyChar (x.key_chars d (by simp [hkey]))
    obtain rfl : d = c := by simpa [Attribute.text, hkey] using hc
    simp [CharSet.innerBlank, CharSet.holds, hsolid.1]

/-- The steps for a list of attributes. -/
theorem exists_readsRow_attributes (ht : ∀ c ∈ t.head?, c = '\n' ∨ c = '#') :
    ∀ (attributes : List Attribute) {lx : Lexer}, lx.Idle → lx.stack.top = providerAttributes →
      lx.rest = attributes.flatMap Attribute.text ++ t →
      (∀ x ∈ attributes.dropLast, x.closed = true) →
      ∃ lx', ReadsRow lx (attributes.flatMap Attribute.row) lx' ∧ lx'.rest = t
  | [], lx, hidle, _, hrest, _ => ⟨lx, .refl hidle, hrest⟩
  | x :: attributes, lx, hidle, htop, hrest, hclosed => by
    have hend : x.closed = false →
        ∀ c ∈ (attributes.flatMap Attribute.text ++ t).head?, c = '\n' ∨ c = '#' := by
      intro hopen
      cases attributes with
      | nil => exact ht
      | cons y attributes =>
        rw [hclosed x (by simp)] at hopen
        cases hopen
    have hmore : ∀ y ∈ attributes.dropLast, y.closed = true := by
      cases attributes with
      | nil => simp
      | cons y attributes => exact fun z hz => hclosed z (List.mem_cons_of_mem x hz)
    obtain ⟨lx₁, hfirst, hrest₁⟩ := x.exists_readsRow hidle htop
      (by simpa using hrest) (head?_attributes attributes ht) hend
    obtain ⟨lx₂, hothers, hrest₂⟩ := exists_readsRow_attributes ht attributes
      hfirst.scans.idle_right (hfirst.stack ▸ htop) hrest₁ hmore
    exact ⟨lx₂, hfirst.trans hothers, hrest₂⟩

end Scans

/-! ## The tokens of the line -/

section Tokens

variable {w b t : Text} {attributes : List Attribute}

theorem Attribute.keys_of_row (x : Attribute) :
    (x.row.filter (·.1 = identifier)).map Prod.snd = [x.key] := by
  rw [row, List.filter_filter]
  simp [x.key_ne_nil]

theorem Attribute.values_of_row (x : Attribute) :
    (x.row.filter (·.1 = string)).map Prod.snd = [x.value] := by
  rw [row, List.filter_filter]
  simp [x.value_ne_nil]

/-- If each row has one text of a category, the rows of a list have these. -/
theorem parts_of_rows {category : Category} {part : Attribute → Text}
    (h : ∀ x : Attribute, (x.row.filter (·.1 = category)).map Prod.snd = [part x])
    (attributes : List Attribute) :
    ((attributes.flatMap Attribute.row).filter (·.1 = category)).map Prod.snd =
      attributes.map part := by
  rw [List.filter_flatMap, List.map_flatMap, List.map_eq_flatMap]
  simp only [h]

/-- A `=` stands behind the first key. -/
theorem equalsAhead_attributes (hne : attributes ≠ []) :
    EqualsAhead (attributes.flatMap Attribute.text ++ t) := by
  obtain ⟨x, attributes, rfl⟩ := List.exists_cons_of_ne_nil hne
  have hkey : ∀ c ∈ x.key, (c != '#' && c != '\n') = true := fun c hc => by
    obtain ⟨-, hash, hnewline, -⟩ := solid_of_isKeyChar (x.key_chars c hc)
    simp [hash, hnewline]
  rw [EqualsAhead, List.flatMap_cons, Attribute.text, List.append_assoc, List.append_assoc,
    List.takeWhile_append_of_pos hkey]
  exact List.mem_append_right _ (List.mem_cons_self ..)

/-- The list is an argument of the directive. -/
theorem argumentLine_attributes (hne : attributes ≠ []) (hw : w.EqFold attributeDirective.toList)
    (hb : b.Blanks) :
    ArgumentLine attributeDirective w b (attributes.flatMap Attribute.text ++ t) := by
  obtain ⟨x, attributes, rfl⟩ := List.exists_cons_of_ne_nil hne
  obtain ⟨c, key, hkey⟩ := List.exists_cons_of_ne_nil x.key_ne_nil
  obtain ⟨hblank, hash, -⟩ := solid_of_isKeyChar (x.key_chars c (by simp [hkey]))
  exact ⟨hw, hb, c, _, by rw [List.flatMap_cons, Attribute.text, hkey]; rfl, hblank, hash⟩

/-- A list of attributes after the directive for them, with a separator behind each but the last,
is read back: the line gives the directive, the blanks, and the parts of each attribute.  So its
variables are the keys, and its strings are the values. -/
theorem attribute_list_tokens {source before ending : Text} (hne : attributes ≠ [])
    (hclosed : ∀ x ∈ attributes.dropLast, x.closed = true)
    (hw : w.EqFold attributeDirective.toList) (hb : b.Blanks)
    (hending : ∀ c ∈ ending.head?, c = '\n' ∨ c = '#')
    (hplace : LineAt source before
      (w ++ (b ++ (attributes.flatMap Attribute.text ++ ending)))) :
    ∃ lead line others, tokenize Language.pdfile.grammar source = lead ++ (line ++ others) ∧
      Tiles 0 before lead ∧
      line = Token.row before.size
        ((.keyword, w) :: (.whitespace, b) :: attributes.flatMap Attribute.row) ∧
      Token.textsOf .identifier line = attributes.map Attribute.key ∧
      Token.textsOf .string line = attributes.map Attribute.value := by
  obtain ⟨lx, hdirective, hrest, hstack⟩ :=
    (argumentLine_attributes hne hw hb).exists_readsLine_attributes hplace
      (equalsAhead_attributes hne)
  obtain ⟨lx', hlist, -⟩ := exists_readsRow_attributes hending attributes hdirective.idle
    (by rw [hstack]) hrest hclosed
  obtain ⟨lead, htokens, hlead⟩ := (hdirective.append hlist).exists_tokenize_eq
  refine ⟨lead, _, _, htokens, hlead, rfl, ?_, ?_⟩
  · rw [Token.textsOf_row]
    exact parts_of_rows Attribute.keys_of_row attributes
  · rw [Token.textsOf_row]
    exact parts_of_rows Attribute.values_of_row attributes

end Tokens

/-- A value with a `=`, and one with no separator before a comment. -/
theorem attribute_list_tokens_provider :
    let w : Text := ['P', 'r', 'o', 'v', 'i', 'd', 'e', 'r']
    let first : Text := ['a', '-', '1', '=', 'x', '=', 'y', ';', ' ']
    let second : Text := ['B', '=', 'é']
    let source : Text := w ++ ('\t' :: (first ++ (second ++ ['#', 'c'])))
    ∃ line others, tokenize Language.pdfile.grammar source = line ++ others ∧
      line = Token.row 0 [(.keyword, w), (.whitespace, ['\t']), (.identifier, ['a', '-', '1']),
        (.operator, ['=']), (.string, ['x', '=', 'y']), (.punctuation, [';']),
        (.whitespace, [' ']), (.identifier, ['B']), (.operator, ['=']), (.string, ['é'])] ∧
      Token.textsOf .identifier line = [['a', '-', '1'], ['B']] ∧
      Token.textsOf .string line = [['x', '=', 'y'], ['é']] := by
  intro w first second source
  let x : Attribute := ⟨['a', '-', '1'], ['x', '=', 'y'], true, [' '], by decide,
    List.all_eq_true.mp (by decide), by decide, by simp; decide, by simp⟩
  let y : Attribute := ⟨['B'], ['é'], false, [], by decide, List.all_eq_true.mp (by decide),
    by decide, by simp; decide, by simp⟩
  have hfold : w.EqFold attributeDirective.toList := by decide +kernel
  have hplace : LineAt source []
      (w ++ (['\t'] ++ ([x, y].flatMap Attribute.text ++ ['#', 'c']))) :=
    .first (by decide : isBlank 'P' = false)
  obtain ⟨lead, line, others, htokens, hlead, hline, hkeys, hvalues⟩ :=
    attribute_list_tokens (by simp) (by simp [x]) hfold ⟨by decide, by simp⟩ (by simp) hplace
  rw [hlead.eq_nil] at htokens
  exact ⟨line, others, htokens, hline, hkeys, hvalues⟩

end Highlighter.Pdfile
