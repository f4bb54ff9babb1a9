import Highlighter.Proofs.Render.Markup

/-!
# Tokens read back from markup

The markup of tokens is a document whose tags are those of the categories of the tokens,
and of the frame around the whole if there is one (`render_eq_write`).  A reader who knows
the options finds the tokens again as *pieces*: categories with their texts, where
neighboring whitespace is one piece and empty whitespace is none.  More than the pieces
cannot be found, since the markup depends on nothing else.
-/

namespace Highlighter.Html

/-! ## Pieces -/

/-- A category with a text before some pieces.  Whitespace is joined to whitespace, and left out if
it is empty. -/
def addPiece : Category × Text → List (Category × Text) → List (Category × Text)
  | (.whitespace, []), pieces => pieces
  | (.whitespace, w), (.whitespace, w') :: pieces => (.whitespace, w ++ w') :: pieces
  | piece, pieces => piece :: pieces

/-- The pieces of tokens. -/
def pieces (tokens : List Token) : List (Category × Text) :=
  tokens.foldr (fun t => addPiece (t.category, t.text)) []

/-- The piece of a text that is whitespace. -/
def bare (w : Text) : List (Category × Text) := if w = [] then [] else [(.whitespace, w)]

theorem addPiece_of_ne {category : Category} (h : category ≠ .whitespace) (w : Text)
    (others : List (Category × Text)) :
    addPiece (category, w) others = (category, w) :: others := by
  rw [addPiece] <;> simp [h]

/-- Whitespace before whitespace, before pieces of another kind. -/
theorem addPiece_bare {items : List (Category × Text)}
    (h : ∀ item ∈ items.head?, item.1 ≠ .whitespace) (u w : Text) :
    addPiece (.whitespace, u) (bare w ++ items) = bare (u ++ w) ++ items := by
  cases u with
  | nil => rfl
  | cons c u =>
    cases w with
    | cons d w => rfl
    | nil =>
      cases items with
      | nil => simp [addPiece, bare]
      | cons item items =>
        have hitem : item.1 ≠ .whitespace := h item rfl
        obtain ⟨category, w⟩ := item
        simp [bare, addPiece, hitem]

/-! ## The document of tokens -/

variable (options : Options)

/-- The tag that starts a piece. -/
def spanTag (category : Category) : Tag :=
  .opens "span".toList [("class".toList, options.classPrefix ++ category.cssClass.toList)]

/-- The tags of a token. -/
def tokenTags (t : Token) : List Tag :=
  if t.category = .whitespace then [] else [spanTag options t.category, .closes "span".toList]

/-- The tag that starts the frame around the whole. -/
def frameTag : Tag :=
  .opens "pre".toList [("class".toList, options.classPrefix ++ "highlight".toList)]

/-- The tags before those of the tokens. -/
def openingTags : List Tag :=
  if options.wrap then [frameTag options, .opens "code".toList []] else []

/-- The tags after those of the tokens. -/
def closingTags : List Tag :=
  if options.wrap then [.closes "code".toList, .closes "pre".toList] else []

/-- A text before a document. -/
def Document.addText (w : Text) (d : Document) : Document := { d with leading := w ++ d.leading }

/-- A tag before a document. -/
def Document.addTag (tag : Tag) (d : Document) : Document := ⟨[], (tag, d.leading) :: d.tags⟩

/-- A document of tags alone. -/
def Document.ofTags (tags : List Tag) : Document := tags.foldr addTag ⟨[], []⟩

/-- A token before a document. -/
def Document.addToken (t : Token) (d : Document) : Document :=
  if t.category = .whitespace then d.addText t.text
  else ((d.addTag (.closes "span".toList)).addText t.text).addTag (spanTag options t.category)

/-- The document of tokens, without what is before them. -/
def body (tokens : List Token) : Document :=
  tokens.foldr (Document.addToken options) (.ofTags (closingTags options))

/-- The document of tokens. -/
def document (tokens : List Token) : Document :=
  (openingTags options).foldr Document.addTag (body options tokens)

section Written

variable {options}

namespace Document

theorem write_addText (w : Text) (d : Document) : (d.addText w).write = escape w ++ d.write := by
  rw [write, addText, escape_append, List.append_assoc]
  rfl

theorem write_addTag (tag : Tag) (d : Document) :
    (d.addTag tag).write = '<' :: tag.write ++ '>' :: d.write := by
  simp [write, addTag, writePart, escape]

theorem write_addToken (t : Token) (d : Document) :
    (d.addToken options t).write = token options t ++ d.write := by
  by_cases hblank : t.category = .whitespace
  · rw [addToken, if_pos hblank, token, if_pos (beq_iff_eq.mpr hblank), write_addText]
  · rw [addToken, if_neg hblank, token, if_neg (by simpa using hblank), write_addTag,
      write_addText, write_addTag]
    simp [spanTag, Tag.write, writeAttribute, escape_append, escape_cssClass]

end Document

theorem write_closingTags : (Document.ofTags (closingTags options)).write = closing options := by
  rw [closingTags, closing]
  split
  · rw [Document.ofTags, List.foldr_cons, List.foldr_cons, List.foldr_nil, Document.write_addTag,
      Document.write_addTag]
    rfl
  · rfl

theorem write_openingTags (d : Document) :
    ((openingTags options).foldr Document.addTag d).write = opening options ++ d.write := by
  have hname : escape "highlight".toList = "highlight".toList := rfl
  rw [openingTags, opening]
  split
  · rw [List.foldr_cons, List.foldr_cons, List.foldr_nil, Document.write_addTag,
      Document.write_addTag]
    simp only [frameTag, Tag.write, writeAttribute, escape_append, hname, List.flatMap_cons,
      List.flatMap_nil]
    simp
  · rfl

theorem write_body (tokens : List Token) :
    (body options tokens).write = tokens.flatMap (token options) ++ closing options := by
  induction tokens with
  | nil => exact write_closingTags
  | cons t tokens ih =>
    rw [List.flatMap_cons, List.append_assoc, ← ih]
    exact Document.write_addToken t (body options tokens)

/-- The markup of tokens is what is written of their document. -/
theorem render_eq_write (tokens : List Token) :
    render options tokens = (document options tokens).write := by
  rw [document, write_openingTags, write_body, render, List.append_assoc]

end Written

/-! ## Tags and text of the document -/

section Tags

variable {options}

namespace Document

/-- The tags of a document, without the text behind them. -/
def names (d : Document) : List Tag := d.tags.map Prod.fst

theorem names_foldr_addTag (tags : List Tag) (d : Document) :
    (tags.foldr addTag d).names = tags ++ d.names := by
  induction tags with
  | nil => rfl
  | cons tag tags ih => rw [List.foldr_cons, List.cons_append, ← ih]; rfl

theorem text_foldr_addTag (tags : List Tag) (d : Document) :
    (tags.foldr addTag d).text = d.text := by
  induction tags with
  | nil => rfl
  | cons tag tags ih =>
    rw [List.foldr_cons, ← ih]
    simp [addTag, text]

theorem names_addToken (t : Token) (d : Document) :
    (d.addToken options t).names = tokenTags options t ++ d.names := by
  rw [addToken, tokenTags]
  split <;> rfl

theorem text_addToken (t : Token) (d : Document) :
    (d.addToken options t).text = t.text ++ d.text := by
  rw [addToken]
  split <;> simp [addTag, addText, text]

end Document

theorem names_document (tokens : List Token) :
    (document options tokens).names =
      openingTags options ++ tokens.flatMap (tokenTags options) ++ closingTags options := by
  have hbody : (body options tokens).names =
      tokens.flatMap (tokenTags options) ++ closingTags options := by
    induction tokens with
    | nil =>
      exact (Document.names_foldr_addTag (closingTags options) ⟨[], []⟩).trans (List.append_nil _)
    | cons t tokens ih =>
      rw [List.flatMap_cons, List.append_assoc, ← ih]
      exact Document.names_addToken t (body options tokens)
  rw [document, Document.names_foldr_addTag, hbody, List.append_assoc]

theorem text_document (tokens : List Token) :
    (document options tokens).text = detokenize tokens := by
  rw [document, Document.text_foldr_addTag]
  induction tokens with
  | nil => exact Document.text_foldr_addTag (closingTags options) ⟨[], []⟩
  | cons t tokens ih =>
    rw [detokenize, List.flatMap_cons, ← detokenize, ← ih]
    exact Document.text_addToken t (body options tokens)

theorem named_document (tokens : List Token) : (document options tokens).Named := by
  have hspan : IsName "span".toList := by decide
  have hclass : IsName "class".toList := by decide
  have hopening : ∀ tag ∈ openingTags options, tag.Named := by
    rw [openingTags]
    split
    · simp only [List.forall_mem_cons]
      exact ⟨⟨by decide, by simpa using hclass⟩, ⟨by decide, by simp⟩, by simp⟩
    · simp
  have hclosing : ∀ tag ∈ closingTags options, tag.Named := by
    rw [closingTags]
    split
    · simp only [List.forall_mem_cons]
      exact ⟨(by decide : IsName "code".toList), (by decide : IsName "pre".toList), by simp⟩
    · simp
  have htoken : ∀ t, ∀ tag ∈ tokenTags options t, tag.Named := by
    intro t
    rw [tokenTags]
    split
    · simp
    · simp only [List.forall_mem_cons]
      exact ⟨⟨hspan, by simpa using hclass⟩, hspan, by simp⟩
  intro part hpart
  have hmem : part.1 ∈ (document options tokens).names := List.mem_map_of_mem hpart
  rw [names_document, List.mem_append, List.mem_append, List.mem_flatMap] at hmem
  rcases hmem with (hmem | ⟨t, -, hmem⟩) | hmem
  · exact hopening _ hmem
  · exact htoken t _ hmem
  · exact hclosing _ hmem

end Tags

/-! ## Reading -/

/-- The category with a class. -/
def ofClass? (t : Text) : Option Category := Category.all.find? (·.cssClass.toList == t)

/-- The category of a piece, from the tag that starts it. -/
def spanCategory? : Tag → Option Category
  | .opens name [(key, value)] =>
    if name = "span".toList ∧ key = "class".toList then
      (Text.stripStart? options.classPrefix value).bind ofClass?
    else none
  | _ => none

/-- The document behind some tags that it starts with, without text between them. -/
def removeTags? : List Tag → Document → Option Document
  | [], d => some d
  | tag :: more, ⟨[], (start, w) :: tags⟩ =>
    if start = tag then removeTags? more ⟨w, tags⟩ else none
  | _, _ => none

/-- The pieces of the tags up to those that end the whole. -/
def readPieces? (tags : List (Tag × Text)) : Option (List (Category × Text)) :=
  if tags = (closingTags options).map (·, []) then some []
  else
    match tags with
    | (start, w) :: (stop, behind) :: others => do
      let category ← spanCategory? options start
      let more ← if stop = .closes "span".toList then readPieces? others else none
      return (category, w) :: bare behind ++ more
    | _ => none

/-- The pieces of a markup. -/
def read? (t : Text) : Option (List (Category × Text)) := do
  let d ← Document.read? t
  let inner ← removeTags? (openingTags options) d
  let more ← readPieces? options inner.tags
  return bare inner.leading ++ more

section Read

variable {options}

theorem spanCategory?_spanTag (category : Category) :
    spanCategory? options (spanTag options category) = some category := by
  have hclass : ofClass? category.cssClass.toList = some category := by cases category <;> rfl
  have hprefix : Text.stripStart? options.classPrefix
      (options.classPrefix ++ category.cssClass.toList) = some category.cssClass.toList :=
    Text.stripStart?_eq_some_iff.mpr rfl
  rw [spanTag, spanCategory?, if_pos ⟨rfl, rfl⟩, hprefix, Option.bind_some, hclass]

theorem removeTags?_foldr_addTag (tags : List Tag) (d : Document) :
    removeTags? tags (tags.foldr Document.addTag d) = some d := by
  induction tags with
  | nil => rfl
  | cons tag tags ih =>
    rw [List.foldr_cons, Document.addTag, removeTags?, if_pos rfl]
    exact ih

theorem leading_ofTags (tags : List Tag) : (Document.ofTags tags).leading = [] := by
  cases tags <;> rfl

theorem tags_ofTags (tags : List Tag) : (Document.ofTags tags).tags = tags.map (·, []) := by
  induction tags with
  | nil => rfl
  | cons tag tags ih =>
    rw [List.map_cons, ← ih, ← leading_ofTags tags]
    rfl

theorem readPieces?_closingTags :
    readPieces? options ((closingTags options).map (·, [])) = some [] := by
  unfold readPieces?
  exact if_pos rfl

/-- The tags of a piece, before those of other pieces. -/
theorem readPieces?_span (category : Category) (w behind : Text) {others : List (Tag × Text)}
    {items : List (Category × Text)} (h : readPieces? options others = some items) :
    readPieces? options
        ((spanTag options category, w) :: (.closes "span".toList, behind) :: others) =
      some ((category, w) :: (bare behind ++ items)) := by
  -- The tags that end the whole do not start with that of a piece.
  have hne : (spanTag options category, w) :: (Tag.closes "span".toList, behind) :: others ≠
      (closingTags options).map (·, []) := by
    rw [closingTags]
    split <;> simp [spanTag]
  unfold readPieces?
  rw [if_neg hne]
  simp only [spanCategory?_spanTag, if_true, h]
  rfl

/-- The pieces of the tokens of a body: whitespace before its first tag, and what its tags give. -/
theorem exists_readPieces?_body (tokens : List Token) :
    ∃ items, readPieces? options (body options tokens).tags = some items ∧
      (∀ item ∈ items.head?, item.1 ≠ .whitespace) ∧
      pieces tokens = bare (body options tokens).leading ++ items := by
  induction tokens with
  | nil =>
    have hleading : (body options []).leading = [] := leading_ofTags (closingTags options)
    have htags : (body options []).tags = (closingTags options).map (·, []) :=
      tags_ofTags (closingTags options)
    exact ⟨[], htags ▸ readPieces?_closingTags, by simp, by rw [hleading]; rfl⟩
  | cons t tokens ih =>
    obtain ⟨items, hread, hhead, hpieces⟩ := ih
    have hbody : body options (t :: tokens) = (body options tokens).addToken options t := rfl
    have hjoined : pieces (t :: tokens) = addPiece (t.category, t.text) (pieces tokens) := rfl
    by_cases hblank : t.category = .whitespace
    · rw [Document.addToken, if_pos hblank] at hbody
      refine ⟨items, by rw [hbody]; exact hread, hhead, ?_⟩
      rw [hbody, hjoined, hblank, hpieces, addPiece_bare hhead]
      rfl
    · rw [Document.addToken, if_neg hblank] at hbody
      refine ⟨(t.category, t.text) :: pieces tokens, ?_, by simpa using hblank, ?_⟩
      · rw [hbody, hpieces]
        simpa [Document.addTag, Document.addText] using
          readPieces?_span t.category t.text (body options tokens).leading hread
      · rw [hbody, hjoined, addPiece_of_ne hblank]
        rfl

/-- The pieces of tokens are read from their markup. -/
theorem read?_render (tokens : List Token) :
    read? options (render options tokens) = some (pieces tokens) := by
  obtain ⟨items, hread, -, hpieces⟩ := @exists_readPieces?_body options tokens
  have hinner : removeTags? (openingTags options) (document options tokens) =
      some (body options tokens) := removeTags?_foldr_addTag ..
  rw [read?, render_eq_write, Document.read?_write (named_document tokens)]
  simp only [Option.bind_eq_bind, Option.bind_some, hinner, hread, hpieces]
  rfl

end Read

/-! ## Markup of pieces -/

/-- The markup of a piece. -/
def pieceMarkup (piece : Category × Text) : Text := token options ⟨piece.1, 0, 0, piece.2⟩

theorem pieceMarkup_whitespace (w : Text) :
    pieceMarkup options (.whitespace, w) = escape w := rfl

theorem flatMap_addPiece (piece : Category × Text) (others : List (Category × Text)) :
    (addPiece piece others).flatMap (pieceMarkup options) =
      pieceMarkup options piece ++ others.flatMap (pieceMarkup options) := by
  fun_cases addPiece piece others with
  | case1 => rfl
  | case2 => simp [pieceMarkup_whitespace, escape_append]
  | case3 => rfl

/-- The markup of tokens is that of their pieces. -/
theorem flatMap_token (tokens : List Token) :
    tokens.flatMap (token options) = (pieces tokens).flatMap (pieceMarkup options) := by
  induction tokens with
  | nil => rfl
  | cons t tokens ih =>
    rw [List.flatMap_cons, ih]
    exact (flatMap_addPiece options (t.category, t.text) (pieces tokens)).symm

/-! ## What the markup tells -/

/-- The markup of tokens tells their pieces and nothing else about them.  Without its tags, and with
its entities decoded, it is the text of the tokens.  Its tags are those of the frame and one pair
for each token that is no whitespace, each start with the one attribute whose value is the prefix
and a class, whatever the texts and the prefix are. -/
theorem markup_tells_pieces (tokens : List Token) :
    read? options (render options tokens) = some (pieces tokens) ∧
    (∀ others, render options others = render options tokens ↔ pieces others = pieces tokens) ∧
    decode (stripTags (render options tokens)) = detokenize tokens ∧
    (Document.read? (render options tokens)).map Document.names =
      some (openingTags options ++ tokens.flatMap (tokenTags options) ++ closingTags options) := by
  have hnamed := @named_document options tokens
  refine ⟨read?_render tokens, fun others => ⟨fun h => ?_, fun h => ?_⟩, ?_, ?_⟩
  · have hread := @read?_render options others
    rw [h, read?_render] at hread
    exact (Option.some.inj hread).symm
  · rw [render, render, flatMap_token, flatMap_token, h]
  · rw [render_eq_write, Document.stripTags_write hnamed, decode_escape, text_document]
  · rw [render_eq_write, Document.read?_write hnamed, Option.map_some, names_document]

end Highlighter.Html
