import Highlighter.Proofs.Render.Entities
import Highlighter.Proofs.Separators

/-!
# Markup read back

A reader of markup cuts it at the angle brackets, reads the name and the attributes of
each tag, and decodes the entities of attribute values and of the text between tags.
The result is a *document*: the text before the first tag, and each tag with the text
behind it (`Document.read?`).  A document whose names are words is read back from what
is written of it (`Document.read?_write`), whatever its texts and the values of its
attributes are, and what is left without its tags is its text (`Document.stripTags_write`).
-/

namespace Highlighter.Html

/-! ## Documents -/

/-- A tag. -/
inductive Tag where
  /-- The start of an element, with its attributes. -/
  | opens (name : Text) (attributes : List (Text × Text))
  /-- The end of an element. -/
  | closes (name : Text)
  deriving DecidableEq, Repr

/-- A text with tags. -/
structure Document where
  /-- The text before the first tag. -/
  leading : Text
  /-- The tags, each with the text behind it. -/
  tags : List (Tag × Text)
  deriving DecidableEq, Repr

/-- An attribute of a tag as it is written. -/
def writeAttribute (a : Text × Text) : Text :=
  ' ' :: a.1 ++ '=' :: '"' :: escape a.2 ++ ['"']

/-- What is written between the angle brackets of a tag. -/
def Tag.write : Tag → Text
  | opens name attributes => name ++ attributes.flatMap writeAttribute
  | closes name => '/' :: name

/-- A tag and the text behind it, without the first angle bracket. -/
def writePart (part : Tag × Text) : Text := part.1.write ++ '>' :: escape part.2

/-- A document as it is written. -/
def Document.write (d : Document) : Text :=
  escape d.leading ++ (d.tags.map writePart).flatMap ('<' :: ·)

/-- The text of a document without its tags. -/
def Document.text (d : Document) : Text := d.leading ++ d.tags.flatMap Prod.snd

/-! ## Reading -/

/-- The name of an attribute, from what stands before its value. -/
def readLabel? : Text → Option Text
  | ' ' :: t =>
    match Text.splitAt '=' t with
    | [name, []] => some name
    | _ => none
  | _ => none

/-- The attributes of a tag, from its parts outside and inside of quotes by turns. -/
def readAttributes? : List Text → Option (List (Text × Text))
  | [[]] => some []
  | label :: value :: more => do
    let name ← readLabel? label
    let others ← readAttributes? more
    return (name, decode value) :: others
  | _ => none

/-- A tag, from what is written between its angle brackets. -/
def Tag.read? : Text → Option Tag
  | '/' :: name => some (closes name)
  | t =>
    (readAttributes? (Text.splitAt '"' (t.dropWhile (· != ' ')))).map
      (opens (t.takeWhile (· != ' ')))

/-- A tag and the text behind it. -/
def readPart? (part : Text) : Option (Tag × Text) :=
  match Text.splitAt '>' part with
  | [tag, behind] => (Tag.read? tag).map (·, decode behind)
  | _ => none

/-- The document of a text. -/
def Document.read? (t : Text) : Option Document :=
  match Text.splitAt '<' t with
  | leading :: parts =>
    if '>' ∈ leading then none else (parts.mapM readPart?).map (⟨decode leading, ·⟩)
  | [] => none

/-- What stands behind the first `>`. -/
def behindTag (part : Text) : Text := (part.dropWhile (· != '>')).drop 1

/-- A text without everything from a `<` to the next `>`. -/
def stripTags (t : Text) : Text :=
  match Text.splitAt '<' t with
  | leading :: parts => leading ++ parts.flatMap behindTag
  | [] => []

/-! ## Documents with plain names -/

/-- A text of letters. -/
def IsName (t : Text) : Prop := ∀ c ∈ t, c.isAlpha = true

instance (t : Text) : Decidable (IsName t) := List.decidableBAll ..

/-- A tag whose names are words. -/
def Tag.Named : Tag → Prop
  | opens name attributes => IsName name ∧ ∀ a ∈ attributes, IsName a.1
  | closes name => IsName name

/-- A document whose tags have words as names. -/
def Document.Named (d : Document) : Prop := ∀ part ∈ d.tags, part.1.Named

theorem IsName.not_mem {t : Text} (h : IsName t) {c : Char} (hc : c.isAlpha = false) : c ∉ t := by
  intro hmem
  rw [h c hmem] at hc
  cases hc

theorem not_mem_writeAttribute {c : Char} (hc : c = '<' ∨ c = '>') {a : Text × Text}
    (h : IsName a.1) : c ∉ writeAttribute a := by
  have hname : c ∉ a.1 := h.not_mem (by rcases hc with rfl | rfl <;> rfl)
  have hvalue : c ∉ escape a.2 :=
    not_mem_escape (by rcases hc with rfl | rfl <;> decide) a.2
  rcases hc with rfl | rfl <;> simp [writeAttribute, hname, hvalue]

theorem Tag.Named.not_mem_write {c : Char} (hc : c = '<' ∨ c = '>') {tag : Tag} (h : tag.Named) :
    c ∉ tag.write := by
  have halpha : c.isAlpha = false := by rcases hc with rfl | rfl <;> rfl
  cases tag with
  | opens name attributes =>
    rw [write, List.mem_append, List.mem_flatMap]
    rintro (hmem | ⟨a, ha, hmem⟩)
    · exact h.1.not_mem halpha hmem
    · exact not_mem_writeAttribute hc (h.2 a ha) hmem
  | closes name =>
    rw [write, List.mem_cons]
    rintro (hslash | hmem)
    · rcases hc with rfl | rfl <;> cases hslash
    · exact IsName.not_mem h halpha hmem

/-! ## What is written is read -/

theorem readLabel?_write {name : Text} (h : IsName name) :
    readLabel? (' ' :: name ++ ['=']) = some name := by
  rw [List.cons_append, readLabel?, Text.splitAt_append (h.not_mem (by decide))]
  rfl

theorem readAttributes?_write {attributes : List (Text × Text)}
    (h : ∀ a ∈ attributes, IsName a.1) :
    readAttributes? (Text.splitAt '"' (attributes.flatMap writeAttribute)) = some attributes := by
  induction attributes with
  | nil => rfl
  | cons a others ih =>
    rw [List.forall_mem_cons] at h
    have hlabel : '"' ∉ ' ' :: a.1 ++ ['='] := by
      simp [h.1.not_mem (by decide : '"'.isAlpha = false)]
    have hvalue : '"' ∉ escape a.2 := not_mem_escape (by decide) a.2
    have hwritten : (a :: others).flatMap writeAttribute =
        (' ' :: a.1 ++ ['=']) ++
          '"' :: (escape a.2 ++ '"' :: others.flatMap writeAttribute) := by
      simp [writeAttribute]
    rw [hwritten, Text.splitAt_append hlabel, Text.splitAt_append hvalue, readAttributes?,
      readLabel?_write h.1, ih h.2, decode_escape]
    rfl

/-- A tag is read from what is written of it. -/
theorem Tag.read?_write {tag : Tag} (h : tag.Named) : read? tag.write = some tag := by
  cases tag with
  | closes name => rfl
  | opens name attributes =>
    -- The name ends at the first blank, which is before the first attribute.
    have hname : ∀ c ∈ name, (c != ' ') = true := fun c hc =>
      bne_iff_ne.mpr fun hblank => h.1.not_mem (by decide) (hblank ▸ hc)
    have hattributes : (attributes.flatMap writeAttribute).takeWhile (· != ' ') = [] ∧
        (attributes.flatMap writeAttribute).dropWhile (· != ' ') =
          attributes.flatMap writeAttribute := by
      cases attributes with
      | nil => exact ⟨rfl, rfl⟩
      | cons a others => exact ⟨rfl, rfl⟩
    have hslash : ∀ t, name ++ attributes.flatMap writeAttribute ≠ '/' :: t := by
      intro t heq
      cases name with
      | nil => cases attributes with
        | nil => cases heq
        | cons a others => exact absurd (List.head_eq_of_cons_eq heq) (by decide)
      | cons c name =>
        rw [List.head_eq_of_cons_eq heq] at h
        exact absurd (h.1 '/' List.mem_cons_self) (by decide)
    rw [write, read?]
    · rw [List.takeWhile_append_of_pos hname, List.dropWhile_append_of_pos hname, hattributes.1,
        hattributes.2, readAttributes?_write h.2, List.append_nil]
      rfl
    · exact hslash

theorem readPart?_write {part : Tag × Text} (h : part.1.Named) :
    readPart? (writePart part) = some part := by
  have htag : '>' ∉ part.1.write := h.not_mem_write (.inr rfl)
  have hbehind : '>' ∉ escape part.2 := not_mem_escape (by decide) part.2
  rw [writePart, readPart?, Text.splitAt_append htag, Text.splitAt_of_not_mem hbehind]
  simp only [Tag.read?_write h, decode_escape, Option.map_some]

theorem behindTag_write {part : Tag × Text} (h : part.1.Named) :
    behindTag (writePart part) = escape part.2 := by
  have htag : ∀ c ∈ part.1.write, (c != '>') = true := fun c hc =>
    bne_iff_ne.mpr fun hends => h.not_mem_write (.inr rfl) (hends ▸ hc)
  rw [behindTag, writePart, List.dropWhile_append_of_pos htag]
  rfl

theorem flatMap_behindTag_write {parts : List (Tag × Text)} (h : ∀ part ∈ parts, part.1.Named) :
    (parts.map writePart).flatMap behindTag = escape (parts.flatMap Prod.snd) := by
  induction parts with
  | nil => rfl
  | cons part others ih =>
    rw [List.forall_mem_cons] at h
    rw [List.map_cons, List.flatMap_cons, List.flatMap_cons, escape_append, behindTag_write h.1,
      ih h.2]

namespace Document

variable {d : Document}

/-- The written document, cut at the starts of its tags. -/
theorem Named.splitAt_write (h : d.Named) :
    Text.splitAt '<' d.write = escape d.leading :: d.tags.map writePart := by
  refine Text.splitAt_append_flatMap (not_mem_escape (by decide) d.leading) ?_
  intro t ht
  obtain ⟨part, hpart, rfl⟩ := List.mem_map.mp ht
  have htag : '<' ∉ part.1.write := (h part hpart).not_mem_write (.inl rfl)
  have hbehind : '<' ∉ escape part.2 := not_mem_escape (by decide) part.2
  simp [writePart, htag, hbehind]

/-- A document is read from what is written of it. -/
theorem read?_write (h : d.Named) : read? d.write = some d := by
  have hparts : (d.tags.map writePart).mapM readPart? = some d.tags :=
    Text.mapM_map_eq_some fun part hpart => readPart?_write (h part hpart)
  have hleading : '>' ∉ escape d.leading := not_mem_escape (by decide) d.leading
  rw [read?, h.splitAt_write]
  simp only [if_neg hleading, hparts, decode_escape, Option.map_some]

/-- Without its tags a written document is its text, escaped. -/
theorem stripTags_write (h : d.Named) : stripTags d.write = escape d.text := by
  rw [stripTags, h.splitAt_write, text, escape_append, ← flatMap_behindTag_write h]

end Document

end Highlighter.Html
