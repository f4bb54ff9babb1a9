import Mathlib.Data.List.TakeDrop
import Mathlib.Data.List.TakeWhile
import Highlighter.Json.Basic
import Highlighter.Json.Read
import Highlighter.Proofs.Render.QuotedTexts

/-!
# JSON values read back

A reader of JSON documents, and the proof that it gives back every value that is printed
over several lines (`Value.read?_print`).

The reader knows all of JSON, and not only what is printed here: blanks may stand between
any two parts, strings may have any escape, and there are truth values, the absent value
and numbers with a sign, a point and an exponent.  A number is kept exactly, as a decimal,
whatever its size.

An array and an object have the same form, with other brackets and other members.  So there
is one reader for the members (`readMembers`), one lemma for what it does
(`readMembers_written`), and the induction over the value has one case for each of the two.
-/

namespace Highlighter.Json

/-- A JSON value as a reader takes it. -/
inductive Value where
  /-- The absent value. -/
  | null
  /-- A truth value. -/
  | boolean (b : Bool)
  /-- A number. -/
  | number (d : Decimal)
  /-- A string. -/
  | string (t : Text)
  /-- An array. -/
  | array (items : List Value)
  /-- An object, its fields in order. -/
  | object (fields : List (Text × Value))

/-! ## The reader -/

/-- A number, and the rest. -/
def readDecimal? (t : Text) : Option (Decimal × Text) :=
  let (negative, t) :=
    match t with
    | '-' :: rest => (true, rest)
    | _ => (false, t)
  let (whole, t) := t.span (Digits.isDigit 10)
  if whole.isEmpty || (whole.head? == some '0' && whole.length ≠ 1) then none
  else do
    let (part, t) ← readFraction? t
    let (exponent, t) ← readExponent? t
    return (⟨negative, Digits.extend 10 0 (whole ++ part), exponent.getD 0 - part.length⟩, t)

/-- A value without members, and the rest. -/
def readSimple? : Text → Option (Value × Text)
  | 'n' :: rest => (Text.stripStart? "ull".toList rest).map fun rest => (.null, rest)
  | 't' :: rest => (Text.stripStart? "rue".toList rest).map fun rest => (.boolean true, rest)
  | 'f' :: rest => (Text.stripStart? "alse".toList rest).map fun rest => (.boolean false, rest)
  | '"' :: rest => (readString rest).map fun (t, rest) => (.string t, rest)
  | t => (readDecimal? t).map fun (d, rest) => (.number d, rest)

section Members

variable {α : Type} (readMember : Text → Option (α × Text)) (close : Char)

/-- The members behind the first, each behind a comma, up to a closing bracket.  The number bounds
how many there are. -/
def readMore : Nat → Text → Option (List α × Text)
  | 0, _ => none
  | n + 1, t =>
    match skipBlanks t with
    | [] => none
    | c :: rest =>
      if c = close then some ([], rest)
      else if c = ',' then do
        let (a, rest) ← readMember rest
        let (more, rest) ← readMore n rest
        return (a :: more, rest)
      else none

/-- The members up to a closing bracket. -/
def readMembers (n : Nat) (t : Text) : Option (List α × Text) :=
  if (skipBlanks t).head? = some close then some ([], (skipBlanks t).tail)
  else do
    let (a, rest) ← readMember t
    let (more, rest) ← readMore readMember close n rest
    return (a :: more, rest)

end Members

/-- A field of an object, and the rest. -/
def readField? (readValue? : Text → Option (Value × Text)) (t : Text) :
    Option ((Text × Value) × Text) :=
  match skipBlanks t with
  | '"' :: rest => do
    let (key, rest) ← readString rest
    match skipBlanks rest with
    | ':' :: rest =>
      let (value, rest) ← readValue? rest
      return ((key, value), rest)
    | _ => none
  | _ => none

/-- A value, and the rest.  The number bounds how many members an array or an object has and how
deep values lie within values. -/
def readValue? : Nat → Text → Option (Value × Text)
  | 0, _ => none
  | n + 1, t =>
    match skipBlanks t with
    | '[' :: rest =>
      (readMembers (readValue? n) ']' n rest).map fun (items, rest) => (.array items, rest)
    | '\x7b' :: rest =>
      (readMembers (readField? (readValue? n)) '\x7d' n rest).map fun (fields, rest) =>
        (.object fields, rest)
    | t => readSimple? t

/-- The value of a document.  A document has more characters than members and depth. -/
def Value.read? (document : Text) : Option Value := do
  let (value, rest) ← readValue? (document.length + 1) document
  if (skipBlanks rest).isEmpty then some value else none

/-! ## What is printed -/

/-- A number that counts something. -/
def Value.natural (n : Nat) : Value := .number ⟨false, n, 0⟩

mutual

/-- What a value is for a reader. -/
def value : Json → Value
  | str t => .string t
  | num n => .natural n
  | arr items => .array (values items)
  | obj fields => .object (fieldValues fields)

/-- What values are for a reader. -/
def values : List Json → List Value
  | [] => []
  | item :: rest => item.value :: values rest

/-- What fields are for a reader. -/
def fieldValues : List (Text × Json) → List (Text × Value)
  | [] => []
  | field :: rest => (field.1, field.2.value) :: fieldValues rest

end

theorem values_eq_map (items : List Json) : values items = items.map value := by
  induction items with
  | nil => rfl
  | cons item rest ih => rw [values, ih, List.map_cons]

theorem fieldValues_eq_map (fields : List (Text × Json)) :
    fieldValues fields = fields.map fun field => (field.1, field.2.value) := by
  induction fields with
  | nil => rfl
  | cons field rest ih => rw [fieldValues, ih, List.map_cons]

/-- What holds of values without members, and of an array and an object if it holds of all their
members, holds of every value. -/
@[elab_as_elim]
theorem induction {P : Json → Prop} (str : ∀ t, P (.str t)) (num : ∀ n, P (.num n))
    (arr : ∀ items, (∀ j ∈ items, P j) → P (.arr items))
    (obj : ∀ fields, (∀ field ∈ fields, P field.2) → P (.obj fields)) : ∀ j, P j :=
  @Json.rec P (fun items => ∀ j ∈ items, P j) (fun fields => ∀ field ∈ fields, P field.2)
    (fun field => P field.2) str num arr obj (List.forall_mem_nil _)
    (fun _ _ hitem hrest => List.forall_mem_cons.mpr ⟨hitem, hrest⟩) (List.forall_mem_nil _)
    (fun _ _ hfield hrest => List.forall_mem_cons.mpr ⟨hfield, hrest⟩) (fun _ _ hvalue => hvalue)

/-! ## Blanks -/

theorem isBlank_of_mem_lineAt (depth : Nat) : ∀ c ∈ lineAt depth, isBlank c = true := by
  intro c hc
  rcases List.mem_cons.mp hc with rfl | hc
  · rfl
  · rw [List.eq_of_mem_replicate hc]
    rfl

/-- The line break and the indentation are passed over. -/
theorem skipBlanks_lineAt_append (depth : Nat) (t : Text) :
    skipBlanks (lineAt depth ++ t) = skipBlanks t :=
  List.dropWhile_append_of_pos (isBlank_of_mem_lineAt depth)

theorem skipBlanks_cons {c : Char} (hc : isBlank c = false) (t : Text) :
    skipBlanks (c :: t) = c :: t :=
  List.dropWhile_cons_of_neg (by simp [hc])

theorem isBlank_eq_false_of_digit {d : Char} (hd : ∀ c, Digits.isDigit 10 c = false → d ≠ c) :
    isBlank d = false := by
  simp [isBlank, hd ' ' (by decide), hd '\n' (by decide), hd '\t' (by decide),
    hd '\r' (by decide)]

theorem readValue?_lineAt_append (n depth : Nat) (t : Text) :
    readValue? n (lineAt depth ++ t) = readValue? n t := by
  cases n with
  | zero => rfl
  | succ n => rw [readValue?, readValue?, skipBlanks_lineAt_append]

/-! ## Strings and numbers -/

theorem toNat_read (c : Char) (hc : c.toNat < 32) :
    Digits.read? 16 ['0', '0', hexDigit (c.toNat / 16), hexDigit (c.toNat % 16)] =
      some c.toNat := by
  have hcode : ∀ n < 32,
      Digits.read? 16 ['0', '0', hexDigit (n / 16), hexDigit (n % 16)] = some n := by decide
  exact hcode c.toNat hc

/-- The ways a character is written in a string. -/
theorem escape_cases (c : Char) :
    (∃ d, d ≠ 'u' ∧ shortEscape? d = some c ∧ escape c = ['\\', d]) ∨
      (c.toNat < 32 ∧
        escape c = ['\\', 'u', '0', '0', hexDigit (c.toNat / 16), hexDigit (c.toNat % 16)]) ∨
      (32 ≤ c.toNat ∧ c ≠ '"' ∧ c ≠ '\\' ∧ escape c = [c]) := by
  rw [escape]
  simp only [beq_iff_eq]
  split
  · next h => exact .inl ⟨'"', by decide, congrArg some h.symm, rfl⟩
  split
  · next h => exact .inl ⟨'\\', by decide, congrArg some h.symm, rfl⟩
  split
  · next h => exact .inl ⟨'b', by decide, congrArg some h.symm, rfl⟩
  split
  · next h => exact .inl ⟨'t', by decide, congrArg some h.symm, rfl⟩
  split
  · next h => exact .inl ⟨'n', by decide, congrArg some h.symm, rfl⟩
  split
  · next h => exact .inl ⟨'f', by decide, congrArg some h.symm, rfl⟩
  split
  · next h => exact .inl ⟨'r', by decide, congrArg some h.symm, rfl⟩
  split
  · next h => exact .inr (.inl ⟨h, rfl⟩)
  · next hquote hbackslash _ _ _ _ _ h =>
    exact .inr (.inr ⟨Nat.le_of_not_lt h, hquote, hbackslash, rfl⟩)

/-- The reader goes past a character as it is written, and has read the character. -/
theorem readString_escape (c : Char) (rest : Text) :
    readString (escape c ++ rest) = (readString rest).map fun (t, rest) => (c :: t, rest) := by
  rcases escape_cases c with ⟨d, hd, hletter, hescape⟩ | ⟨hcode, hescape⟩ |
    ⟨hcode, hquote, hbackslash, hescape⟩
  · rw [hescape, List.cons_append, List.cons_append, List.nil_append, readString]
    · rw [hletter]
    · simp [hd]
  · have hleading : isLeading c.toNat = false := by
      rw [isLeading, decide_eq_false_iff_not]
      omega
    rw [hescape]
    simp only [List.cons_append, List.nil_append, readString, toNat_read c hcode, hleading,
      Text.charOf?_toNat, Bool.false_eq_true, if_false]
  · rw [hescape, List.singleton_append, readString]
    · simp [hbackslash, Nat.not_lt.mpr hcode]
    all_goals simp [hquote, hbackslash]

/-- A quoted string is read up to its closing quote. -/
theorem readString_flatMap (t rest : Text) :
    readString (t.flatMap escape ++ '"' :: rest) = some (t, rest) := by
  induction t with
  | nil => rw [List.flatMap_nil, List.nil_append, readString]
  | cons c t ih =>
    rw [List.flatMap_cons, List.append_assoc, readString_escape, ih, Option.map_some]

/-! ## Numbers -/

/-- What ends a number in a document: no digit, no point and no exponent follows. -/
def EndsNumber (t : Text) : Prop :=
  ∀ c ∈ t.head?, Digits.isDigit 10 c = false ∧ c ≠ '.' ∧ c ≠ 'e' ∧ c ≠ 'E'

theorem readFraction?_of_ends {t : Text} (h : EndsNumber t) : readFraction? t = some ([], t) := by
  cases t with
  | nil => rfl
  | cons c t =>
    obtain ⟨-, hpoint, -⟩ := h c rfl
    rw [readFraction?]
    simpa using hpoint

theorem readExponent?_of_ends {t : Text} (h : EndsNumber t) : readExponent? t = some (none, t) := by
  cases t with
  | nil => rfl
  | cons c t =>
    obtain ⟨-, -, hlower, hupper⟩ := h c rfl
    simp [readExponent?, hlower, hupper]

/-- The digits of a number end where no digit follows. -/
theorem span_ofNat (n : Nat) {rest : Text} (h : EndsNumber rest) :
    (Text.ofNat n ++ rest).span (Digits.isDigit 10) = (Text.ofNat n, rest) := by
  have hdigits := Digits.isDigit_of_mem_ofNat n
  rw [List.span_eq_takeWhile_dropWhile, List.takeWhile_append_of_pos hdigits,
    List.dropWhile_append_of_pos hdigits]
  cases rest with
  | nil => simp
  | cons c rest =>
    have hc : ¬ Digits.isDigit 10 c = true := by simp [(h c rfl).1]
    rw [List.takeWhile_cons_of_neg hc, List.dropWhile_cons_of_neg hc, List.append_nil]

/-- The digits of a number are read as the number. -/
theorem readDecimal?_ofNat (n : Nat) {rest : Text} (h : EndsNumber rest) :
    readDecimal? (Text.ofNat n ++ rest) = some (⟨false, n, 0⟩, rest) := by
  obtain ⟨d, digits, hdigits, hne⟩ := Digits.exists_ofNat_eq_cons n
  -- A zero in front is the whole number.
  have hzero : (Text.ofNat n).head? = some '0' → (Text.ofNat n).length = 1 := fun hhead => by
    rw [Digits.eq_zero_of_head?_toDigits (by decide) (by decide) n hhead]
    rfl
  have hnone : (Text.ofNat n).isEmpty = false := by rw [hdigits]; rfl
  have hvalue : Digits.extend 10 0 (Text.ofNat n) = n :=
    Digits.extend_toDigits (by decide) (by decide) n
  rw [readDecimal?]
  · rw [span_ofNat n h]
    simpa [hnone, readFraction?_of_ends h, readExponent?_of_ends h, hvalue] using hzero
  · intro t ht
    rw [hdigits] at ht
    exact hne '-' (by decide) (List.cons.inj ht).1

/-! ## Members -/

theorem endsNumber_lineAt_append (depth : Nat) (t : Text) : EndsNumber (lineAt depth ++ t) := by
  intro c hc
  obtain rfl : '\n' = c := Option.some.inj hc
  decide

section Members

variable {α β : Type} {readMember : Text → Option (α × Text)} {write : β → Text}
  {meaning : β → α} {close : Char} {depth outer : Nat}

/-- The members behind the first, as they are written. -/
def moreWritten (write : β → Text) (depth : Nat) (members : List β) : Text :=
  members.flatMap fun b => ',' :: (lineAt depth ++ write b)

/-- A number ends before further members and before the line of the closing bracket. -/
theorem endsNumber_moreWritten_append (members : List β) (t : Text) :
    EndsNumber (moreWritten write depth members ++ (lineAt outer ++ t)) := by
  cases members with
  | nil => exact endsNumber_lineAt_append outer t
  | cons b members =>
    intro c hc
    obtain rfl : ',' = c := Option.some.inj hc
    decide

/-- The members behind the first are read if each is read before anything that ends a number. -/
theorem readMore_written (hclose : isBlank close = false) (hcomma : close ≠ ',') (rest : Text)
    {members : List β}
    (hmembers : ∀ b ∈ members, ∀ t, EndsNumber t →
      readMember (lineAt depth ++ (write b ++ t)) = some (meaning b, t)) :
    ∀ {n : Nat}, members.length < n →
      readMore readMember close n
          (moreWritten write depth members ++ (lineAt outer ++ close :: rest)) =
        some (members.map meaning, rest) := by
  induction members with
  | nil =>
    intro n hn
    obtain ⟨n, rfl⟩ : ∃ k, n = k + 1 := ⟨n - 1, by omega⟩
    rw [moreWritten, List.flatMap_nil, List.nil_append, readMore,
      skipBlanks_lineAt_append, skipBlanks_cons hclose]
    exact if_pos rfl
  | cons b members ih =>
    intro n hn
    obtain ⟨n, rfl⟩ : ∃ k, n = k + 1 := ⟨n - 1, by omega⟩
    rw [List.forall_mem_cons] at hmembers
    have hlength : members.length < n := by simpa using hn
    have hends : EndsNumber (moreWritten write depth members ++ (lineAt outer ++ close :: rest)) :=
      endsNumber_moreWritten_append members (close :: rest)
    have hread := hmembers.1 _ hends
    have hmore := ih hmembers.2 hlength
    have htext : moreWritten write depth (b :: members) ++ (lineAt outer ++ close :: rest) =
        ',' :: (lineAt depth ++ (write b ++
          (moreWritten write depth members ++ (lineAt outer ++ close :: rest)))) := by
      simp [moreWritten]
    rw [htext, readMore, skipBlanks_cons (by decide)]
    simp [hcomma.symm, hread, hmore]

/-- The members of an array or an object as they are written, up to the closing bracket. -/
def written (write : β → Text) (depth : Nat) (close : Char) (first : β) (members : List β) : Text :=
  lineAt (depth + 1) ++ (write first ++ (moreWritten write (depth + 1) members ++
    (lineAt depth ++ [close])))

theorem length_moreWritten_cons (b : β) (members : List β) :
    (moreWritten write depth (b :: members)).length =
      1 + (lineAt depth).length + (write b).length + (moreWritten write depth members).length := by
  simp only [moreWritten, List.flatMap_cons, List.length_append, List.length_cons]
  omega

theorem length_le_moreWritten {b : β} {members : List β} (hb : b ∈ members) :
    (write b).length ≤ (moreWritten write depth members).length := by
  induction members with
  | nil => cases hb
  | cons first members ih =>
    rw [length_moreWritten_cons]
    cases hb with
    | head => omega
    | tail _ hb =>
      have := ih hb
      omega

theorem length_members_le (members : List β) :
    members.length ≤ (moreWritten write depth members).length := by
  induction members with
  | nil => exact Nat.zero_le _
  | cons b members ih =>
    rw [length_moreWritten_cons, List.length_cons]
    omega

/-- A member is shorter than all members together. -/
theorem length_lt_written {first b : β} {members : List β} (hb : b ∈ first :: members) :
    (write b).length < (written write depth close first members).length := by
  simp only [written, List.length_append, List.length_singleton]
  cases hb with
  | head => omega
  | tail _ hb =>
    have : (write b).length ≤ (moreWritten write (depth + 1) members).length :=
      length_le_moreWritten hb
    omega

/-- Members are read if each is read before anything that ends a number, and the first does not
start with the closing bracket. -/
theorem readMembers_written (hclose : isBlank close = false) (hcomma : close ≠ ',') (rest : Text)
    {first : β} {members : List β}
    (hfirst : ∀ t, (skipBlanks (write first ++ t)).head? ≠ some close)
    (hmembers : ∀ b ∈ first :: members, ∀ t, EndsNumber t →
      readMember (lineAt (depth + 1) ++ (write b ++ t)) = some (meaning b, t))
    {n : Nat} (hn : (written write depth close first members).length ≤ n) :
    readMembers readMember close n (written write depth close first members ++ rest) =
      some ((first :: members).map meaning, rest) := by
  have hlength : members.length < n := by
    have : members.length ≤ (moreWritten write (depth + 1) members).length :=
      length_members_le members
    simp only [written, List.length_append, List.length_singleton] at hn
    omega
  rw [List.forall_mem_cons] at hmembers
  have hends : EndsNumber (moreWritten write (depth + 1) members ++
      (lineAt depth ++ close :: rest)) :=
    endsNumber_moreWritten_append members (close :: rest)
  have hread := hmembers.1 _ hends
  have hmore : readMore readMember close n (moreWritten write (depth + 1) members ++
      (lineAt depth ++ close :: rest)) = some (members.map meaning, rest) :=
    readMore_written hclose hcomma rest hmembers.2 hlength
  have htext : written write depth close first members ++ rest =
      lineAt (depth + 1) ++ (write first ++
        (moreWritten write (depth + 1) members ++ (lineAt depth ++ close :: rest))) := by
    simp [written]
  rw [htext, readMembers, skipBlanks_lineAt_append, if_neg (hfirst _)]
  simp [hread, hmore]

end Members

/-! ## Values -/

theorem prettyItems_eq (depth : Nat) (items : List Json) :
    prettyItems depth items = moreWritten (pretty depth) depth items := by
  induction items with
  | nil => rfl
  | cons item rest ih => simp [prettyItems, ih, moreWritten]

theorem prettyFields_eq (depth : Nat) (fields : List (Text × Json)) :
    prettyFields depth fields = moreWritten (prettyField depth) depth fields := by
  induction fields with
  | nil => rfl
  | cons field rest ih => simp [prettyFields, ih, moreWritten]

theorem pretty_arr_cons (depth : Nat) (first : Json) (items : List Json) :
    (arr (first :: items)).pretty depth =
      '[' :: written (pretty (depth + 1)) depth ']' first items := by
  simp [pretty, written, prettyItems_eq]

theorem pretty_obj_cons (depth : Nat) (first : Text × Json) (fields : List (Text × Json)) :
    (obj (first :: fields)).pretty depth =
      '\x7b' :: written (prettyField (depth + 1)) depth '\x7d' first fields := by
  simp [pretty, written, prettyFields_eq]

/-- A value starts with a character that is neither a blank nor a closing bracket. -/
theorem exists_pretty_eq_cons (depth : Nat) (j : Json) :
    ∃ c t, j.pretty depth = c :: t ∧ isBlank c = false ∧ c ≠ ']' := by
  cases j with
  | str t => exact ⟨'"', _, rfl, rfl, by decide⟩
  | num n =>
    obtain ⟨d, digits, hdigits, hne⟩ := Digits.exists_ofNat_eq_cons n
    exact ⟨d, digits, by rw [pretty, hdigits], isBlank_eq_false_of_digit hne, hne ']' (by decide)⟩
  | arr items => cases items <;> exact ⟨'[', _, rfl, rfl, by decide⟩
  | obj fields => cases fields <;> exact ⟨'\x7b', _, rfl, rfl, by decide⟩

theorem prettyField_append (depth : Nat) (field : Text × Json) (t : Text) :
    prettyField depth field ++ t =
      '"' :: (field.1.flatMap escape ++ '"' :: ':' :: ' ' :: (field.2.pretty depth ++ t)) := by
  obtain ⟨key, j⟩ := field
  simp [prettyField, quote]

/-- A field is read if its value is read. -/
theorem readField?_written {n depth : Nat} {field : Text × Json} {t : Text}
    (h : readValue? n (field.2.pretty depth ++ t) = some (field.2.value, t)) :
    readField? (readValue? n) (lineAt depth ++ (prettyField depth field ++ t)) =
      some ((field.1, field.2.value), t) := by
  have hblank : readValue? n (' ' :: (field.2.pretty depth ++ t)) =
      readValue? n (field.2.pretty depth ++ t) := by
    cases n with
    | zero => rfl
    | succ n => rfl
  rw [readField?, skipBlanks_lineAt_append, prettyField_append, skipBlanks_cons (by decide)]
  simp only [readString_flatMap]
  simp [skipBlanks_cons (show isBlank ':' = false from rfl), hblank, h]

theorem readSimple?_ofNat (n : Nat) {rest : Text} (h : EndsNumber rest) :
    readSimple? (Text.ofNat n ++ rest) = some (.natural n, rest) := by
  obtain ⟨d, digits, hdigits, hne⟩ := Digits.exists_ofNat_eq_cons n
  have hdecimal := readDecimal?_ofNat n h
  rw [hdigits, List.cons_append] at hdecimal ⊢
  rw [readSimple?, hdecimal]
  · rfl
  all_goals
    intro t ht
    exact absurd (List.cons.inj ht).1 (hne _ (by decide))

/-- The value that is printed at a depth is read, with more steps than it has characters, before
anything that ends a number. -/
theorem readValue?_pretty (j : Json) : ∀ {n depth : Nat} {rest : Text},
    (j.pretty depth).length ≤ n → EndsNumber rest →
      readValue? (n + 1) (j.pretty depth ++ rest) = some (j.value, rest) := by
  induction j using induction with
  | str t =>
    intro n depth rest _ _
    have htext : (str t).pretty depth ++ rest = '"' :: (t.flatMap escape ++ '"' :: rest) := by
      simp [pretty, quote]
    rw [htext, readValue?, skipBlanks_cons (by decide)]
    simp [readSimple?, readString_flatMap, value]
  | num k =>
    intro n depth rest _ hrest
    obtain ⟨d, digits, hdigits, hne⟩ := Digits.exists_ofNat_eq_cons k
    have hsimple := readSimple?_ofNat k hrest
    rw [hdigits, List.cons_append] at hsimple
    rw [pretty, hdigits, List.cons_append, readValue?,
      skipBlanks_cons (isBlank_eq_false_of_digit hne)]
    split
    · next heq => exact absurd (List.cons.inj heq).1 (hne '[' (by decide))
    · next heq => exact absurd (List.cons.inj heq).1 (hne '\x7b' (by decide))
    · exact hsimple
  | arr items ih =>
    intro n depth rest hn _
    cases items with
    | nil => rfl
    | cons first items =>
      rw [pretty_arr_cons, List.length_cons] at hn
      obtain ⟨n, rfl⟩ : ∃ k, n = k + 1 := ⟨n - 1, by omega⟩
      have hfirst : ∀ t, (skipBlanks (first.pretty (depth + 1) ++ t)).head? ≠ some ']' := by
        intro t
        obtain ⟨c, u, htext, hblank, hclose⟩ := exists_pretty_eq_cons (depth + 1) first
        rw [htext, List.cons_append, skipBlanks_cons hblank]
        simpa using hclose
      have hitems : ∀ j ∈ first :: items, ∀ t, EndsNumber t →
          readValue? (n + 1) (lineAt (depth + 1) ++ (j.pretty (depth + 1) ++ t)) =
            some (j.value, t) := by
        intro j hj t ht
        have hlength : (j.pretty (depth + 1)).length <
            (written (pretty (depth + 1)) depth ']' first items).length := length_lt_written hj
        rw [readValue?_lineAt_append]
        exact ih j hj (by omega) ht
      have hread := readMembers_written (by decide) (by decide) rest hfirst hitems
        (n := n + 1) (by omega)
      rw [pretty_arr_cons, List.cons_append, readValue?, skipBlanks_cons (by decide)]
      simp [hread, value, values_eq_map]
  | obj fields ih =>
    intro n depth rest hn _
    cases fields with
    | nil => rfl
    | cons first fields =>
      rw [pretty_obj_cons, List.length_cons] at hn
      obtain ⟨n, rfl⟩ : ∃ k, n = k + 1 := ⟨n - 1, by omega⟩
      have hfirst : ∀ t, (skipBlanks (prettyField (depth + 1) first ++ t)).head? ≠
          some '\x7d' := by
        intro t
        rw [prettyField_append, skipBlanks_cons (by decide)]
        simp
      have hfields : ∀ field ∈ first :: fields, ∀ t, EndsNumber t →
          readField? (readValue? (n + 1))
              (lineAt (depth + 1) ++ (prettyField (depth + 1) field ++ t)) =
            some ((field.1, field.2.value), t) := by
        intro field hfield t ht
        have hlength : (prettyField (depth + 1) field).length <
            (written (prettyField (depth + 1)) depth '\x7d' first fields).length :=
          length_lt_written hfield
        have hvalue : (field.2.pretty (depth + 1)).length ≤
            (prettyField (depth + 1) field).length := by
          rw [← List.append_nil (prettyField (depth + 1) field), prettyField_append]
          simp only [List.length_cons, List.length_append]
          omega
        exact readField?_written (ih field hfield (by omega) ht)
      have hread := readMembers_written (by decide) (by decide) rest hfirst hfields
        (n := n + 1) (by omega)
      rw [pretty_obj_cons, List.cons_append, readValue?, skipBlanks_cons (by decide)]
      simp [hread, value, fieldValues_eq_map]

/-- A printed value is read as the value it was printed for. -/
theorem Value.read?_print (j : Json) : read? j.print = some j.value := by
  have hend : EndsNumber [] := by simp [EndsNumber]
  have hread := readValue?_pretty j (Nat.le_refl (j.pretty 0).length) hend
  rw [List.append_nil] at hread
  rw [read?, print, hread]
  rfl

end Highlighter.Json
