import Highlighter.Proofs.Render.JsonValues
import Highlighter.Proofs.Separators
import Highlighter.Render.Data

/-!
# The JSON dump read back

The dump of tokens is one printed value, so reading it is reading that value
(`Value.read?_print`): an array with an object for each token.  The category, the text and
the two positions are looked up in the object by their names, and since no two categories
have one name in dumps, the object is read as the token it was written for.
-/

namespace Highlighter

/-- The category with a name in dumps. -/
def Category.ofDataName? (name : Text) : Option Category := all.find? (·.dataName.toList == name)

theorem Category.ofDataName?_dataName (c : Category) : ofDataName? c.dataName.toList = some c := by
  cases c <;> decide

namespace Json

/-! ## Tokens in documents -/

/-- The value of a span. -/
def Value.ofSpan (start stop : Nat) : Value :=
  .object [("start".toList, .natural start), ("end".toList, .natural stop)]

/-- The value of a token: its category by the name used in dumps, its text, and its span. -/
def Value.ofToken (t : Token) : Value :=
  .object [
    ("category".toList, .string t.category.dataName.toList),
    ("text".toList, .string t.text),
    ("span".toList, .ofSpan t.start t.stop)]

namespace Value

/-- The value of the first field of an object with a key. -/
def field? (key : String) : Value → Option Value
  | .object fields => fields.lookup key.toList
  | _ => none

/-- The text of a string. -/
def text? : Value → Option Text
  | .string t => some t
  | _ => none

/-- The number that counts something, if a number does. -/
def natural? : Value → Option Nat
  | .number ⟨false, digits, .ofNat exponent⟩ => some (digits * Nat.pow 10 exponent)
  | _ => none

/-- The two positions of a span. -/
def span? (v : Value) : Option (Nat × Nat) := do
  let start ← (v.field? "start").bind natural?
  let stop ← (v.field? "end").bind natural?
  return (start, stop)

/-- The token of a value. -/
def token? (v : Value) : Option Token := do
  let category ← ((v.field? "category").bind text?).bind Category.ofDataName?
  let text ← (v.field? "text").bind text?
  let (start, stop) ← (v.field? "span").bind span?
  return ⟨category, start, stop, text⟩

/-- The tokens of a document. -/
def tokens? : Value → Option (List Token)
  | .array items => items.mapM token?
  | _ => none

theorem natural?_natural (n : Nat) : (natural n).natural? = some n :=
  congrArg some (Nat.mul_one n)

theorem span?_ofSpan (start stop : Nat) : (ofSpan start stop).span? = some (start, stop) := by
  have hstart : (ofSpan start stop).field? "start" = some (natural start) := rfl
  have hstop : (ofSpan start stop).field? "end" = some (natural stop) := rfl
  rw [span?, hstart, hstop, Option.bind_some, Option.bind_some, natural?_natural, natural?_natural]
  rfl

/-- The value of a token is read as the token. -/
theorem token?_ofToken (t : Token) : (ofToken t).token? = some t := by
  have hcategory : ((ofToken t).field? "category").bind text? =
      some t.category.dataName.toList := rfl
  have htext : ((ofToken t).field? "text").bind text? = some t.text := rfl
  have hspan : ((ofToken t).field? "span").bind span? = some (t.start, t.stop) :=
    span?_ofSpan t.start t.stop
  rw [token?, hcategory, htext, hspan, Option.bind_some, Category.ofDataName?_dataName]
  rfl

end Value

/-! ## Dumps -/

theorem value_toJson (t : Token) : t.toJson.value = .ofToken t := rfl

/-- A dump is read as an array with the values of the tokens. -/
theorem read?_render (tokens : List Token) :
    Value.read? (render tokens) = some (.array (tokens.map .ofToken)) := by
  have hvalues : value ∘ Token.toJson = .ofToken := funext value_toJson
  rw [render, Value.read?_print, value, values_eq_map, List.map_map, hvalues]

theorem tokens?_array (tokens : List Token) :
    Value.tokens? (.array (tokens.map .ofToken)) = some tokens :=
  Text.mapM_map_eq_some fun t _ => Value.token?_ofToken t

/-- A dump is a document with an array that has one object for each token, in order.  Each object
has the name of the category, the text, and the span with both positions, and is read as the token.
So the tokens are read back from the dump, and no two lists of tokens have one dump. -/
theorem dump_lossless (tokens : List Token) :
    Value.read? (render tokens) = some (.array (tokens.map fun t => .object [
      ("category".toList, .string t.category.dataName.toList),
      ("text".toList, .string t.text),
      ("span".toList, .object [("start".toList, .natural t.start),
        ("end".toList, .natural t.stop)])])) ∧
      (Value.read? (render tokens)).bind Value.tokens? = some tokens ∧
      ∀ others, render others = render tokens → others = tokens := by
  have hread (tokens : List Token) :
      (Value.read? (render tokens)).bind Value.tokens? = some tokens := by
    rw [read?_render, Option.bind_some, tokens?_array]
  refine ⟨read?_render tokens, hread tokens, fun others h => ?_⟩
  have hsame : some others = some tokens := by rw [← hread others, h, hread tokens]
  exact Option.some.inj hsame

end Json

end Highlighter
