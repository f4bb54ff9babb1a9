import Highlighter.Text
import Highlighter.Pattern.CharSet

/-!
# Patterns and their matches

A pattern is matched against a text from a place in it on. The result is the list
of all ends a match can have, each with the groups it captured, in the order of
preference: the first alternative before the second, a greedy repetition before a
shorter one. The match of a pattern at a place is the head of that list.

* A `loop` never goes round without consuming. A turn that ends where it started
  is dropped, so the number of turns is bounded by the text that is left. Of two
  ways to reach the same place the preferred one is kept.
* A `mark` succeeds once at one place of one path. The patterns that are written
  with a repetition of something that may be empty have a mark at each choice in
  it. This makes precise which of the empty turns is taken: a path never comes
  back to a choice without having consumed a character in between.
-/

namespace Highlighter

/-! ## Patterns -/

/-- Which side of a word a boundary test asks for. -/
inductive WordEdge where
  /-- A word starts or ends here. -/
  | either
  /-- No word starts or ends here. -/
  | neither
  /-- A word starts here. -/
  | start
  /-- A word ends here. -/
  | stop
  /-- The character before is no word character. -/
  | halfStart
  /-- The character after is no word character. -/
  | halfStop
  deriving DecidableEq, Repr

/-- A test of a place that consumes nothing. -/
inductive Assertion where
  /-- The start of the text. -/
  | textStart
  /-- The end of the text. -/
  | textEnd
  /-- The start of a line ended by `\n`. -/
  | lineStart
  /-- The end of a line ended by `\n`. -/
  | lineEnd
  /-- The start of a line ended by `\r`, `\n` or both. -/
  | anyLineStart
  /-- The end of a line ended by `\r`, `\n` or both. -/
  | anyLineEnd
  /-- The edge of a word over some set of word characters. -/
  | word (edge : WordEdge) (chars : CharSet)
  deriving DecidableEq, Repr

/-- A pattern in the form it is matched. -/
inductive Pattern where
  /-- The empty text. -/
  | empty
  /-- One character of a set. -/
  | one (s : CharSet)
  /-- A run of characters of a set, which may be empty. -/
  | many (greedy : Bool) (s : CharSet)
  /-- A test of the place. -/
  | check (a : Assertion)
  /-- A step that succeeds once at one place of one path. -/
  | mark (id : Nat)
  /-- A part whose extent is captured under a number. -/
  | group (index : Nat) (p : Pattern)
  /-- One pattern after another. -/
  | seq (p q : Pattern)
  /-- One pattern or, less preferred, another. -/
  | alt (p q : Pattern)
  /-- A pattern any number of times. -/
  | loop (greedy : Bool) (p : Pattern)
  deriving DecidableEq, Repr

/-! ## Places -/

/-- A captured extent: the number of the group and two byte positions. -/
structure Capture where
  /-- The number of the group. -/
  index : Nat
  /-- The position where the group starts. -/
  start : Nat
  /-- The position where the group ends. -/
  stop : Nat
  deriving DecidableEq, Repr

/-- A point of a match in progress. -/
structure Place where
  /-- The character before the place, if any. -/
  before : Option Char
  /-- The bytes before the place. -/
  offset : Nat
  /-- The text after the place. -/
  rest : Text
  /-- The captures made so far, latest first. -/
  captures : List Capture
  /-- The marks passed since the last character. -/
  marks : List Nat
  deriving DecidableEq, Repr

/-- The start of a text. -/
def Place.start (t : Text) : Place := ⟨none, 0, t, [], []⟩

/-- The place after one more character. -/
def Place.advance (at_ : Place) (c : Char) (rest : Text) : Place :=
  ⟨some c, at_.offset + c.utf8Size, rest, at_.captures, []⟩

/-- The place with one more capture. -/
def Place.capture (index start : Nat) (at_ : Place) : Place :=
  { at_ with captures := ⟨index, start, at_.offset⟩ :: at_.captures }

/-! ## Assertions -/

/-- Whether the edge of a word is as asked, given what stands on both sides. -/
def WordEdge.holds : WordEdge → (before after : Bool) → Bool
  | either, before, after => before != after
  | neither, before, after => before == after
  | start, before, after => !before && after
  | stop, before, after => before && !after
  | halfStart, before, _ => !before
  | halfStop, _, after => !after

/-- Whether an assertion holds between two characters. -/
def Assertion.holds : Assertion → (before after : Option Char) → Bool
  | textStart, before, _ => before.isNone
  | textEnd, _, after => after.isNone
  | lineStart, before, _ => before.isNone || before == some '\n'
  | lineEnd, _, after => after.isNone || after == some '\n'
  | anyLineStart, before, after =>
      before.isNone || before == some '\n' || (before == some '\r' && after != some '\n')
  | anyLineEnd, before, after =>
      after.isNone || after == some '\r' || (after == some '\n' && before != some '\r')
  | word edge chars, before, after => edge.holds (before.any chars.holds) (after.any chars.holds)

/-! ## Matching -/

/-- The ends of a run of characters of a set, the longest first, before those given. -/
def runEnds (s : CharSet) : Text → Place → List Place → List Place
  | [], at_, shorter => at_ :: shorter
  | c :: rest, at_, shorter =>
      if s.holds c then runEnds s rest (at_.advance c rest) (at_ :: shorter) else at_ :: shorter

/-- The ends of a loop over `body`, and the positions it has been at. -/
def loopEnds (body : Place → List Place) (greedy : Bool) :
    Nat → List Nat → Place → List Nat × List Place
  | turns, seen, at_ =>
    if seen.contains at_.offset then (seen, [])
    else
      match turns with
      | 0 => (at_.offset :: seen, [at_])
      | turns + 1 =>
        let onward := (body at_).filter (·.rest.length < at_.rest.length)
        let (seen, ends) := onward.foldl
          (fun (seen, ends) next =>
            let (seen, more) := loopEnds body greedy turns seen next
            (seen, ends ++ more))
          (at_.offset :: seen, [])
        (seen, if greedy then ends ++ [at_] else at_ :: ends)

/-- The ends of the matches of a pattern from a place on, the preferred first. -/
def Pattern.run : Pattern → Place → List Place
  | .empty, at_ => [at_]
  | .one s, at_ =>
    match at_.rest with
    | [] => []
    | c :: rest => if s.holds c then [at_.advance c rest] else []
  | .many greedy s, at_ =>
      let ends := runEnds s at_.rest at_ []
      if greedy then ends else ends.reverse
  | .check a, at_ => if a.holds at_.before at_.rest.head? then [at_] else []
  | .mark id, at_ =>
      if at_.marks.contains id then [] else [{ at_ with marks := id :: at_.marks }]
  | .group index p, at_ => (p.run at_).map (Place.capture index at_.offset)
  | .seq p q, at_ => (p.run at_).flatMap q.run
  | .alt p q, at_ => p.run at_ ++ q.run at_
  | .loop greedy p, at_ => (loopEnds p.run greedy at_.rest.length [] at_).2

/-! ## Search -/

/-- A match found in a text. -/
structure Match where
  /-- The position where the match starts. -/
  start : Nat
  /-- The position where the match ends. -/
  stop : Nat
  /-- The captures, latest first. -/
  captures : List Capture
  /-- The text after the match. -/
  rest : Text
  deriving DecidableEq, Repr

/-- Whether a match has no extent. -/
def Match.isEmpty (m : Match) : Bool := m.start == m.stop

/-- The extent of a group in a match, if it took part in it. -/
def Match.group? (m : Match) (index : Nat) : Option (Nat × Nat) :=
  (m.captures.find? (·.index == index)).map fun c => (c.start, c.stop)

/-- The preferred match of a pattern at a place, without looking further on. -/
def Pattern.matchAt (p : Pattern) (at_ : Place) : Option Match :=
  (p.run at_).head?.map fun e => ⟨at_.offset, e.offset, e.captures, e.rest⟩

/-- The preferred match at the first place where there is one. -/
def Pattern.search (p : Pattern) : Text → Place → Option Match
  | [], at_ => p.matchAt at_
  | c :: rest, at_ =>
    match p.matchAt at_ with
    | some m => some m
    | none => p.search rest (at_.advance c rest)

/-- Whether every match of a pattern is at the start of the text, as its form shows. -/
def Pattern.pinned : Pattern → Bool
  | .check .textStart => true
  | .group _ p => p.pinned
  | .seq p q => p.pinned || (p == .empty && q.pinned)
  | .alt p q => p.pinned && q.pinned
  | _ => false

/-- The leftmost match of a pattern in a text. A pinned pattern is only tried at the start. -/
def Pattern.find (p : Pattern) (t : Text) : Option Match :=
  if p.pinned then p.matchAt (Place.start t) else p.search t (Place.start t)

/-- Whether a pattern has a match in a text. -/
def Pattern.matches (p : Pattern) (t : Text) : Bool := (p.find t).isSome

end Highlighter
