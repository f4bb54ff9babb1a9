import Highlighter.Grammar.Basic

/-!
# Scanning

A scan walks a source once. At each step the rules of the innermost state are
tried in order, and the first that fires gives tokens and may change the stack of
states. Where none fires, one character becomes a token of plain text.

What a step does depends on the text that is left, on whether the scan is at the
start of a line, and on the stack. The tokens of a step are handed out one by
one, so a step can be ahead of the tokens taken from it.
-/

namespace Highlighter

/-! ## Tokens of one match -/

/-- The token of a text at a position. -/
def Token.at (category : Category) (position : Nat) (text : Text) : Token :=
  ⟨category, position, position + text.size, text⟩

/-- The tokens of the groups of a match. `position` is how far into the match one is, and
`text` is what is left of it. A group that is absent, empty, or starts before the position
gives none. What lies between groups and after the last becomes plain text. -/
def groupTokens (base : Nat) :
    List (Category × Option (Nat × Nat)) → (position : Nat) → (text : Text) → List Token
  | [], position, text =>
      if text.isEmpty then [] else [Token.at .text (base + position) text]
  | (_, none) :: rest, position, text => groupTokens base rest position text
  | (category, some (start, stop)) :: rest, position, text =>
      if start == stop || start < position then groupTokens base rest position text
      else
        let between := text.takeBytes (start - position)
        let text := text.dropBytes (start - position)
        let inside := text.takeBytes (stop - start)
        let filler := if position < start then [Token.at .text (base + position) between] else []
        filler ++ Token.at category (base + start) inside ::
          groupTokens base rest stop (text.dropBytes (stop - start))

/-- The tokens a rule makes of a match that starts at `base` and has a text. -/
def Action.tokens (action : Action) (base : Nat) (text : Text) (m : Match) : List Token :=
  match action with
  | .token category => [Token.at category base text]
  | .groups categories =>
      groupTokens base (categories.zipIdx.map fun (c, i) => (c, m.group? (i + 1))) 0 text

/-! ## Choice of a rule -/

/-- The match of a rule on the text that is left, if the rule fires. -/
def BuiltRule.fires? (rule : BuiltRule) (lineStart : Bool) (rest : Text) : Option Match :=
  if rule.lineStart && !lineStart then none
  else
    match rule.pattern.find rest with
    | none => none
    | some m =>
      if m.isEmpty then none
      else
        match rule.followedBy with
        | none => some m
        | some lookahead => if lookahead.matches m.rest then some m else none

/-- The first of some rules that fires, with its match. -/
def firstFiring? (lineStart : Bool) (rest : Text) : List BuiltRule → Option (BuiltRule × Match)
  | [] => none
  | rule :: others =>
    match rule.fires? lineStart rest with
    | some m => some (rule, m)
    | none => firstFiring? lineStart rest others

/-! ## The lexer -/

/-- The states that are open: the innermost one and those around it, innermost first. -/
structure Stack where
  /-- The innermost state. -/
  top : String
  /-- The states around it. -/
  below : List String
  deriving DecidableEq, Repr

/-- The number of open states. -/
def Stack.depth (s : Stack) : Nat := s.below.length + 1

/-- The stack after a transition. The last state is never left. -/
def Stack.apply (s : Stack) : Transition → Stack
  | .stay => s
  | .push state => ⟨state, s.top :: s.below⟩
  | .pop =>
    match s.below with
    | [] => s
    | outer :: others => ⟨outer, others⟩

/-- A scan in progress. -/
structure Lexer where
  /-- The byte position in the source. -/
  cursor : Nat
  /-- Whether the position is at the start of a line. -/
  lineStart : Bool
  /-- The text that is left. -/
  rest : Text
  /-- The open states. -/
  stack : Stack
  /-- The tokens that are found and not handed out. -/
  pending : List Token
  deriving DecidableEq, Repr

namespace Lexer

/-- A scan at the start of a source. -/
def start (g : Grammar) (source : Text) : Lexer := ⟨0, true, source, ⟨g.entry, []⟩, []⟩

/-- The name of the innermost state. -/
def currentState (lx : Lexer) : String := lx.stack.top

/-- The number of open states. -/
def depth (lx : Lexer) : Nat := lx.stack.depth

/-- The scan after a text was consumed that gave some tokens. -/
def consume (lx : Lexer) (text rest : Text) (tokens : List Token) (t : Transition) : Lexer :=
  { cursor := lx.cursor + text.size
    lineStart := text.getLast? == some '\n'
    rest
    stack := lx.stack.apply t
    pending := lx.pending ++ tokens }

/-- One step: the first rule that fires, or one character of plain text. -/
def step (g : Grammar) (lx : Lexer) : Lexer :=
  match firstFiring? lx.lineStart lx.rest (g.rulesOf lx.stack.top) with
  | some (rule, m) =>
    let text := lx.rest.takeBytes m.stop
    lx.consume text m.rest (rule.action.tokens lx.cursor text m) rule.transition
  | none =>
    match lx.rest with
    | [] => lx
    | c :: rest => lx.consume [c] rest [Token.at .text lx.cursor [c]] .stay

/-- The next token, and the scan after it. -/
def next (g : Grammar) (lx : Lexer) : Option Token × Lexer :=
  match lx.pending with
  | t :: more => (some t, { lx with pending := more })
  | [] =>
    if lx.rest.isEmpty then (none, lx)
    else
      let lx := lx.step g
      match lx.pending with
      | t :: more => (some t, { lx with pending := more })
      | [] => (none, lx)

/-- The next tokens up to a number, and the scan after them. -/
def take (g : Grammar) : Nat → Lexer → List Token × Lexer
  | 0, lx => ([], lx)
  | n + 1, lx =>
    match lx.next g with
    | (none, lx) => ([], lx)
    | (some t, lx) =>
      let (more, lx) := take g n lx
      (t :: more, lx)

/-- All further tokens, and the scan at its end. A step consumes a character and each token
has one, so there are no more of them than pending tokens and characters left. -/
def drain (g : Grammar) (lx : Lexer) : List Token × Lexer :=
  lx.take g (lx.pending.length + lx.rest.length)

end Lexer

/-- The tokens of a source. -/
def tokenize (g : Grammar) (source : Text) : List Token := ((Lexer.start g source).drain g).1

end Highlighter
