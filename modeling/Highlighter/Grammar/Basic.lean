import Highlighter.Token
import Highlighter.Regex.Compiler

/-!
# Grammars

A grammar is a set of named states, each a list of rules in the order in which
they are tried. It is declared with the texts of its patterns and built once.
Building checks every declaration and reports the first defect in this order: a
state declared twice, an entry state that is not declared, then the states as
declared and in each state the rules as declared. In one rule the order is the
pattern, a match of no extent, the number of groups, the lookahead, the pushed
state. That the entry state pops is reported after all its rules were built.

Every definition here takes the compiler of regular expressions as an argument. A
pattern text is put between `\A(?:` and `)` before it is compiled. So it matches at
the start only, unless its own parentheses close that group early.
-/

namespace Highlighter

/-! ## Declarations -/

/-- What a rule makes of its match. -/
inductive Action where
  /-- One token. -/
  | token (category : Category)
  /-- One token for each group. -/
  | groups (categories : List Category)
  deriving DecidableEq, Repr

/-- What a rule does to the stack of states. -/
inductive Transition where
  /-- The stack stays as it is. -/
  | stay
  /-- A state is entered. -/
  | push (state : String)
  /-- The innermost state is left. -/
  | pop
  deriving DecidableEq, Repr

/-- A rule as declared. -/
structure Rule where
  /-- The text of its pattern. -/
  pattern : Text
  /-- Whether it only applies at the start of a line. -/
  lineStart : Bool := false
  /-- Whether letter case is ignored. -/
  ignoreCase : Bool := false
  /-- The text of the pattern that has to match right after the match. -/
  followedBy : Option Text := none
  /-- What becomes of the match. -/
  action : Action := .token .text
  /-- What becomes of the stack. -/
  transition : Transition := .stay
  deriving DecidableEq, Repr

/-- A state as declared. -/
structure StateDecl where
  /-- Its name. -/
  name : String
  /-- Its rules. -/
  rules : List Rule
  deriving DecidableEq, Repr

/-- A grammar as declared. -/
structure GrammarDecl where
  /-- Its name. -/
  name : String
  /-- The name of the state a scan starts in. -/
  entry : String
  /-- Its states. -/
  states : List StateDecl
  deriving DecidableEq, Repr

/-! ## Built grammars -/

/-- A rule ready for scanning. -/
structure BuiltRule where
  /-- Its pattern. -/
  pattern : Pattern
  /-- Whether it only applies at the start of a line. -/
  lineStart : Bool
  /-- The pattern that has to match right after the match. -/
  followedBy : Option Pattern
  /-- What becomes of the match. -/
  action : Action
  /-- What becomes of the stack. -/
  transition : Transition
  deriving DecidableEq, Repr

/-- A state ready for scanning. -/
structure State where
  /-- Its name. -/
  name : String
  /-- Its rules. -/
  rules : List BuiltRule
  deriving DecidableEq, Repr

/-- A grammar ready for scanning. -/
structure Grammar where
  /-- Its name. -/
  name : String
  /-- The name of the state a scan starts in. -/
  entry : String
  /-- Its states. -/
  states : List State
  deriving DecidableEq, Repr

/-- The rules of the state with a name. -/
def Grammar.rulesOf (g : Grammar) (state : String) : List BuiltRule :=
  match g.states.find? (·.name == state) with
  | some s => s.rules
  | none => []

/-! ## Defects -/

/-- A defect of a declaration. -/
inductive GrammarError where
  /-- A pattern or a lookahead that does not compile, for a reason the message tells. -/
  | invalidPattern (state : String) (pattern : Text) (message : String)
  /-- A pattern that can match without consuming. -/
  | zeroWidth (state : String) (pattern : Text)
  /-- A pattern with another number of groups than categories. -/
  | groupMismatch (state : String) (pattern : Text) (groups categories : Nat)
  /-- A push to a state that is not declared. -/
  | undefinedState (state target : String)
  /-- A state declared twice. -/
  | duplicateState (state : String)
  /-- An entry state that is not declared. -/
  | missingEntry (state : String)
  /-- An entry state that pops. -/
  | popFromEntry (state : String)
  deriving DecidableEq, Repr

/-- The text that reports a defect. -/
def GrammarError.message : GrammarError → String
  | invalidPattern state pattern message =>
      "state '" ++ state ++ "': invalid pattern `" ++ String.ofList pattern ++ "`: " ++ message
  | zeroWidth state pattern =>
      "state '" ++ state ++ "': pattern `" ++ String.ofList pattern ++
        "` can match without consuming input"
  | groupMismatch state pattern groups categories =>
      "state '" ++ state ++ "': pattern `" ++ String.ofList pattern ++ "` has " ++
        String.ofList (Text.ofNat groups) ++ " capture groups but maps " ++
        String.ofList (Text.ofNat categories) ++ " categories"
  | undefinedState state target =>
      "state '" ++ state ++ "': push to undefined state '" ++ target ++ "'"
  | duplicateState state => "state '" ++ state ++ "' is declared more than once"
  | missingEntry state => "entry state '" ++ state ++ "' is not declared"
  | popFromEntry state => "entry state '" ++ state ++ "' cannot pop"

/-! ## Building -/

/-- The texts on which a pattern must not match without consuming. -/
def probes : List Text := [[], ['\n'], [' '], ['a'], ['0'], ['#'], ['='], ['\\']]

/-- Whether the leftmost match of a pattern in a text has no extent. -/
def Pattern.stallsOn (p : Pattern) (t : Text) : Bool := (p.find t).any Match.isEmpty

/-- The number of categories an action has for the groups, where there are more or fewer groups. -/
def Action.mismatch? (groups : Nat) : Action → Option Nat
  | .token _ => none
  | .groups categories => if groups = categories.length then none else some categories.length

/-- A rule with its two patterns, where `declared` tells the names of the states. -/
def Rule.finish (rule : Rule) (state : String) (declared : String → Bool) (pattern : Pattern)
    (followedBy : Option Pattern) : Except GrammarError BuiltRule :=
  let built : BuiltRule :=
    { pattern, lineStart := rule.lineStart, followedBy, action := rule.action,
      transition := rule.transition }
  match rule.transition with
  | .push target => if declared target then .ok built else .error (.undefinedState state target)
  | _ => .ok built

/-- A rule with its pattern, which takes the lookahead next. -/
def Rule.withPattern (compile : Regex.Compiler) (rule : Rule) (state : String)
    (declared : String → Bool) (pattern : Pattern) : Except GrammarError BuiltRule :=
  match rule.followedBy with
  | none => rule.finish state declared pattern none
  | some lookahead =>
    match compile.tied rule.ignoreCase lookahead with
    | .error message => .error (.invalidPattern state lookahead message)
    | .ok regex => rule.finish state declared pattern (some regex.toPattern)

/-- A rule built in a state, where `declared` tells the names of the states. -/
def Rule.build (compile : Regex.Compiler) (rule : Rule) (state : String)
    (declared : String → Bool) : Except GrammarError BuiltRule :=
  match compile.tied rule.ignoreCase rule.pattern with
  | .error message => .error (.invalidPattern state rule.pattern message)
  | .ok regex =>
    if probes.any regex.toPattern.stallsOn then .error (.zeroWidth state rule.pattern)
    else
      match rule.action.mismatch? regex.groupCount with
      | some categories =>
          .error (.groupMismatch state rule.pattern regex.groupCount categories)
      | none => rule.withPattern compile state declared regex.toPattern

/-- The rules of a state, built in order. -/
def buildRules (compile : Regex.Compiler) (state : String) (declared : String → Bool) :
    List Rule → Except GrammarError (List BuiltRule)
  | [] => .ok []
  | rule :: rest =>
    match rule.build compile state declared with
    | .error e => .error e
    | .ok built =>
      match buildRules compile state declared rest with
      | .error e => .error e
      | .ok more => .ok (built :: more)

/-- The states of a grammar, built in order. -/
def buildStates (compile : Regex.Compiler) (entry : String) (declared : String → Bool) :
    List StateDecl → Except GrammarError (List State)
  | [] => .ok []
  | decl :: rest =>
    match buildRules compile decl.name declared decl.rules with
    | .error e => .error e
    | .ok rules =>
      if decl.name == entry && rules.any (·.transition == .pop) then
        .error (.popFromEntry decl.name)
      else
        match buildStates compile entry declared rest with
        | .error e => .error e
        | .ok more => .ok (⟨decl.name, rules⟩ :: more)

/-- The first name that occurs before in a list. -/
def firstRepeated? (seen : List String) : List String → Option String
  | [] => none
  | name :: rest =>
      if seen.contains name then some name else firstRepeated? (name :: seen) rest

/-- A grammar built from its declaration, or its first defect. -/
def GrammarDecl.build (compile : Regex.Compiler) (decl : GrammarDecl) :
    Except GrammarError Grammar :=
  let names := decl.states.map (·.name)
  match firstRepeated? [] names with
  | some name => .error (.duplicateState name)
  | none =>
    if !names.contains decl.entry then .error (.missingEntry decl.entry)
    else
      match buildStates compile decl.entry names.contains decl.states with
      | .error e => .error e
      | .ok states => .ok ⟨decl.name, decl.entry, states⟩

end Highlighter
