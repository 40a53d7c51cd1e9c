import RouteStubs.Accessor
import RouteStubs.Syntax.StringLiteral

/-!
# Route variables

The route variables that the body of a function reads. A read indexes the map of route variables
with a string literal, and the map is either what the accessor has just returned or a variable that
holds it. Only the statements of the body itself count: what stands in a nested block or in a clause
of a switch is neither searched for reads nor for variables that take up the map.
-/

namespace RouteStubs.RouteVariables

open Syntax

/-- Takes the parentheses off an expression. Within parentheses the first part counts, be it a
comment. -/
def bare (n : Node) : Node :=
  match n with
  | ⟨kind, role, span, text, children⟩ =>
    if kind = .parenthesizedExpression then
      match children with
      | [] => ⟨kind, role, span, text, []⟩
      | inner :: _ => bare inner
    else ⟨kind, role, span, text, children⟩

/-- The selection of the accessor's function from its module. -/
def selectsAccessor (a : Accessor) (n : Node) : Bool :=
  n.kind == .selectorExpression &&
    (n.child? .operand).any (fun o => o.kind == .identifier && o.text == a.module) &&
    (n.child? .field).any fun f => f.text == a.function

/-- A call of the accessor. -/
def callsAccessor (a : Accessor) (n : Node) : Bool :=
  let call := bare n
  call.kind == .callExpression &&
    (call.child? .function).any fun f => selectsAccessor a (bare f)

/-- The expression is the map of route variables, given the variables that hold it. -/
def isMap (a : Accessor) (holders : List Text) (n : Node) : Bool :=
  callsAccessor a n || (n.kind == .identifier && holders.contains n.text)

/-- The key of a route variable if the node reads one. -/
def readKey? (a : Accessor) (holders : List Text) (n : Node) : Option Text :=
  if n.kind = .indexExpression then
    match n.child? .operand, n.child? .index with
    | some operand, some index =>
      if isMap a holders (bare operand) then StringLiteral.value? (bare index) else none
    | _, _ => none
  else none

/-- Nodes whose statements have a scope of their own. -/
def opensScope : Kind → Bool
  | .block | .expressionCase | .typeCase | .communicationCase | .defaultCase => true
  | _ => false

mutual

/-- The keys that are read in a node, outside nested scopes, in the order in which the reads begin.
-/
def keysRead (a : Accessor) (holders : List Text) : Node → List Text
  | ⟨kind, role, span, text, children⟩ =>
    if opensScope kind then []
    else
      (readKey? a holders ⟨kind, role, span, text, children⟩).toList ++
        keysReadIn a holders children

/-- The keys that are read in several nodes, one after the other. -/
def keysReadIn (a : Accessor) (holders : List Text) : List Node → List Text
  | [] => []
  | n :: ns => keysRead a holders n ++ keysReadIn a holders ns

end

/-- The members of a list of expressions. -/
def listed (n : Node) : List Node :=
  if n.kind = .expressionList then n.children.filter fun c => !c.isComment else [n]

/-- The specifications of a declaration of variables, grouped or not. -/
def specifications (n : Node) : List Node :=
  n.children.flatMap fun c =>
    match c.kind with
    | .varSpec => [c]
    | .varSpecList => c.children.filter fun s => s.kind == .varSpec
    | _ => []

/-- An assignment of values to targets, each a list of expressions. -/
structure Binding where
  targets : List Node
  values : List Node

/-- The assignments that a statement makes, in order. -/
def bindings (statement : Node) : List Binding :=
  match statement.kind with
  | .shortVarDeclaration | .assignmentStatement =>
    match statement.child? .left, statement.child? .right with
    | some left, some right => [⟨listed left, listed right⟩]
    | _, _ => []
  | .varDeclaration =>
    (specifications statement).map fun spec =>
      ⟨spec.childrenWith .name, ((spec.child? .value).map listed).getD []⟩
  | _ => []

/-- For each variable among the targets, whether it takes up the map. It does if there is one value
for each target and its own is a call of the accessor. -/
def Binding.effects (a : Accessor) (b : Binding) : List (Text × Bool) :=
  let takes (i : Nat) : Bool :=
    b.targets.length == b.values.length && (b.values[i]?).any (callsAccessor a)
  b.targets.zipIdx.filterMap fun (target, i) =>
    if target.kind = .identifier then some (target.text, takes i) else none

/-- The variables that hold the map after one of them has been assigned to. -/
def assign (holders : List Text) : Text × Bool → List Text
  | (name, true) => if holders.contains name then holders else name :: holders
  | (name, false) => holders.filter fun h => h != name

/-- The variables that hold the map after a statement. -/
def holdersAfter (a : Accessor) (holders : List Text) (statement : Node) : List Text :=
  ((bindings statement).flatMap (Binding.effects a)).foldl assign holders

/-- The keys that a sequence of statements reads, given the variables that hold the map before it.
-/
def keysReadBy (a : Accessor) (holders : List Text) : List Node → List Text
  | [] => []
  | s :: rest => keysRead a holders s ++ keysReadBy a (holdersAfter a holders s) rest

/-- The statements of a block, without comments. -/
def statementsOf (block : Node) : List Node :=
  block.children.filter fun c => !c.isComment

/-- The route variables that a body reads, in the order of the reads. -/
def ofBody (a : Accessor) (body : Node) : List Text :=
  keysReadBy a [] (statementsOf body)

end RouteStubs.RouteVariables
