import RouteStubs.Syntax.Kind

/-!
# Syntax trees

A node has a kind, the role it plays in the node above it, the stretch of the text that it covers,
and either its own characters (names, literals and comments) or the nodes below it. Only what has a
name of its own is a node: brackets, commas, operators and keywords are not. Comments are nodes
wherever they stand.
-/

namespace RouteStubs.Syntax

/-- The part a node plays in the node above it, where that node tells its parts apart. -/
inductive Role where
  | name | package | parameters | body | type | function | arguments | operand | field | index
  | left | right | value
  deriving DecidableEq, Repr, Inhabited

/-- The characters of a text from number `start` up to, and without, number `stop`. -/
structure Span where
  start : Nat
  stop : Nat
  deriving DecidableEq, Repr, Inhabited

/-- The part of a text that a span covers. -/
def Span.slice (s : Span) (text : List Char) : List Char :=
  (text.drop s.start).take (s.stop - s.start)

/-- A node of a syntax tree. -/
structure Node where
  kind : Kind
  role : Option Role
  span : Span
  /-- The characters of a node that has no parts; empty for all others. -/
  text : List Char
  children : List Node
  deriving Inhabited

namespace Node

/-- A node without parts. -/
def leaf (kind : Kind) (start : Nat) (text : List Char) : Node :=
  ⟨kind, none, ⟨start, start + text.length⟩, text, []⟩

/-- A node that consists of others. -/
def branch (kind : Kind) (span : Span) (children : List Node) : Node :=
  ⟨kind, none, span, [], children⟩

/-- The same node in another role. -/
def withRole (n : Node) (role : Option Role) : Node :=
  { n with role := role }

/-- The same leaf under another kind: a name is of one kind as a value and of another as a type. -/
def withKind (n : Node) (kind : Kind) : Node :=
  { n with kind := kind }

/-- The first part that plays the given role. -/
def child? (n : Node) (role : Role) : Option Node :=
  n.children.find? fun c => c.role == some role

/-- All parts that play the given role. -/
def childrenWith (n : Node) (role : Role) : List Node :=
  n.children.filter fun c => c.role == some role

/-- A comment. -/
def isComment (n : Node) : Bool :=
  n.kind == .comment

mutual

/-- The outline of a tree, node by node from the top: whether the node is a literal with elements,
and how many parts it has. -/
def outline : Node → List Nat
  | ⟨kind, _, _, _, children⟩ =>
    (if kind = .compositeLiteral then 1 else 0) :: children.length :: outlines children

/-- The outlines of several trees, one after the other. -/
def outlines : List Node → List Nat
  | [] => []
  | n :: ns => outline n ++ outlines ns

end

end Node

end RouteStubs.Syntax
