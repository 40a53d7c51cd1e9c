import RouteStubs.Syntax.Fault

/-!
# Source files

A source file is a well-formed text that names its package.
-/

namespace RouteStubs.Syntax

/-- A source file: its syntax tree, and the name of its package. -/
structure SourceFile where
  root : Node
  package : Text

namespace SourceFile

/-- The name in the first package clause of a tree. -/
def packageName? (root : Node) : Option Text := do
  let clause ← root.children.find? fun n => n.kind == .packageClause
  let name ← clause.children.find? fun n => n.kind == .packageIdentifier
  pure name.text

/-- Reads a source file. -/
def parse (t : Text) : Except Fault SourceFile :=
  match parseFile? t with
  | none => .error (Fault.diagnose t)
  | some root =>
    match packageName? root with
    | none => .error ⟨⟨1, 1⟩, .noPackage⟩
    | some package => .ok ⟨root, package⟩

/-- The top-level functions of a file. Methods are not among them. -/
def functions (f : SourceFile) : List Node :=
  f.root.children.filter fun n => n.kind == .functionDeclaration

end SourceFile

end RouteStubs.Syntax
