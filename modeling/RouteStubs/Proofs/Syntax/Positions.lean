import Mathlib.Tactic.Lemma
import RouteStubs.Syntax.Node

/-!
# Trees up to positions

A change at one place of a text shifts everything behind it, so trees of different texts are
compared with their positions forgotten. Trees that are alike are built from alike trees in the same
way.
-/

namespace RouteStubs.Syntax.Node

mutual

/-- The same tree with its positions forgotten. -/
def unplaced : Node → Node
  | ⟨kind, role, _, text, children⟩ => ⟨kind, role, ⟨0, 0⟩, text, unplacedParts children⟩

/-- Several trees with their positions forgotten. -/
def unplacedParts : List Node → List Node
  | [] => []
  | n :: ns => unplaced n :: unplacedParts ns

end

/-- Forgetting positions with `unplacedParts` acts on each part by itself. -/
lemma unplacedParts_eq_map (ns : List Node) : unplacedParts ns = ns.map unplaced := by
  induction ns with
  | nil => rfl
  | cons n ns ih => rw [unplacedParts, ih, List.map_cons]

/-- The trees `m` and `n` differ at most in their positions. -/
def Alike (m n : Node) : Prop :=
  n.unplaced = m.unplaced

/-- The lists of trees `ms` and `ns` differ at most in their positions. -/
def AlikeParts (ms ns : List Node) : Prop :=
  unplacedParts ns = unplacedParts ms

/-- No parts are like no parts. -/
lemma alikeParts_nil : AlikeParts [] [] := rfl

/-- Parts put in a row are alike if both halves are. -/
lemma AlikeParts.append {ms ms' ns ns' : List Node} (h : AlikeParts ms ns)
    (h' : AlikeParts ms' ns') : AlikeParts (ms ++ ms') (ns ++ ns') := by
  simp only [AlikeParts, unplacedParts_eq_map] at h h' ⊢
  rw [List.map_append, List.map_append, h, h']

/-- A part by itself. -/
lemma Alike.parts {m n : Node} (h : Alike m n) : AlikeParts [m] [n] := by
  unfold Alike at h
  simp only [AlikeParts, unplacedParts, h]

/-- A part `m` in front of others `ms`. -/
lemma Alike.cons {m n : Node} {ms ns : List Node} (h : Alike m n) (h' : AlikeParts ms ns) :
    AlikeParts (m :: ms) (n :: ns) :=
  AlikeParts.append h.parts h'

/-- A leaf wherever it stands. -/
lemma alike_leaf (kind : Kind) (start start' : Nat) (text : List Char) :
    Alike (leaf kind start text) (leaf kind start' text) := rfl

/-- A node with parts `ms` and one with parts `ns` that are alike, wherever they stand. -/
lemma AlikeParts.branch {ms ns : List Node} (h : AlikeParts ms ns) (kind : Kind)
    (span span' : Span) : Alike (branch kind span ms) (branch kind span' ns) := by
  unfold AlikeParts at h
  simp only [Alike, Node.branch, unplaced, h]

/-- Trees `m` and `n` that are alike stay so in the same role. -/
lemma Alike.withRole {m n : Node} (h : Alike m n) (role : Option Role) :
    Alike (m.withRole role) (n.withRole role) := by
  cases m
  cases n
  simp only [Alike, unplaced, Node.mk.injEq] at h
  simp [Alike, Node.withRole, unplaced, h]

/-- Trees `m` and `n` that are alike have alike parts. -/
lemma Alike.children {m n : Node} (h : Alike m n) : AlikeParts m.children n.children := by
  cases m
  cases n
  simp only [Alike, unplaced, Node.mk.injEq] at h
  exact h.2.2.2.2

end RouteStubs.Syntax.Node
