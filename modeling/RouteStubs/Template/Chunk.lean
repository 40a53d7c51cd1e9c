import RouteStubs.Text.Space
import RouteStubs.Text.Utf8

/-!
# Chunks of a template text

The text of a template alternates between plain text and tags, which stand between double braces.
The tag that opens a section, and the one that closes it, takes up a line break that follows it.
Dividing a text into chunks does not depend on whether its tags make sense.
-/

namespace RouteStubs.Template

/-- The tag that opens a section. -/
def openTag : Text := lit "#handlers"

/-- The tag that closes a section. -/
def closeTag : Text := lit "/handlers"

/-- A chunk of a template text. -/
inductive Chunk where
  /-- Plain text. -/
  | text (t : Text)
  /-- A tag, and the number of bytes in front of it. White space around its name is left out. -/
  | tag (place : Nat) (name : Text)
  /-- Two opening braces without closing ones after them. -/
  | unclosed (place : Nat)
  deriving DecidableEq, Repr

/-- What stands before and after the first place where `c` stands twice in a row. -/
def splitAtPair? (c : Char) : Text → Option (Text × Text)
  | a :: b :: rest =>
    if a = c ∧ b = c then some ([], rest)
    else (splitAtPair? c (b :: rest)).map fun (before, after) => (a :: before, after)
  | _ => none

/-- What follows the pair is shorter than the text. -/
theorem length_lt_of_splitAtPair? {c : Char} {t before after : Text}
    (h : splitAtPair? c t = some (before, after)) : after.length < t.length := by
  induction t generalizing before after with
  | nil => simp [splitAtPair?] at h
  | cons a rest ih =>
    cases rest with
    | nil => simp [splitAtPair?] at h
    | cons b rest =>
      rw [splitAtPair?] at h
      split at h
      · simp only [Option.some.injEq, Prod.mk.injEq] at h
        rw [← h.2]
        simp only [List.length_cons]
        omega
      · simp only [Option.map_eq_some_iff, Prod.mk.injEq, Prod.exists] at h
        obtain ⟨before', after', hsplit, _, rfl⟩ := h
        have := ih hsplit
        simp only [List.length_cons] at this ⊢
        omega

/-- The chunk of a text, which is none if the text is empty. -/
def plain (t : Text) : List Chunk :=
  if t.isEmpty then [] else [.text t]

/-- What is left of the text after a tag. -/
def afterTag (name rest : Text) : Text :=
  match rest with
  | '\n' :: more => if name = openTag ∨ name = closeTag then more else rest
  | _ => rest

/-- A tag takes up at most what follows it. -/
theorem length_afterTag_le (name rest : Text) : (afterTag name rest).length ≤ rest.length := by
  unfold afterTag
  split
  · split <;> simp
  · exact Nat.le_refl _

/-- The chunks of a text in front of which the given number of bytes stand. -/
def chunksFrom (offset : Nat) (t : Text) : List Chunk :=
  match h : splitAtPair? '\x7b' t with
  | none => plain t
  | some (before, opened) =>
    let start := offset + Text.byteLength before
    match h' : splitAtPair? '\x7d' opened with
    | none => plain before ++ [.unclosed start]
    | some (inner, closed) =>
      let name := Text.trim inner
      let rest := afterTag name closed
      let next := start + 2 + Text.byteLength inner + 2 + (closed.length - rest.length)
      have : rest.length < t.length :=
        Nat.lt_of_le_of_lt (length_afterTag_le name closed)
          (Nat.lt_trans (length_lt_of_splitAtPair? h') (length_lt_of_splitAtPair? h))
      plain before ++ .tag start name :: chunksFrom next rest
termination_by t.length

/-- The chunks of a template text. -/
def chunks (t : Text) : List Chunk :=
  chunksFrom 0 t

end RouteStubs.Template
