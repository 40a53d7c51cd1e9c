import RouteStubs.Template.Basic
import RouteStubs.Template.Chunk
import RouteStubs.Text.Numeral

/-!
# Reading templates

A template text is well-formed if each tag in it is closed, names a field that may stand there,
opens a section outside of one or closes the section that is open, and if no section is left open.
-/

namespace RouteStubs.Template

/-- Why a text is no template. Places are counted in bytes from the beginning of the text. -/
inductive Fault where
  | unclosedTag (place : Nat)
  | nestedSection (place : Nat)
  | unmatchedClose (place : Nat)
  | unknownField (name : Text) (place : Nat)
  | unclosedSection
  deriving DecidableEq, Repr

/-- The wording of a fault. -/
def Fault.message : Fault → Text
  | .unclosedTag n => lit "unclosed tag at byte " ++ Text.decimal n
  | .nestedSection n => lit "nested section at byte " ++ Text.decimal n
  | .unmatchedClose n => lit "unmatched section close at byte " ++ Text.decimal n
  | .unknownField name n =>
    lit "unknown field '" ++ name ++ lit "' at byte " ++ Text.decimal n
  | .unclosedSection => lit "unclosed handlers section"

/-- Makes segments of chunks. If a section is open, `section?` holds what it has gathered so far. -/
def assemble (section? : Option (List HandlerSegment)) : List Chunk → Except Fault Template
  | [] =>
    match section? with
    | none => .ok []
    | some _ => .error .unclosedSection
  | .text t :: chunks =>
    match section? with
    | none => (assemble none chunks).map (.text t :: ·)
    | some body => assemble (some (body ++ [.text t])) chunks
  | .unclosed n :: _ => .error (.unclosedTag n)
  | .tag n name :: chunks =>
    match section? with
    | none =>
      if name = openTag then assemble (some []) chunks
      else if name = closeTag then .error (.unmatchedClose n)
      else
        match FileField.ofName? name with
        | none => .error (.unknownField name n)
        | some f => (assemble none chunks).map (.field f :: ·)
    | some body =>
      if name = openTag then .error (.nestedSection n)
      else if name = closeTag then (assemble none chunks).map (.handlers body :: ·)
      else
        match HandlerField.ofName? name with
        | none => .error (.unknownField name n)
        | some f => assemble (some (body ++ [.field f])) chunks

/-- Reads a template. -/
def parse (t : Text) : Except Fault Template :=
  assemble none (chunks t)

end RouteStubs.Template
