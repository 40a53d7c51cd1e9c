import Mathlib.Data.List.Chain
import RouteStubs.Proofs.Template.Chunks
import RouteStubs.Template.Render

/-!
# Parts of templates, in any order

The types of a template say which fields may stand where. `Part` is the same without these rules:
every field may stand everywhere, sections may be nested, and texts may be of any kind. A list of
parts can be written down and filled all the same; a field of handlers outside of a section has
nothing to stand for. The lists that obey all rules of templates are the `Canonical` ones, and
`exists_parts_eq` says that each of them is a template.
-/

namespace RouteStubs.Template

/-! ## Parts -/

/-- A field of files or of handlers. -/
inductive Field where
  | source | package | accessor | handlerNames | handlerCount | routeVariables | name | index
  deriving DecidableEq, Repr

/-- The name by which a template refers to a field. -/
def Field.tag : Field → Text
  | .source => lit "source"
  | .package => lit "package"
  | .accessor => lit "accessor"
  | .handlerNames => lit "handler_names"
  | .handlerCount => lit "handler_count"
  | .routeVariables => lit "route_variables"
  | .name => lit "name"
  | .index => lit "index"

/-- The field may stand inside a section. -/
def Field.standsInSection : Field → Bool
  | .name | .index | .routeVariables => true
  | _ => false

/-- The field may stand outside of a section. -/
def Field.standsInFile : Field → Bool
  | .name | .index => false
  | _ => true

/-- A part of a template of which nothing is required. -/
inductive Part where
  | text (t : Text)
  | field (f : Field)
  | handlers (body : List Part)

/-- The part is text. -/
def Part.isText : Part → Bool
  | .text _ => true
  | _ => false

mutual

/-- A part, written down. -/
def Part.print : Part → Text
  | .text t => t
  | .field f => braced f.tag
  | .handlers body => braced openTag ++ '\n' :: (printParts body ++ (braced closeTag ++ ['\n']))

/-- Several parts, written down one after the other. -/
def printParts : List Part → Text
  | [] => []
  | p :: ps => p.print ++ printParts ps

end

/-- What is written for a field, given the handler `current?` of the section in which it stands, and
its number. A field of handlers outside of a section has no value. -/
def Field.writes? (ctx : Context) (current? : Option (Handler × Nat)) : Field → Option (List Text)
  | .source => some [ctx.source]
  | .package => some [ctx.package]
  | .accessor => some [ctx.accessor]
  | .handlerNames => some (listWrites ctx.handlerNames)
  | .handlerCount => some [Text.decimal ctx.handlers.length]
  | .routeVariables =>
    match current? with
    | some (h, _) => some (listWrites h.routeVariables)
    | none => some (listWrites ctx.routeVariables)
  | .name => current?.map fun current => [current.1.name]
  | .index => current?.map fun current => [Text.decimal current.2]

mutual

/-- What is written for a part, unless a field in it has no value. -/
def Part.writes? (ctx : Context) (current? : Option (Handler × Nat)) : Part → Option (List Text)
  | .text t => some [t]
  | .field f => f.writes? ctx current?
  | .handlers body =>
    (ctx.handlers.zipIdx.mapM fun current => partsWrites? ctx (some current) body).map
      List.flatten

/-- What is written for several parts, unless a field in them has no value. -/
def partsWrites? (ctx : Context) (current? : Option (Handler × Nat)) :
    List Part → Option (List Text)
  | [] => some []
  | p :: ps => do
    let first ← p.writes? ctx current?
    let others ← partsWrites? ctx current? ps
    pure (first ++ others)

end

/-! ## Templates as parts -/

/-- A field of files among all fields. -/
def FileField.toField : FileField → Field
  | .source => .source
  | .package => .package
  | .accessor => .accessor
  | .handlerNames => .handlerNames
  | .handlerCount => .handlerCount
  | .routeVariables => .routeVariables

/-- A field of handlers among all fields. -/
def HandlerField.toField : HandlerField → Field
  | .name => .name
  | .index => .index
  | .routeVariables => .routeVariables

/-- A part of a section as a part. -/
def HandlerSegment.toPart : HandlerSegment → Part
  | .text t => .text t
  | .field f => .field f.toField

/-- A segment of a template as a part. -/
def Segment.toPart : Segment → Part
  | .text t => .text t
  | .field f => .field f.toField
  | .handlers body => .handlers (body.map HandlerSegment.toPart)

/-- The template `T` as a list of parts. -/
def parts (T : Template) : List Part :=
  T.map Segment.toPart

@[simp] lemma FileField.tag_toField (f : FileField) : f.toField.tag = f.tag := by
  cases f <;> rfl

@[simp] lemma HandlerField.tag_toField (f : HandlerField) : f.toField.tag = f.tag := by
  cases f <;> rfl

@[simp] lemma FileField.standsInFile_toField (f : FileField) :
    f.toField.standsInFile = true := by
  cases f <;> rfl

@[simp] lemma HandlerField.standsInSection_toField (f : HandlerField) :
    f.toField.standsInSection = true := by
  cases f <;> rfl

/-- Every field `f` that may stand outside of a section is a field of files. -/
lemma Field.exists_fileField {f : Field} (h : f.standsInFile = true) :
    ∃ g : FileField, g.toField = f := by
  cases f with
  | source => exact ⟨.source, rfl⟩
  | package => exact ⟨.package, rfl⟩
  | accessor => exact ⟨.accessor, rfl⟩
  | handlerNames => exact ⟨.handlerNames, rfl⟩
  | handlerCount => exact ⟨.handlerCount, rfl⟩
  | routeVariables => exact ⟨.routeVariables, rfl⟩
  | name => simp [standsInFile] at h
  | index => simp [standsInFile] at h

/-- Every field `f` that may stand inside a section is a field of handlers. -/
lemma Field.exists_handlerField {f : Field} (h : f.standsInSection = true) :
    ∃ g : HandlerField, g.toField = f := by
  cases f with
  | name => exact ⟨.name, rfl⟩
  | index => exact ⟨.index, rfl⟩
  | routeVariables => exact ⟨.routeVariables, rfl⟩
  | source => simp [standsInSection] at h
  | package => simp [standsInSection] at h
  | accessor => simp [standsInSection] at h
  | handlerNames => simp [standsInSection] at h
  | handlerCount => simp [standsInSection] at h

/-! ## Filling templates as parts -/

/-- The fields of a section have their values by `partsWrites?` when its handler is known. -/
lemma partsWrites?_section (ctx : Context) (current : Handler × Nat)
    (body : List HandlerSegment) :
    partsWrites? ctx (some current) (body.map HandlerSegment.toPart) =
      some (body.flatMap (HandlerSegment.writes current.1 current.2)) := by
  induction body with
  | nil => rfl
  | cons s body ih =>
    have hfirst : s.toPart.writes? ctx (some current) =
        some (s.writes current.1 current.2) := by
      cases s with
      | text t => rfl
      | field f => cases f <;> rfl
    rw [List.map_cons, partsWrites?, hfirst, ih, List.flatMap_cons]
    rfl

/-- A template as a list of `parts` is filled as the template is, and no field is without a value.
-/
lemma partsWrites?_parts (ctx : Context) (T : Template) :
    partsWrites? ctx none (parts T) = some (writes ctx T) := by
  induction T with
  | nil => rfl
  | cons s T ih =>
    have hfirst : s.toPart.writes? ctx none = some (s.writes ctx) := by
      cases s with
      | text t => rfl
      | field f => cases f <;> rfl
      | handlers body =>
        simp only [Segment.toPart, Part.writes?, partsWrites?_section]
        rw [← Option.pure_def, List.mapM_pure, Option.pure_def, Option.map_some,
          ← List.flatMap_def]
        rfl
    rw [parts, List.map_cons, partsWrites?, hfirst, ← parts, ih]
    rfl

/-! ## Canonical parts -/

/-- Texts among `ps` are not empty, hold no double opening braces, and are not adjacent. -/
structure Tidy (ps : List Part) : Prop where
  texts : ∀ t, .text t ∈ ps → t ≠ [] ∧ PairFree '\x7b' t
  apart : ps.IsChain fun p q => ¬ (p.isText = true ∧ q.isText = true)

/-- The rules for the `body` of a section. -/
structure CanonicalSection (body : List Part) : Prop where
  tidy : Tidy body
  braces : ∀ t, .text t ∈ body → t.getLast? ≠ some '\x7b'
  fields : ∀ f, .field f ∈ body → f.standsInSection = true
  flat : ∀ inner, .handlers inner ∉ body

/-- The rules for a whole template `ps`. Only a text with which it ends may end with a brace. -/
structure Canonical (ps : List Part) : Prop where
  tidy : Tidy ps
  braces : ∀ t, .text t ∈ ps.dropLast → t.getLast? ≠ some '\x7b'
  fields : ∀ f, .field f ∈ ps → f.standsInFile = true
  sections : ∀ body, .handlers body ∈ ps → CanonicalSection body

/-- The first part of `ps` is no text. -/
def BeginsWithTag (ps : List Part) : Prop :=
  ∀ t, ps.head? ≠ some (.text t)

/-- What a text `t` requires that comes before the parts `ps`. -/
def TextBefore (t : Text) (ps : List Part) : Prop :=
  (t ≠ [] ∧ PairFree '\x7b' t) ∧ BeginsWithTag ps

lemma tidy_nil : Tidy [] := ⟨by simp, .nil⟩

/-- The condition `Tidy`, part by part. -/
lemma tidy_cons {p : Part} {ps : List Part} :
    Tidy (p :: ps) ↔ (∀ t, p = .text t → TextBefore t ps) ∧ Tidy ps := by
  have hchain : (p :: ps).IsChain (fun p q => ¬ (p.isText = true ∧ q.isText = true)) ↔
      (∀ t, p = .text t → BeginsWithTag ps) ∧
        ps.IsChain fun p q => ¬ (p.isText = true ∧ q.isText = true) := by
    cases ps with
    | nil => simp [BeginsWithTag]
    | cons q qs =>
      rw [List.isChain_cons_cons]
      cases p <;> cases q <;> simp [BeginsWithTag, Part.isText]
  constructor
  · rintro ⟨htexts, hapart⟩
    obtain ⟨hfirst, hapart⟩ := hchain.mp hapart
    exact ⟨fun t ht => ⟨htexts t (by simp [ht]), hfirst t ht⟩,
      fun t ht => htexts t (List.mem_cons_of_mem _ ht), hapart⟩
  · rintro ⟨hfirst, htexts, hapart⟩
    refine ⟨fun t ht => ?_, hchain.mpr ⟨fun t ht => (hfirst t ht).2, hapart⟩⟩
    rcases List.mem_cons.mp ht with ht | ht
    · exact (hfirst t ht.symm).1
    · exact htexts t ht

lemma canonicalSection_nil : CanonicalSection [] :=
  ⟨tidy_nil, by simp, by simp, by simp⟩

/-- The condition `CanonicalSection`, part by part. -/
lemma canonicalSection_cons {p : Part} {ps : List Part} :
    CanonicalSection (p :: ps) ↔
      (∀ t, p = .text t → TextBefore t ps ∧ t.getLast? ≠ some '\x7b') ∧
        (∀ f, p = .field f → f.standsInSection = true) ∧ (∀ inner, p ≠ .handlers inner) ∧
          CanonicalSection ps := by
  constructor
  · rintro ⟨htidy, hbraces, hfields, hflat⟩
    obtain ⟨hfirst, htidy⟩ := tidy_cons.mp htidy
    refine ⟨fun t ht => ⟨hfirst t ht, hbraces t (by simp [ht])⟩,
      fun f hf => hfields f (by simp [hf]),
      fun inner hinner => hflat inner (by simp [hinner]), htidy,
      fun t ht => hbraces t (List.mem_cons_of_mem _ ht),
      fun f hf => hfields f (List.mem_cons_of_mem _ hf),
      fun inner hinner => hflat inner (List.mem_cons_of_mem _ hinner)⟩
  · rintro ⟨htext, hfield, hhandlers, htidy, hbraces, hfields, hflat⟩
    refine ⟨tidy_cons.mpr ⟨fun t ht => (htext t ht).1, htidy⟩, fun t ht => ?_, fun f hf => ?_,
      fun inner hinner => ?_⟩
    · exact (List.mem_cons.mp ht).elim (fun h => (htext t h.symm).2) (hbraces t)
    · exact (List.mem_cons.mp hf).elim (fun h => hfield f h.symm) (hfields f)
    · exact (List.mem_cons.mp hinner).elim (fun h => hhandlers inner h.symm) (hflat inner)

lemma canonical_nil : Canonical [] :=
  ⟨tidy_nil, by simp, by simp, by simp⟩

/-- The condition `Canonical`, part by part. -/
lemma canonical_cons {p : Part} {ps : List Part} :
    Canonical (p :: ps) ↔
      (∀ t, p = .text t → TextBefore t ps ∧ (ps ≠ [] → t.getLast? ≠ some '\x7b')) ∧
        (∀ f, p = .field f → f.standsInFile = true) ∧
          (∀ body, p = .handlers body → CanonicalSection body) ∧ Canonical ps := by
  have hdrop {t : Text} : .text t ∈ (p :: ps).dropLast ↔
      (p = .text t ∧ ps ≠ []) ∨ .text t ∈ ps.dropLast := by
    cases ps with
    | nil => simp
    | cons q qs => simp [eq_comm]
  constructor
  · rintro ⟨htidy, hbraces, hfields, hsections⟩
    obtain ⟨hfirst, htidy⟩ := tidy_cons.mp htidy
    exact ⟨fun t ht => ⟨hfirst t ht, fun hps => hbraces t (hdrop.mpr (.inl ⟨ht, hps⟩))⟩,
      fun f hf => hfields f (by simp [hf]), fun body hbody => hsections body (by simp [hbody]),
      htidy, fun t ht => hbraces t (hdrop.mpr (.inr ht)),
      fun f hf => hfields f (List.mem_cons_of_mem _ hf),
      fun body hbody => hsections body (List.mem_cons_of_mem _ hbody)⟩
  · rintro ⟨htext, hfield, hhandlers, htidy, hbraces, hfields, hsections⟩
    refine ⟨tidy_cons.mpr ⟨fun t ht => (htext t ht).1, htidy⟩, fun t ht => ?_, fun f hf => ?_,
      fun body hbody => ?_⟩
    · exact (hdrop.mp ht).elim (fun h => (htext t h.1).2 h.2) (hbraces t)
    · exact (List.mem_cons.mp hf).elim (fun h => hfield f h.symm) (hfields f)
    · exact (List.mem_cons.mp hbody).elim (fun h => hhandlers body h.symm) (hsections body)

/-- A `CanonicalSection` is made of parts of sections. -/
lemma exists_map_toPart_eq {ps : List Part} (h : CanonicalSection ps) :
    ∃ body : List HandlerSegment, body.map HandlerSegment.toPart = ps := by
  induction ps with
  | nil => exact ⟨[], rfl⟩
  | cons p ps ih =>
    obtain ⟨-, hfield, hflat, hps⟩ := canonicalSection_cons.mp h
    obtain ⟨body, rfl⟩ := ih hps
    cases p with
    | text t => exact ⟨.text t :: body, rfl⟩
    | field f =>
      obtain ⟨g, rfl⟩ := Field.exists_handlerField (hfield f rfl)
      exact ⟨.field g :: body, rfl⟩
    | handlers inner => exact absurd rfl (hflat inner)

/-- Parts that are `Canonical` are the parts of a template. -/
lemma exists_parts_eq {ps : List Part} (h : Canonical ps) : ∃ T : Template, parts T = ps := by
  induction ps with
  | nil => exact ⟨[], rfl⟩
  | cons p ps ih =>
    obtain ⟨-, hfield, hsection, hps⟩ := canonical_cons.mp h
    obtain ⟨T, rfl⟩ := ih hps
    cases p with
    | text t => exact ⟨.text t :: T, rfl⟩
    | field f =>
      obtain ⟨g, rfl⟩ := Field.exists_fileField (hfield f rfl)
      exact ⟨.field g :: T, rfl⟩
    | handlers body =>
      obtain ⟨body, rfl⟩ := exists_map_toPart_eq (hsection body rfl)
      exact ⟨.handlers body :: T, rfl⟩

end RouteStubs.Template
