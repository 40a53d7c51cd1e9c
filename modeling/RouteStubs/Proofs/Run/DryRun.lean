import Mathlib.Data.List.Forall2
import RouteStubs.Proofs.Run.Sessions

/-!
# Dry runs

A dry run foretells the real one: the same inputs have the same outcomes, with test files that are
planned in the one and written in the other. The reason is that no test file is ever written where
an input stands. This holds as long as there are no links and no input is itself a test file, and it
is kept as an invariant, `Undisturbed`, along the real run.
-/

namespace RouteStubs

/-! ## Kinds of failures -/

/-- The constructor of a `Failure`, without its details. -/
inductive Failure.Kind where
  | read
  | tooLarge
  | parse
  | creation
  | render
  | template
  | input
  deriving DecidableEq, Repr

/-- The constructor of the failure `f`. -/
def Failure.kind : Failure → Failure.Kind
  | .read _ _ => .read
  | .tooLarge _ _ _ => .tooLarge
  | .parse _ _ => .parse
  | .creation _ _ => .creation
  | .render _ _ => .render
  | .template _ => .template
  | .input _ => .input

/-- The kind of a failure decides whether it ends the run: `isFatal` does not look at the details.
-/
lemma Failure.isFatal_eq_of_kind_eq {f f' : Failure} (h : f.kind = f'.kind) :
    f.isFatal = f'.isFatal := by
  cases f <;> cases f' <;> simp_all [kind, isFatal]

/-- A dry run that comes to `r` foretells a real run that comes to `r'`: a planned test file is
written, no handlers are no handlers, and failures are of the same `kind`. -/
inductive Foretells : Except Failure Outcome → Except Failure Outcome → Prop
  | planned (output : Text) (found : Classification) :
      Foretells (.ok (.planned output found)) (.ok (.written output found))
  | noHandlers (found : Classification) :
      Foretells (.ok (.noHandlers found)) (.ok (.noHandlers found))
  | failure {f f' : Failure} (kind : f.kind = f'.kind) : Foretells (.error f) (.error f')

namespace Foretells

variable {r r' : Except Failure Outcome}

/-- Results `r` and `r'` of which one foretells the other are counted in the same way by
`Summary.record`. -/
lemma record_eq (h : Foretells r r') (json : Bool) (s : Summary) :
    s.record json r = s.record json r' := by
  cases h with
  | planned output found => rfl
  | noHandlers found => rfl
  | @failure f f' kind =>
    cases f <;> cases f' <;> simp_all [Failure.kind, Summary.record, Failure.isFatal]

/-- Results `r` and `r'` of which one foretells the other are both fatal, or none of them is. -/
lemma isFatal_eq (h : Foretells r r') : isFatal r = isFatal r' := by
  cases h with
  | planned output found => rfl
  | noHandlers found => rfl
  | failure kind => exact Failure.isFatal_eq_of_kind_eq kind

lemma ends_eq (h : Foretells r r') (env : Environment) (display : Session.Display) :
    Session.ends env display r = Session.ends env display r' := by
  cases h with
  | planned output found => rfl
  | noHandlers found => rfl
  | failure kind => exact Failure.isFatal_eq_of_kind_eq kind

end Foretells

/-! ## What the real run leaves alone -/

/-- Since `fs`, nothing has happened in `fs'` to `inputs`, whose `status` is the same but for the
error, nor to the places `destination?` at which files are written, nor to the `room?` for them.
There are still no links. -/
structure Undisturbed (inputs : List Text) (fs fs' : FileSystem) : Prop where
  linkFree : fs'.LinkFree
  destination : ∀ p, fs'.destination? p = fs.destination? p
  room : fs'.room? = fs.room?
  status : ∀ path ∈ inputs, (fs'.status path).toOption = (fs.status path).toOption

namespace Undisturbed

variable {inputs : List Text} {fs fs' : FileSystem}

/-- The turn `Turn.take config fs' path` keeps the `inputs` undisturbed, if none of them is a test
file: it writes at most to a test file. -/
lemma take (h : Undisturbed inputs fs fs') (hinputs : ∀ path ∈ inputs, Path.isTest path = false)
    (config : Config) (path : Text) : Undisturbed inputs fs (Turn.take config fs' path).2 := by
  rcases Turn.take_eq_or_insert config fs' path with
    hsame | ⟨_, place, _, _, _, _, hplace, hinsert⟩
  · rwa [hsame]
  · have hreplaceable := FileSystem.replaceable_of_destination? hplace
    rw [hinsert]
    refine ⟨h.linkFree.insert hreplaceable _, fun p => ?_, h.room, fun q hq => ?_⟩
    · rw [FileSystem.destination?_insert hreplaceable, h.destination]
    · have hother := h.linkFree.destination?_ne_of_isTest (hinputs q hq) hplace
      rw [FileSystem.status_insert_of_ne hreplaceable hother, h.status q hq]

/-- A path `p` that can hold `content` in `fs` leads in `fs'` to a place that takes it. -/
lemma canHold (h : Undisturbed inputs fs fs') {p : Text} {content : List UInt8}
    (hp : fs.CanHold p content) :
    ∃ place, fs'.destination? p = some place ∧ fs'.Takes place content := by
  obtain ⟨place, hplace, hroom⟩ := hp
  refine ⟨place, (h.destination p).trans hplace, ?_⟩
  rw [FileSystem.Takes, FileSystem.spare?, h.room]
  exact hroom _

/-- An undisturbed input has in `fs'` the content that it had in `fs`. -/
lemma read (h : Undisturbed inputs fs fs') {path : Text} (hpath : path ∈ inputs) :
    (fs'.read path).toOption = (fs.read path).toOption :=
  FileSystem.toOption_read_of_status (h.status path hpath)

/-- An undisturbed input is classified in `fs'` as in `fs`, or `classifyFile` fails to read it in
both, perhaps for another cause. -/
lemma classifyFile (h : Undisturbed inputs fs fs') (config : Config) {path : Text}
    (hpath : path ∈ inputs) :
    (Generator.classifyFile fs' config path).result =
        (Generator.classifyFile fs config path).result ∨
      ∃ cause cause',
        (Generator.classifyFile fs config path).result = .error (.read path cause) ∧
        (Generator.classifyFile fs' config path).result = .error (.read path cause') := by
  simp only [Generator.classifyFile, Traced.result_bind, Traced.result_ofExcept,
    Generator.readSource, FileSystem.readText, FileSystem.read]
  rcases FileSystem.status_eq_or_error (h.status path hpath) with
    hsame | ⟨cause, cause', hbefore, hafter⟩
  · rw [hsame]
    exact .inl rfl
  · rw [hbefore, hafter]
    exact .inr ⟨cause, cause', rfl, rfl⟩

end Undisturbed

/-! ## Real runs and dry runs -/

namespace Config

/-- The configuration `config` of a dry run. -/
def dry (config : Config) : Config := { config with dryRun := true }

/-- The configuration `config` of a real run. -/
def real (config : Config) : Config := { config with dryRun := false }

end Config

section

variable {inputs : List Text} {fs fs' : FileSystem} {config : Config}
  (hinputs : ∀ path ∈ inputs, Path.isTest path = false)
  (hwritable : ∀ path ∈ inputs, ∀ found,
    (Generator.classifyFile fs config path).result = .ok found → found.handlers ≠ [] →
      fs.CanHold (Path.companion config.outDir path)
        (Text.encode (Generator.renderStub found path config.accessor)))
include hwritable

/-- The turn of an undisturbed input in a dry run on `fs` foretells its turn in the real run on
`fs'`. -/
lemma foretells_take (h : Undisturbed inputs fs fs') {path : Text} (hpath : path ∈ inputs) :
    Foretells (Turn.take config.dry fs path).1.result
      (Turn.take config.real fs' path).1.result := by
  have hdry : (Generator.classifyFile fs config.dry path).result =
      (Generator.classifyFile fs config path).result := rfl
  have hreal : (Generator.classifyFile fs' config.real path).result =
      (Generator.classifyFile fs' config path).result := rfl
  rcases h.classifyFile config hpath with hsame | ⟨cause, cause', hbefore, hafter⟩
  · rw [hsame] at hreal
    cases hfound : (Generator.classifyFile fs config path).result with
    | error failure =>
      rw [Turn.take_unclassified (hdry.trans hfound), Turn.take_unclassified (hreal.trans hfound)]
      exact .failure rfl
    | ok found =>
      by_cases hhandlers : found.handlers = []
      · rw [Turn.take_noHandlers (hdry.trans hfound) hhandlers,
          Turn.take_noHandlers (hreal.trans hfound) hhandlers]
        exact .noHandlers found
      · obtain ⟨place, hplace, htakes⟩ := h.canHold (hwritable path hpath found hfound hhandlers)
        rw [Turn.take_planned (hdry.trans hfound) hhandlers rfl,
          Turn.take_written (hreal.trans hfound) hhandlers rfl hplace htakes]
        exact .planned _ found
  · rw [Turn.take_unclassified (hdry.trans hbefore), Turn.take_unclassified (hreal.trans hafter)]
    exact .failure rfl

include hinputs

/-- The turns of a dry run on `fs` foretell those of the real run on `fs'`, which leaves the
`inputs` undisturbed. The induction is on `paths`, with `fs'` moving from turn to turn. -/
lemma forall₂_turns {ends : Except Failure Outcome → Bool}
    (hends : ∀ r r', Foretells r r' → ends r = ends r') {paths : List Text}
    (hpaths : ∀ path ∈ paths, path ∈ inputs) (h : Undisturbed inputs fs fs') :
    List.Forall₂ (fun t t' => t.path = t'.path ∧ Foretells t.result t'.result)
        (turns ends config.dry paths fs).1 (turns ends config.real paths fs').1 ∧
      Undisturbed inputs fs (turns ends config.real paths fs').2 := by
  induction paths generalizing fs' with
  | nil => exact ⟨.nil, h⟩
  | cons path paths ih =>
    have hpath := hpaths path List.mem_cons_self
    have hfirst := foretells_take hwritable h hpath
    have htake := h.take hinputs config.real path
    cases hdry : ends (Turn.take config.dry fs path).1.result with
    | true =>
      have hreal := (hends _ _ hfirst).symm.trans hdry
      rw [turns_cons_of_ends hdry, turns_cons_of_ends hreal]
      exact ⟨.cons ⟨by simp, hfirst⟩ .nil, htake⟩
    | false =>
      have hreal := (hends _ _ hfirst).symm.trans hdry
      obtain ⟨hrest, hlast⟩ := ih (fun q hq => hpaths q (List.mem_cons_of_mem _ hq)) htake
      rw [turns_cons_of_not_ends hdry, turns_cons_of_not_ends hreal, Turn.take_of_dryRun rfl]
      exact ⟨.cons ⟨by simp, hfirst⟩ hrest, hlast⟩

end

/-- Turns `ts` that foretell the turns `ts'` give the same totals. -/
lemma recordAll_eq_of_forall₂ {ts ts' : List Turn}
    (h : List.Forall₂ (fun t t' => t.path = t'.path ∧ Foretells t.result t'.result) ts ts')
    (json : Bool) (s : Summary) : s.recordAll json ts = s.recordAll json ts' := by
  induction h generalizing s with
  | nil => rfl
  | @cons t t' ts ts' hturn _ ih =>
    change (s.record json t.result).recordAll json ts = (s.record json t'.result).recordAll json ts'
    rw [hturn.2.record_eq, ih]

/-- Turns `ts` that foretell the turns `ts'` end the run where those do, if `ends` does not tell
foretold results apart. -/
lemma any_ends_eq_of_forall₂ {ts ts' : List Turn}
    (h : List.Forall₂ (fun t t' => t.path = t'.path ∧ Foretells t.result t'.result) ts ts')
    {ends : Except Failure Outcome → Bool} (hends : ∀ r r', Foretells r r' → ends r = ends r') :
    (ts.any fun t => ends t.result) = ts'.any fun t => ends t.result := by
  induction h with
  | nil => rfl
  | cons hturn _ ih => rw [List.any_cons, List.any_cons, hends _ _ hturn.2, ih]

/-- What a dry run says about the real run on the same `inputs`. -/
structure Foretold (config : Config) (fs : FileSystem) (inputs : List Text) : Prop where
  /-- The inputs that are reached are the same, and what becomes of them is related by `Foretells`.
  -/
  outcomes : List.Forall₂ (fun t t' => t.path = t'.path ∧ Foretells t.result t'.result)
    (turns isFatal config.dry inputs fs).1 (turns isFatal config.real inputs fs).1
  /-- Sessions end in the same way and with the same totals. The dry one `d` leaves the file system
  alone, the real one `r` leaves the content of the `inputs` alone. -/
  sessions : ∀ (env : Environment) (display : Session.Display) (s : Session), s.fs = fs →
    ∃ ended d r, Session.processPaths env display config.dry inputs s = Session.goesOn ended d ∧
      Session.processPaths env display config.real inputs s = Session.goesOn ended r ∧
      d.summary = r.summary ∧ d.fs = fs ∧
      ∀ path ∈ inputs, (r.fs.read path).toOption = (fs.read path).toOption

/-- Without links, a dry run foretells the real run, if no input is a test file and `fs` can hold
every test file that is to be written. -/
theorem foretold_of_linkFree {fs : FileSystem} {config : Config} {inputs : List Text}
    (hfs : fs.LinkFree) (hinputs : ∀ path ∈ inputs, Path.isTest path = false)
    (hwritable : ∀ path ∈ inputs, ∀ found,
      (Generator.classifyFile fs config path).result = .ok found → found.handlers ≠ [] →
        fs.CanHold (Path.companion config.outDir path)
          (Text.encode (Generator.renderStub found path config.accessor))) :
    Foretold config fs inputs := by
  have hstart : Undisturbed inputs fs fs := ⟨hfs, fun _ => rfl, rfl, fun _ _ => rfl⟩
  have hrun {ends : Except Failure Outcome → Bool}
      (hends : ∀ r r', Foretells r r' → ends r = ends r') :=
    forall₂_turns hinputs hwritable hends (fun _ => id) hstart
  refine ⟨(hrun fun r r' h => h.isFatal_eq).1, fun env display s hs => ?_⟩
  subst hs
  have hends (r r' : Except Failure Outcome) (h : Foretells r r') := h.ends_eq env display
  obtain ⟨hturns, hlast⟩ := hrun hends
  obtain ⟨d, hd, hdfs, hdsummary⟩ :=
    Session.exists_processPaths env display config.dry inputs s
  obtain ⟨r, hr, hrfs, hrsummary⟩ :=
    Session.exists_processPaths env display config.real inputs s
  refine ⟨_, d, r, hd, ?_, ?_, ?_, fun path hpath => ?_⟩
  · rw [hr, any_ends_eq_of_forall₂ hturns hends]
  · rw [hdsummary, hrsummary, recordAll_eq_of_forall₂ hturns]
  · rw [hdfs, turns_of_dryRun _ rfl]
  · rw [hrfs, hlast.read hpath]

/-- A dry run on the source file `x.go` and on `y.go`, which is missing. -/
theorem foretold_before_missing_source :
    let fs := FileSystem.withOneHandler [] [[lit "x.go"]]
    let inputs := [lit "x.go", lit "y.go"]
    fs.LinkFree ∧ (∀ path ∈ inputs, Path.isTest path = false) ∧
      (∀ path ∈ inputs, ∀ content, fs.CanHold (Path.companion (lit ".") path) content) ∧
      Foretold .standard fs inputs := by
  intro fs inputs
  have hfs : fs.LinkFree := by
    apply FileSystem.linkFree_of_entries
    simp [fs, FileSystem.withOneHandler]
  have hinputs : ∀ path ∈ inputs, Path.isTest path = false := by decide
  have hwritable : ∀ path ∈ inputs, ∀ content,
      fs.CanHold (Path.companion (lit ".") path) content := by
    have hroom : fs.Unlimited := fun _ _ => rfl
    have hx : fs.destination? (Path.companion (lit ".") (lit "x.go")) = some [lit "x_test.go"] :=
      destination?_source
    have hy : fs.destination? (Path.companion (lit ".") (lit "y.go")) = some [lit "y_test.go"] :=
      FileSystem.destination?_of_resolvePlainly? rfl
    simp only [inputs, List.forall_mem_cons]
    exact ⟨hroom.canHold hx, hroom.canHold hy, List.forall_mem_nil _⟩
  exact ⟨hfs, hinputs, hwritable,
    foretold_of_linkFree hfs hinputs fun path hpath _ _ _ => hwritable path hpath _⟩

end RouteStubs
