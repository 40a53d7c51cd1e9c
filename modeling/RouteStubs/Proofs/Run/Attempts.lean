import RouteStubs.Proofs.FileSystem.Writing
import RouteStubs.Proofs.Template.Sinks
import RouteStubs.Proofs.Text.Utf8

/-!
# What becomes of a source file

A source file is classified, and then one attempt is made to write its test file. What the attempt
comes to depends on what is found in the source file, on where the path of the test file leads, and
on how much can be written there: `Generator.writeCompanion` writes the whole test file, or it
writes its beginning and fails, or it fails before anything is written. There is one lemma for each
of these, and what is proved of `Generator.processFile` rests on them.
-/

namespace RouteStubs

namespace Traced

variable {α β : Type}

@[simp] lemma result_pure (a : α) : (Pure.pure a : Traced α).result = .ok a := rfl

@[simp] lemma result_ofExcept (r : Except Failure α) : (ofExcept r).result = r := rfl

/-- The result of a `bind` does not depend on what is noted on the way. -/
@[simp] lemma result_bind (t : Traced α) (f : α → Traced β) :
    (t >>= f).result = t.result.bind fun a => (f a).result := by
  change (Traced.bind t f).result = _
  unfold Traced.bind
  cases t.result <;> rfl

@[simp] lemma result_note_bind (e : Event) (f : Unit → Traced β) :
    (note e >>= f).result = (f ()).result := rfl

end Traced

namespace Generator

/-! ## Classifying -/

/-- A file that holds the text `t` and is not too large is classified by `classifySource`. -/
lemma result_classifyFile_of_file {fs : FileSystem} {config : Config} {path t : Text}
    {place : Place} (h : fs.status path = .ok (place, .file (Text.encode t)))
    (hsize : (Text.encode t).length ≤ config.maxFileSize) :
    (classifyFile fs config path).result =
      (classifySource config.accessor path (withoutMark t)).result := by
  have hread : readSource fs path config.maxFileSize = .ok (withoutMark t) := by
    have htext : fs.readText path = .ok t := by
      simp [FileSystem.readText, FileSystem.read, h, Text.decode?_encode, bind, Except.bind]
    simp [readSource, h, htext, Entry.size, Nat.not_lt.mpr hsize]
  rw [classifyFile, Traced.result_bind, Traced.result_ofExcept, hread]
  rfl

/-- A source text `t` is classified once it has been parsed. -/
lemma result_classifySource_of_parse {a : Accessor} {t : Text} {found : Classification}
    (h : (Syntax.SourceFile.parse t).toOption.map (Classification.ofFile a) = some found)
    (path : Text) : (classifySource a path t).result = .ok found := by
  unfold classifySource
  cases hparse : Syntax.SourceFile.parse t with
  | error fault => simp [hparse, Except.toOption] at h
  | ok file => simpa [hparse, Except.toOption] using h

/-- A file that holds the text `t` and is not too large is classified if `t` can be parsed. -/
lemma result_classifyFile_of_parse {fs : FileSystem} {config : Config} {path t : Text}
    {place : Place} {found : Classification}
    (h : fs.status path = .ok (place, .file (Text.encode t)))
    (hsize : (Text.encode t).length ≤ config.maxFileSize)
    (hparse : (Syntax.SourceFile.parse (withoutMark t)).toOption.map
      (Classification.ofFile config.accessor) = some found) :
    (classifyFile fs config path).result = .ok found := by
  rw [result_classifyFile_of_file h hsize]
  exact result_classifySource_of_parse hparse path

/-- For a file whose `content` does not encode a text, `classifyFile` fails with `notText`. -/
lemma result_classifyFile_of_not_text {fs : FileSystem} {config : Config} {path : Text}
    {place : Place} {content : List UInt8} (h : fs.status path = .ok (place, .file content))
    (hsize : content.length ≤ config.maxFileSize) (hdecode : Text.decode? content = none) :
    (classifyFile fs config path).result = .error (.read path .notText) := by
  have htext : fs.readText path = .error .notText := by
    simp [FileSystem.readText, FileSystem.read, h, hdecode, bind, Except.bind]
  simp [classifyFile, readSource, h, htext, Entry.size, Nat.not_lt.mpr hsize, Except.bind]

/-- For a file that is larger than `config.maxFileSize`, `classifyFile` fails with `tooLarge`. -/
lemma result_classifyFile_of_tooLarge {fs : FileSystem} {config : Config} {path : Text}
    {place : Place} {e : Entry} (h : fs.status path = .ok (place, e))
    (hsize : config.maxFileSize < e.size) :
    (classifyFile fs config path).result =
      .error (.tooLarge path e.size config.maxFileSize) := by
  simp [classifyFile, readSource, h, hsize, Except.bind]

/-- A failure of `classifyFile` that is not fatal is one on account of the size of the file. -/
lemma exists_status_of_classifyFile {fs : FileSystem} {config : Config} {path : Text}
    {failure : Failure} (h : (classifyFile fs config path).result = .error failure)
    (hgoes : failure.isFatal = false) :
    ∃ place e, fs.status path = .ok (place, e) ∧ config.maxFileSize < e.size := by
  rw [classifyFile, Traced.result_bind, Traced.result_ofExcept] at h
  cases hread : readSource fs path config.maxFileSize with
  | ok source =>
    rw [hread] at h
    simp only [Except.bind, classifySource] at h
    split at h
    · cases h
      simp [Failure.isFatal] at hgoes
    · cases h
  | error failure' =>
    obtain rfl : failure' = failure := by simpa [hread, Except.bind] using h
    unfold readSource at hread
    split at hread
    · cases hread
      simp [Failure.isFatal] at hgoes
    · next place e hstatus =>
      split_ifs at hread with hsize
      · exact ⟨place, e, hstatus, hsize⟩
      · split at hread
        · cases hread
          simp [Failure.isFatal] at hgoes
        · cases hread

/-! ## Writing the test file -/

/-- The test file of a source file is not empty. -/
lemma encode_renderStub_ne_nil (found : Classification) (source : Text) (a : Accessor) :
    Text.encode (renderStub found source a) ≠ [] := by
  have hhead : renderStub found source a = '/' :: (renderStub found source a).tail := rfl
  rw [hhead, Text.encode, List.flatMap_cons]
  exact List.append_ne_nil_of_left_ne_nil (by decide) _

section

variable {fs : FileSystem} {found : Classification} {source outDir : Text}
  (hhandlers : found.handlers ≠ []) (a : Accessor)
include hhandlers

/-- A test file that cannot be created leaves the file system as it is. -/
lemma writeCompanion_of_error {cause : SystemError}
    (hcreate : fs.create (Path.companion outDir source) = .error cause) :
    writeCompanion fs found source a outDir =
      ⟨[], .error (.creation (Path.companion outDir source) cause), fs⟩ := by
  have hempty : found.isEmpty = false := by simpa [Classification.isEmpty] using hhandlers
  simp [writeCompanion, hempty, hcreate]

/-- What has been created takes as much of the test file as there is room for, and the attempt fails
exactly if this is not all of it. -/
lemma writeCompanion_of_create {place : Place} {created : FileSystem}
    (hcreate : fs.create (Path.companion outDir source) = .ok (place, created)) :
    let sink : Template.Sink := ⟨[], created.roomAt? place⟩
    let bytes := Text.encode (renderStub found source a)
    writeCompanion fs found source a outDir =
      if sink.fits bytes then
        ⟨[.wrote (Path.companion outDir source) found.handlers.length],
          .ok (some (Path.companion outDir source)), created.fill place (sink.after bytes).taken⟩
      else
        ⟨[], .error (.render (Path.companion outDir source) .noSpace),
          created.fill place (sink.after bytes).taken⟩ := by
  intro sink bytes
  have hempty : found.isEmpty = false := by simpa [Classification.isEmpty] using hhandlers
  have hbytes : bytes = Text.encode
    (Template.render (.ofClassification found source a) Template.stub) := rfl
  simp only [writeCompanion, hempty, hcreate, renderInto_eq, Template.renderInto_eq_write,
    Template.Sink.left_write, Bool.false_eq_true, if_false]
  rw [← hbytes]
  cases sink.fits bytes with
  | true => rfl
  | false => rfl

variable {place : Place}

/-- A test file whose `place` takes all of it is written there. -/
lemma writeCompanion_of_takes
    (hplace : fs.destination? (Path.companion outDir source) = some place)
    (htakes : fs.Takes place (Text.encode (renderStub found source a))) :
    writeCompanion fs found source a outDir =
      ⟨[.wrote (Path.companion outDir source) found.handlers.length],
        .ok (some (Path.companion outDir source)),
        fs.insert place (.file (Text.encode (renderStub found source a)))⟩ := by
  have hreplaceable := FileSystem.replaceable_of_destination? hplace
  rw [writeCompanion_of_create hhandlers a (FileSystem.create_of_destination? hplace),
    FileSystem.roomAt?_insert hreplaceable, FileSystem.fill_insert hreplaceable]
  unfold FileSystem.Takes at htakes
  cases hroom : fs.spare? place with
  | none => simp [Template.Sink.fits, Template.Sink.after]
  | some room =>
    have hfits : (Text.encode (renderStub found source a)).length ≤ room := by
      simpa [hroom] using htakes
    simp [Template.Sink.fits, Template.Sink.after, hfits, List.take_of_length_le hfits]

/-- A test file whose `place` has room for its first `room` bytes only is left with these. -/
lemma writeCompanion_of_spare? {room : Nat}
    (hplace : fs.destination? (Path.companion outDir source) = some place)
    (hroom : fs.spare? place = some room)
    (hlt : room < (Text.encode (renderStub found source a)).length) :
    writeCompanion fs found source a outDir =
      ⟨[], .error (.render (Path.companion outDir source) .noSpace),
        fs.insert place (.file ((Text.encode (renderStub found source a)).take room))⟩ := by
  have hreplaceable := FileSystem.replaceable_of_destination? hplace
  rw [writeCompanion_of_create hhandlers a (FileSystem.create_of_destination? hplace),
    FileSystem.roomAt?_insert hreplaceable, FileSystem.fill_insert hreplaceable, hroom]
  simp [Template.Sink.fits, Template.Sink.after, Nat.not_le.mpr hlt]

/-- A test file cannot be written to a device that is full, which stays as it is. -/
lemma writeCompanion_of_fullDevice
    (hdevice : fs.resolve true (Path.companion outDir source) =
      .ok (.occupied place .fullDevice)) :
    writeCompanion fs found source a outDir =
      ⟨[], .error (.render (Path.companion outDir source) .noSpace), fs⟩ := by
  have hcreate : fs.create (Path.companion outDir source) = .ok (place, fs) := by
    simp [FileSystem.create, hdevice]
  have hentry : fs.entry? place = some .fullDevice := FileSystem.stands_of_resolve hdevice
  rw [writeCompanion_of_create hhandlers a hcreate]
  simp [FileSystem.roomAt?, FileSystem.fill, hentry, Template.Sink.fits,
    encode_renderStub_ne_nil found source a]

end

/-! ## Processing -/

variable {fs : FileSystem} {config : Config} {path : Text} {found : Classification}

/-- Nothing is done by `process` with a source file without handlers. -/
lemma process_of_noHandlers (hhandlers : found.handlers = []) :
    process fs config path found = ⟨[], .ok (.noHandlers found), fs⟩ := by
  simp [process, Classification.isEmpty, hhandlers]

/-- In a dry run `process` plans a test file and does not write it. -/
lemma process_of_dryRun (hhandlers : found.handlers ≠ []) (hdry : config.dryRun = true) :
    process fs config path found =
      ⟨[], .ok (.planned (Path.companion config.outDir path) found), fs⟩ := by
  simp [process, Classification.isEmpty, hhandlers, hdry]

/-- Outside a dry run `process` makes the attempt of `writeCompanion`. -/
lemma process_of_real (hhandlers : found.handlers ≠ []) (hdry : config.dryRun = false) :
    process fs config path found =
      (writeCompanion fs found path config.accessor config.outDir).map
        (Outcome.ofOutput found) := by
  simp [process, Classification.isEmpty, hhandlers, hdry]

/-- A source file that cannot be classified leaves `fs` as it is. -/
lemma processFile_of_error {failure : Failure}
    (h : (classifyFile fs config path).result = .error failure) :
    processFile fs config path = ⟨(classifyFile fs config path).events, .error failure, fs⟩ := by
  simp [processFile, Attempt.after, h]

/-- With a source file that has been classified, `process` does what is to be done. -/
lemma processFile_of_ok (h : (classifyFile fs config path).result = .ok found) :
    processFile fs config path =
      { process fs config path found with
        events := (classifyFile fs config path).events ++
          .classified path found.package found.handlers.length ::
            (process fs config path found).events } := by
  simp [processFile, Attempt.after, Traced.note, h]

end Generator

end RouteStubs
