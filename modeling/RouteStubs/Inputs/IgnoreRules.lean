import RouteStubs.FileSystem.Basic
import RouteStubs.Inputs.IgnorePattern

/-!
# Ignore rules

Which entries of a directory tree are left out when the tree is searched. Every directory can have
ignore files: `.ignore` always counts; `.gitignore` counts in a repository, that is, in a directory
with an entry `.git` and below; and so does `.git/info/exclude`. Of these the first beats the second
and the second the third. Of two files of one sort the one further down the tree wins, and in one
file the last line that matches.
-/

namespace RouteStubs

/-- A line of an ignore file. -/
structure IgnoreRule where
  tokens : List IgnorePattern.Token
  /-- What matches is to be kept, whatever an earlier rule says. -/
  keeps : Bool
  /-- Only directories match. -/
  onlyDirectories : Bool

namespace IgnoreRule

/-- The text has the given beginning. -/
def startsWith (beginning : String) (t : Text) : Bool :=
  beginning.toList.isPrefixOf t

/-- The text has the given end. -/
def endsWith (ending : String) (t : Text) : Bool :=
  ending.toList.isSuffixOf t

/-- The text that a line is matched with. A line without a slash matches at any depth, and one that
ends with two asterisks does not match the directory itself. -/
def pattern (anchored : Bool) (t : Text) : Text :=
  let t :=
    if !anchored && !t.contains '/' && t != lit "**" then lit "**/" ++ t else t
  if endsWith "/**" t then t ++ lit "/*" else t

/-- Reads a line of an ignore file, which is no rule if it is a comment or empty. -/
def ofLine? (line : Text) : Option IgnoreRule := do
  if startsWith "#" line then none
  let line := if endsWith "\\ " line then line else Text.trimRight line
  if line.isEmpty then none
  let escaped := startsWith "\\!" line || startsWith "\\#" line
  let keeps := !escaped && startsWith "!" line
  let line := if escaped || keeps then line.tail else line
  let anchored := !escaped && startsWith "/" line
  let line := if anchored then line.tail else line
  let onlyDirectories := endsWith "/" line
  let line := if onlyDirectories then line.dropLast else line
  let line := if onlyDirectories && endsWith "\\" line then line.dropLast else line
  let tokens ← IgnorePattern.parse? (pattern anchored line)
  pure ⟨tokens, keeps, onlyDirectories⟩

/-- The lines of a file up to the first that is no text. -/
def lines (content : List UInt8) : List Text :=
  (((content.splitOn 0x0a).map Text.decode?).takeWhile Option.isSome).filterMap id

/-- The rules of an ignore file. A byte order mark in front of the first line does not count. -/
def ofContent (content : List UInt8) : List IgnoreRule :=
  match lines content with
  | [] => []
  | first :: others =>
    (first.dropWhile (· == '\ufeff') :: others).filterMap ofLine?

/-- Whether the rules leave an entry out or keep it; the last rule that matches decides. -/
def verdict? (rules : List IgnoreRule) (path : List Text) (isDirectory : Bool) :
    Option Bool :=
  let bytes := Text.encode (List.intercalate ['/'] path)
  (rules.reverse.find? fun r =>
    (!r.onlyDirectories || isDirectory) && IgnorePattern.accepts r.tokens bytes).map
    fun r => !r.keeps

end IgnoreRule

/-- The ignore files of a directory. -/
structure IgnoreLayer where
  /-- The rules of `.ignore`. -/
  always : List IgnoreRule
  /-- The rules of `.gitignore`. -/
  tracked : List IgnoreRule
  /-- The rules of `.git/info/exclude`. -/
  excluded : List IgnoreRule
  /-- The directory is the top of a repository. -/
  isRepository : Bool

namespace IgnoreLayer

/-- The absolute path of a name in the directory at a place. -/
def absolutePath (directory : Place) (name : String) : Text :=
  '/' :: List.intercalate ['/'] (directory ++ [name.toList])

/-- The ignore files of the directory at a place. -/
def ofDirectory (fs : FileSystem) (directory : Place) : IgnoreLayer :=
  let rules (name : String) : List IgnoreRule :=
    match fs.read (absolutePath directory name) with
    | .ok content => IgnoreRule.ofContent content
    | .error _ => []
  { always := rules ".ignore"
    tracked := rules ".gitignore"
    excluded := rules ".git/info/exclude"
    isRepository := fs.present (absolutePath directory ".git") }

/-- A layer, and the path that an entry has below the directory of that layer. -/
structure View where
  layer : IgnoreLayer
  path : List Text

/-- The layers up to the top of the innermost repository. -/
def withinRepository : List View → List View
  | [] => []
  | v :: vs => if v.layer.isRepository then [v] else v :: withinRepository vs

/-- Whether the layers around an entry, from the innermost to the outermost, leave it out or keep
it. -/
def verdict? (views : List View) (isDirectory : Bool) : Option Bool :=
  let first (rules : IgnoreLayer → List IgnoreRule) (vs : List View) : Option Bool :=
    vs.findSome? fun v => IgnoreRule.verdict? (rules v.layer) v.path isDirectory
  let repository :=
    if views.any fun v => v.layer.isRepository then withinRepository views else []
  (first always views).orElse fun _ =>
    (first tracked repository).orElse fun _ => first excluded repository

end IgnoreLayer

end RouteStubs
