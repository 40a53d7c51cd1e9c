import RouteStubs.Path.Basic

/-!
# Names of source and test files

The test file of a source file has the name of the source file with `_test` before the extension. It
is written to a directory of its own choice, whatever the directory of the source.
-/

namespace RouteStubs.Path

/-- The extension of source files. -/
def sourceExtension : Text := lit "go"

/-- What the names of test files end with before their extension. -/
def testSuffix : Text := lit "_test"

/-- The path leads to a source file. The case of its extension does not matter. -/
def isSource (p : Text) : Bool :=
  (extension? p).any fun e => e.map Char.toLower == sourceExtension

/-- The path leads to a test file. -/
def isTest (p : Text) : Bool :=
  isSource p && (stem? p).any fun s => testSuffix.isSuffixOf s

/-- The name of the test file of a source file. -/
def companionName (source : Text) : Text :=
  let name := (fileName? source).getD []
  let stem := ((splitAtLastDot? name).map Prod.fst).getD name
  stem ++ testSuffix ++ '.' :: sourceExtension

/-- The path of the test file of a source file, in the given directory. -/
def companion (directory source : Text) : Text :=
  join directory (companionName source)

end RouteStubs.Path
