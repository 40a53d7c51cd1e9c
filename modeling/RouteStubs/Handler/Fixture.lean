import RouteStubs.Text.Basic

/-!
# Fixtures

Source files with given handlers, made for trying things out.
-/

namespace RouteStubs.Fixture

/-- A handler with the given body. -/
def handler (name body : Text) : Text :=
  lit "func " ++ name ++ lit "(w http.ResponseWriter, r *http.Request) \x7b\n" ++ body ++
    lit "\n\x7d\n"

/-- A source file with the given declarations. -/
def file (package : Text) (declarations : List Text) : Text :=
  lit "package " ++ package ++
    lit "\n\nimport (\n\t\"net/http\"\n\n\t\"github.com/gorilla/mux\"\n)\n" ++
    declarations.flatMap fun d => '\n' :: d

end RouteStubs.Fixture
