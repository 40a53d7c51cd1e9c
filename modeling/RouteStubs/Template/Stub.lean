import RouteStubs.Template.Basic

/-!
# The stub

The template of the test file that goes with a source file: one test for each handler, which calls
the handler with a value for every route variable that it reads.
-/

namespace RouteStubs.Template

/-- The test of one handler. -/
def handlerStub : List HandlerSegment := [
  .text (lit "\nfunc Test"),
  .field .name,
  .text (lit ("(t *testing.T) \x7b\n" ++
    "\tvars := map[string]string\x7b\x7d\n" ++
    "\tfor _, name := range ")),
  .field .routeVariables,
  .text (lit (" \x7b\n" ++
    "\t\tvars[name] = \"test-\" + name\n" ++
    "\t\x7d\n" ++
    "\n" ++
    "\treq := httptest.NewRequest(http.MethodGet, \"/\", nil)\n" ++
    "\treq = mux.SetURLVars(req, vars)\n" ++
    "\trec := httptest.NewRecorder()\n" ++
    "\n" ++
    "\t")),
  .field .name,
  .text (lit ("(rec, req)\n" ++
    "\n" ++
    "\tif rec.Code != http.StatusOK \x7b\n" ++
    "\t\tt.Errorf(\"")),
  .field .name,
  .text (lit (": got status %d, want %d\", rec.Code, http.StatusOK)\n" ++
    "\t\x7d\n" ++
    "\x7d\n"))]

/-- The test file of a source file. -/
def stub : Template := [
  .text (lit "// Code generated by handlerstub from "),
  .field .source,
  .text (lit (". DO NOT EDIT.\n" ++
    "// Regenerating overwrites this file.\n" ++
    "// Route variables are read through ")),
  .field .accessor,
  .text (lit (" and injected with mux.SetURLVars.\n" ++
    "\n" ++
    "package ")),
  .field .package,
  .text (lit ("\n" ++
    "\n" ++
    "import (\n" ++
    "\t\"net/http\"\n" ++
    "\t\"net/http/httptest\"\n" ++
    "\t\"testing\"\n" ++
    "\n" ++
    "\t\"github.com/gorilla/mux\"\n" ++
    ")\n" ++
    "\n" ++
    "// Handlers found in ")),
  .field .source,
  .text (lit " ("),
  .field .handlerCount,
  .text (lit (").\n" ++
    "var generatedHandlers = ")),
  .field .handlerNames,
  .text (lit ("\n" ++
    "\n" ++
    "// Route variables read by the last handler in the file.\n" ++
    "var generatedRouteVariables = ")),
  .field .routeVariables,
  .text (lit "\n"),
  .handlers handlerStub]

end RouteStubs.Template
