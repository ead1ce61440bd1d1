/-
The main file of a server program.

A `MainFile` is what varies from server to server; `lines` puts it between the lines
that all servers share.  The name and the table stand on a line of their own, and
each route on a comment line in the heading.  Main statement: `length_lines` — the
number of lines depends on the number of routes alone.
-/
import MockServer.Number.Digits

namespace MockServer.Program

/-- A route in the heading: its method, and its path as a literal. -/
structure RouteLine where
  method : String
  path : String

/-- What varies from server to server, each text as it is spliced in. -/
structure MainFile where
  project : String
  routes : List RouteLine
  port : Nat
  allowedMethods : String
  table : String

/-- The comment line of a route. -/
def RouteLine.text (r : RouteLine) : String :=
  "//   " ++ r.method ++ " " ++ r.path

/-! ### Lines that all servers share -/

/-- The package line and the imports. -/
def importLines : List String :=
  ["",
    "package main",
    "",
    "import (",
    "\t\"encoding/json\"",
    "\t\"flag\"",
    "\t\"log\"",
    "\t\"net/http\"",
    "\t\"os\"",
    "\t\"strconv\"",
    "\t\"time\"",
    ")",
    ""]

/-- The declaration of the type of an endpoint. -/
def endpointType : List String :=
  ["",
    "type endpoint struct \x7b",
    "\tStatus      int               `json:\"status\"`",
    "\tContentType string            `json:\"contentType\"`",
    "\tHeaders     map[string]string `json:\"headers\"`",
    "\tDelayMs     int64             `json:\"delayMs\"`",
    "\tBody        *json.RawMessage  `json:\"body\"`",
    "\x7d"]

/-- The declaration of the type of a group. -/
def groupType : List String :=
  ["",
    "type routeGroup struct \x7b",
    "\tPath    string              `json:\"path\"`",
    "\tMethods map[string]endpoint `json:\"methods\"`",
    "\x7d"]

/-- The function that chooses the port. -/
def portFunction : List String :=
  ["",
    "// resolvePort applies --port, then PORT, then the default.",
    "func resolvePort(flagPort int, explicit bool) int \x7b",
    "\tif explicit \x7b",
    "\t\treturn flagPort",
    "\t\x7d",
    "\tif v := os.Getenv(\"PORT\"); v != \"\" \x7b",
    "\t\tif p, err := strconv.Atoi(v); err == nil \x7b",
    "\t\t\treturn p",
    "\t\t\x7d",
    "\t\tlog.Printf(\"ignoring invalid PORT %q\", v)",
    "\t\x7d",
    "\treturn defaultPort",
    "\x7d"]

/-- The function that sets the cross-origin headers. -/
def crossOriginFunction : List String :=
  ["",
    "func setCORSHeaders(h http.Header) \x7b",
    "\th.Set(\"Access-Control-Allow-Origin\", \"*\")",
    "\th.Set(\"Access-Control-Allow-Headers\", \"*\")",
    "\th.Set(\"Access-Control-Allow-Methods\", allowedMethods)",
    "\x7d"]

/-- The function that answers for a group. -/
def handlerFunction : List String :=
  ["",
    "func groupHandler(group routeGroup, cors bool) http.HandlerFunc \x7b",
    "\treturn func(w http.ResponseWriter, r *http.Request) \x7b",
    "\t\tif cors \x7b",
    "\t\t\tsetCORSHeaders(w.Header())",
    "\t\t\tif r.Method == http.MethodOptions \x7b",
    "\t\t\t\tw.WriteHeader(http.StatusOK)",
    "\t\t\t\treturn",
    "\t\t\t\x7d",
    "\t\t\x7d",
    "",
    "\t\tep, ok := group.Methods[r.Method]",
    "\t\tif !ok \x7b",
    "\t\t\tw.WriteHeader(http.StatusMethodNotAllowed)",
    "\t\t\treturn",
    "\t\t\x7d",
    "",
    "\t\tif ep.DelayMs > 0 \x7b",
    "\t\t\ttime.Sleep(time.Duration(ep.DelayMs) * time.Millisecond)",
    "\t\t\x7d",
    "",
    "\t\tfor k, v := range ep.Headers \x7b",
    "\t\t\tw.Header().Set(k, v)",
    "\t\t\x7d",
    "\t\tw.Header().Set(\"Content-Type\", ep.ContentType)",
    "\t\tw.WriteHeader(ep.Status)",
    "\t\tif ep.Body != nil \x7b",
    "\t\t\t_, _ = w.Write(*ep.Body)",
    "\t\t\t_, _ = w.Write([]byte(\"\\n\"))",
    "\t\t\x7d",
    "\t\x7d",
    "\x7d"]

/-- The function that reads the table and listens. -/
def mainFunction : List String :=
  ["",
    "func main() \x7b",
    "\tport := flag.Int(\"port\", defaultPort, \"port to listen on (overrides PORT)\")",
    "\tcorsFlag := flag.String(\"cors\", \"true\", \"send permissive CORS headers and answer OPTIONS preflight\")",
    "\tflag.Parse()",
    "",
    "\texplicitPort := false",
    "\tflag.Visit(func(f *flag.Flag) \x7b",
    "\t\tif f.Name == \"port\" \x7b",
    "\t\t\texplicitPort = true",
    "\t\t\x7d",
    "\t\x7d)",
    "",
    "\tcors, err := strconv.ParseBool(*corsFlag)",
    "\tif err != nil \x7b",
    "\t\tlog.Fatalf(\"invalid --cors value %q\", *corsFlag)",
    "\t\x7d",
    "",
    "\tvar groups []routeGroup",
    "\tif err := json.Unmarshal([]byte(routeTable), &groups); err != nil \x7b",
    "\t\tlog.Fatalf(\"corrupt route table: %v\", err)",
    "\t\x7d",
    "",
    "\thandlers := make(map[string]http.HandlerFunc, len(groups))",
    "\tfor _, g := range groups \x7b",
    "\t\thandlers[g.Path] = groupHandler(g, cors)",
    "\t\x7d",
    "",
    "\taddr := \":\" + strconv.Itoa(resolvePort(*port, explicitPort))",
    "\tlog.Printf(\"%s listening on %s\", projectName, addr)",
    "\tlog.Fatal(http.ListenAndServe(addr, http.HandlerFunc(func(w http.ResponseWriter, r *http.Request) \x7b",
    "\t\thandler, ok := handlers[r.URL.Path]",
    "\t\tif !ok \x7b",
    "\t\t\t// unknown paths are not preflighted, but still carry CORS headers",
    "\t\t\tif cors \x7b",
    "\t\t\t\tsetCORSHeaders(w.Header())",
    "\t\t\t\x7d",
    "\t\t\thttp.NotFound(w, r)",
    "\t\t\treturn",
    "\t\t\x7d",
    "\t\thandler(w, r)",
    "\t\x7d)))",
    "\x7d"]

/-- The declarations behind the table. -/
def sharedLines : List String :=
  endpointType ++ groupType ++ portFunction ++ crossOriginFunction ++ handlerFunction
    ++ mainFunction

/-! ### The whole file -/

namespace MainFile

/-- The heading up to the routes. -/
def headingLines (file : MainFile) : List String :=
  ["// Code generated by mocksmith. DO NOT EDIT.", "//", "// Project: " ++ file.project, "//",
    "// Routes:"]

/-- The constants. -/
def constantLines (file : MainFile) : List String :=
  ["const projectName = " ++ file.project,
    "",
    "const defaultPort = " ++ String.ofList (Number.digits file.port),
    "",
    "const allowedMethods = " ++ file.allowedMethods,
    "",
    "// routeTable is the compiled route table: one entry per path, one endpoint per method.",
    "const routeTable = " ++ file.table]

/-- The lines of the file. -/
def lines (file : MainFile) : List String :=
  file.headingLines ++ file.routes.map RouteLine.text ++ importLines ++ file.constantLines
    ++ sharedLines

/-- The text of the file: its lines, each with its line end. -/
def text (file : MainFile) : String :=
  String.join (file.lines.map (· ++ "\n"))

theorem length_lines (file : MainFile) :
    file.lines.length = file.routes.length + (26 + sharedLines.length) := by
  simp only [lines, headingLines, constantLines, importLines, List.length_append,
    List.length_map, List.length_cons, List.length_nil]
  omega

end MainFile
end MockServer.Program
