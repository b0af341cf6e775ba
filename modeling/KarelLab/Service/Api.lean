import KarelLab.Document.Playback
import KarelLab.Document.Restrictions
import KarelLab.Json.Reader
import KarelLab.Service.Settings

namespace KarelLab.Service

open Document Document.Checked Playback

inductive Content
  | empty
  | document (j : Json)
  | text (s : String)
  | foreign
  deriving Inhabited

/-- Whether the name of a content type stands for JSON: a subtype of applications that is `json` or
ends with it after a plus sign. What follows a semicolon does not count. -/
def isJsonType (contentType : String) : Bool :=
  let name := Text.trim (String.ofList (contentType.toList.takeWhile (· ≠ ';')))
  match name.toLower.splitOn "/" with
  | ["application", subtype] => subtype = "json" || subtype.endsWith "+json"
  | _ => false

def Content.ofText (contentType : String) (s : String) : Content :=
  if s.isEmpty then .empty else if isJsonType contentType then .text s else .foreign

structure Request where
  method : String
  path : String
  content : Content
  deriving Inhabited

structure Response where
  status : Nat
  body : Json
  deriving Inhabited

namespace Response

def ok (body : Json) : Response := ⟨200, body⟩

def detail (status : Nat) (sentence : String) : Response :=
  ⟨status, .object [("detail", .string sentence)]⟩

end Response

inductive ContentFault
  | notJson (offset : Nat)
  | issues (es : List Issue)
  deriving Repr, Inhabited

def ofStep : Step → Json
  | .key name => .string name
  | .index n => .nat n

def ofIssue (e : Issue) : Json :=
  .object [("type", .string e.kind.name), ("loc", .array (e.path.map ofStep)),
    ("msg", .string e.kind.message)]

def ContentFault.response : ContentFault → Response
  | notJson offset =>
    ⟨422, .object [("detail", .array [.object [("type", .string IssueKind.notJson.name),
      ("loc", .array [.string "body", .nat offset])]])]⟩
  | issues es => ⟨422, .object [("detail", .array (es.map ofIssue))]⟩

def readContent {α : Type} (check : Json → Checked α) (c : Content) : Except ContentFault α :=
  let checked (r : Checked α) := (within (.key "body") r).mapError ContentFault.issues
  match c with
  | .empty => checked (issue .missing)
  | .foreign => checked (issue (.notModel .body ""))
  | .document j => checked (check j)
  | .text s =>
    match Json.parse s with
    | .ok j => checked (check j)
    | .error offset => .error (.notJson offset)

structure ValidateRequest where
  code : String
  restrictions : Program.Restrictions
  deriving Inhabited

structure RunRequest where
  code : String
  world : Option World
  restrictions : Program.Restrictions
  settings : Json
  deriving Inhabited

structure TestRequest where
  code : String
  worlds : List (String × World)
  goals : List (String × Goal)
  restrictions : Program.Restrictions
  settings : Json
  deriving Inhabited

def restrictionsField (fs : List (String × Json)) : Checked Program.Restrictions :=
  (fieldOr fs "allowed_features" none (optional (restrictions .body))).map (·.getD {})

def settingsField (fs : List (String × Json)) : Checked Json :=
  fieldOr fs "settings" .null fun
    | .null => .ok .null
    | .object fs => .ok (.object fs)
    | _ => issue .notDictionary

def validateRequest (j : Json) : Checked ValidateRequest := do
  let fs ← fields .body "ValidateRequest" j
  (both (field fs "code" text) (restrictionsField fs)).map fun (code, r) => ⟨code, r⟩

def runRequest (j : Json) : Checked RunRequest := do
  let fs ← fields .body "RunRequest" j
  (both (field fs "code" text) (both (fieldOr fs "world" none (optional (Document.world .body)))
    (both (restrictionsField fs) (settingsField fs)))).map fun (code, w, r, s) => ⟨code, w, r, s⟩

def testRequest (j : Json) : Checked TestRequest := do
  let fs ← fields .body "TestRunRequest" j
  (both (field fs "code" text) (both (field fs "worlds" (dictionary (Document.world .body)))
    (both (field fs "goals" (dictionary (Document.goal .body)))
      (both (restrictionsField fs) (settingsField fs))))).map
    fun (code, ws, gs, r, s) => ⟨code, ws, gs, r, s⟩

def ofReview (r : Except Program.Rejection Program.Tree) : Json :=
  match r with
  | .ok _ => .object [("valid", .bool true), ("error", .null), ("line", .null), ("rule", .null),
      ("hint", .null)]
  | .error e =>
    let r := e.report
    .object [("valid", .bool false), ("error", .string r.message), ("line", ofLine? r.line),
      ("rule", ofText? r.rule), ("hint", ofText? r.hint)]

def validate (r : ValidateRequest) : Response :=
  .ok (ofReview (Program.review r.restrictions r.code))

def serverError (message : String) : Response :=
  .ok (.object [("status", .string "error"),
    ("errors", .object [("code", .string "SERVER_ERROR"), ("message", .string message)])])

def playerFor (server : Settings) (world : World) (code : String) (r : Program.Restrictions)
    (asked : Json) : Except SettingsFault Player := do
  let s ← server.cap asked
  return Player.start world code r none s.budgets s.isolated 0

def ofFailure (s : State) : Json :=
  match s.error with
  | none => .null
  | some message => .object [("code", ofText? (s.errorCode.map (·.name))),
      ("message", .string message), ("line", ofLine? s.errorLine)]

def run (server : Settings) (r : RunRequest) : Response :=
  match playerFor server (r.world.getD World.default) r.code r.restrictions r.settings with
  | .error f => serverError f.message
  | .ok p =>
    match p.runAlone with
    | .error f => serverError f.message
    | .ok q =>
      .ok (.object [("status", .string q.state.status.name), ("state", ofState q.state),
        ("world", ofWorld q.world), ("frames", ofFrames q), ("errors", ofFailure q.state)])

def withoutGoal (r : TestRequest) : List String :=
  ((r.worlds.map (·.1)).filter fun name => !(r.goals.any (·.1 = name))).mergeSort
    (fun a b => decide (a ≤ b))

def goalOf (goals : List (String × Goal)) (name : String) : Goal :=
  ((goals.find? (·.1 = name)).map (·.2)).getD {}

def runTests (server : Settings) (r : TestRequest) : Except String (List TestResult) := do
  let reports ← r.worlds.mapM fun (name, world) => do
    let p ← (playerFor server world r.code r.restrictions r.settings).mapError (·.message)
    let suite : Lesson.Suite := ⟨[(name, world)], .goal (goalOf r.goals name), []⟩
    (p.runTests (some suite)).mapError (·.message)
  return reports.flatten

def test (server : Settings) (r : TestRequest) : Response :=
  match withoutGoal r with
  | [] =>
    match runTests server r with
    | .error message => serverError message
    | .ok results =>
      .ok (.object [("passed", .bool (results.all (·.passed))),
        ("results", .array (results.map ofTestResult)), ("errors", .null)])
  | missing =>
    .ok (.object [("passed", .bool false), ("results", .array []),
      ("errors", .object [("code", .string "BAD_REQUEST"),
        ("message", .string ("no goal for worlds: " ++ String.intercalate ", " missing))])])

inductive Route
  | validate | run | test | presets
  deriving Repr, DecidableEq, Inhabited

namespace Route

def all : List Route := [validate, run, test, presets]

def path : Route → String
  | validate => "/validate"
  | run => "/run"
  | test => "/test"
  | presets => "/presets"

def method : Route → String
  | presets => "GET"
  | _ => "POST"

/-- The route of a path. A query and slashes at the end do not count. -/
def ofPath? (s : String) : Option Route :=
  let cs := s.toList.takeWhile fun c => c ≠ '?' && c ≠ '#'
  let plain := (cs.reverse.dropWhile (· = '/')).reverse
  all.find? fun r => r.path.toList = plain

end Route

def answerContent {α : Type} (check : Json → Checked α) (answer : α → Response) (c : Content) :
    Response :=
  match readContent check c with
  | .ok a => answer a
  | .error f => f.response

def answer (server : Settings) (r : Request) : Response :=
  match Route.ofPath? r.path with
  | none => .detail 404 "Not Found"
  | some route =>
    if r.method ≠ route.method then .detail 405 "Method Not Allowed"
    else
      match route with
      | .validate => answerContent validateRequest validate r.content
      | .run => answerContent runRequest (run server) r.content
      | .test => answerContent testRequest (test server) r.content
      | .presets => .ok ofPresets

end KarelLab.Service
