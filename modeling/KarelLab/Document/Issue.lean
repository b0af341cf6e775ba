import KarelLab.Json.Basic

/-!
# Issues of a document

What is wrong with a document that should describe something, and where. A check goes on behind an
issue, so that all issues of a document are told at once, in the order of the fields.
-/

namespace KarelLab.Document

inductive Step
  | key (name : String)
  | index (n : Nat)
  deriving Repr, DecidableEq, Inhabited

inductive Medium
  | value | text | body
  deriving Repr, DecidableEq, Inhabited

inductive IssueKind
  | missing
  | notWhole
  | unreadableWhole
  | fractional
  | notFinite
  | tooLarge
  | atLeast (bound : Int)
  | atMost (bound : Int)
  | choice (expected : String)
  | notModel (medium : Medium) (model : String)
  | notList (medium : Medium)
  | notDictionary
  | notText
  | notTruthValue
  | refused (reason : String)
  | notJson
  deriving Repr, DecidableEq, Inhabited

namespace IssueKind

def name : IssueKind → String
  | missing => "missing"
  | notWhole => "int_type"
  | unreadableWhole => "int_parsing"
  | fractional => "int_from_float"
  | notFinite => "finite_number"
  | tooLarge => "int_parsing_size"
  | atLeast _ => "greater_than_equal"
  | atMost _ => "less_than_equal"
  | choice _ => "enum"
  | notModel .body _ => "model_attributes_type"
  | notModel _ _ => "model_type"
  | notList _ => "list_type"
  | notDictionary => "dict_type"
  | notText => "string_type"
  | notTruthValue => "bool_type"
  | refused _ => "value_error"
  | notJson => "json_invalid"

def message : IssueKind → String
  | missing => "Field required"
  | notWhole => "Input should be a valid integer"
  | unreadableWhole => "Input should be a valid integer, unable to parse string as an integer"
  | fractional => "Input should be a valid integer, got a number with a fractional part"
  | notFinite => "Input should be a finite number"
  | tooLarge => "Unable to parse input string as an integer, exceeded maximum size"
  | atLeast n => "Input should be greater than or equal to " ++ toString n
  | atMost n => "Input should be less than or equal to " ++ toString n
  | choice expected => "Input should be " ++ expected
  | notModel .value model => "Input should be a valid dictionary or instance of " ++ model
  | notModel .text _ => "Input should be an object"
  | notModel .body _ => "Input should be a valid dictionary or object to extract fields from"
  | notList .text => "Input should be a valid array"
  | notList _ => "Input should be a valid list"
  | notDictionary => "Input should be a valid dictionary"
  | notText => "Input should be a valid string"
  | notTruthValue => "Input should be a valid boolean"
  | refused reason => "Value error, " ++ reason
  | notJson => "Invalid JSON"

end IssueKind

structure Issue where
  kind : IssueKind
  path : List Step
  deriving Repr, DecidableEq, Inhabited

/-- What a document describes, or all its issues. -/
abbrev Checked (α : Type) := Except (List Issue) α

namespace Checked

variable {α β : Type}

def issue (kind : IssueKind) : Checked α := .error [⟨kind, []⟩]

def within (step : Step) : Checked α → Checked α
  | .ok a => .ok a
  | .error es => .error (es.map fun e => { e with path := step :: e.path })

def both (a : Checked α) (b : Checked β) : Checked (α × β) :=
  match a, b with
  | .ok a, .ok b => .ok (a, b)
  | .error es, .ok _ => .error es
  | .ok _, .error fs => .error fs
  | .error es, .error fs => .error (es ++ fs)

def items (check : Json → Checked α) : Nat → List Json → Checked (List α)
  | _, [] => .ok []
  | n, j :: rest =>
    (both (within (.index n) (check j)) (items check (n + 1) rest)).map fun (a, as) => a :: as

def entries (check : Json → Checked α) : List (String × Json) → Checked (List (String × α))
  | [] => .ok []
  | (k, j) :: rest =>
    (both (within (.key k) (check j)) (entries check rest)).map fun (a, as) => (k, a) :: as

def field (fields : List (String × Json)) (name : String) (check : Json → Checked α) : Checked α :=
  within (.key name) (match Json.lookup name fields with
    | some j => check j
    | none => issue .missing)

def fieldOr (fields : List (String × Json)) (name : String) (default : α)
    (check : Json → Checked α) : Checked α :=
  within (.key name) (match Json.lookup name fields with
    | some j => check j
    | none => .ok default)

def optional (check : Json → Checked α) : Json → Checked (Option α)
  | .null => .ok none
  | j => (check j).map some

def fields (medium : Medium) (model : String) : Json → Checked (List (String × Json))
  | .object fs => .ok fs
  | _ => issue (.notModel medium model)

def list (medium : Medium) (check : Json → Checked α) : Json → Checked (List α)
  | .array js => items check 0 js
  | _ => issue (.notList medium)

def dictionary (check : Json → Checked α) : Json → Checked (List (String × α))
  | .object fs => entries check fs
  | _ => issue .notDictionary

def text : Json → Checked String
  | .string s => .ok s
  | _ => issue .notText

def truthValue : Json → Checked Bool
  | .bool b => .ok b
  | _ => issue .notTruthValue

def choice (ofName? : String → Option α) (expected : String) : Json → Checked α
  | .string s =>
    match ofName? s with
    | some a => .ok a
    | none => issue (.choice expected)
  | _ => issue (.choice expected)

end Checked

end KarelLab.Document
