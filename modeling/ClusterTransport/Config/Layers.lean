import ClusterTransport.Config.Lenient

/-!
# Layered configuration

A configuration from a file and from environment variables. Each setting has a path; what a later
source sets replaces what an earlier one set at the same path, and leaves all else.
-/

namespace ClusterTransport.Config

open Text

inductive PathStep where
  | key (name : String)
  | index (place : Int)
deriving DecidableEq, Repr

structure SettingPath where
  root : String
  steps : List PathStep := []
deriving DecidableEq, Repr

namespace SettingPath

def inName (c : Char) : Bool :=
  c.isAlphanum || c == '_' || c == '-'

def readName (s : List Char) : Option (String × List Char) :=
  if (s.takeWhile inName).isEmpty then none
  else some (String.ofList (s.takeWhile inName), s.dropWhile inName)

/-- An index up to its closing bracket; blanks may stand around it. -/
def readIndex (s : List Char) : Option (Int × List Char) :=
  let isSpace := fun (c : Char) => c == ' ' || c == '\t'
  let inIndex := fun (c : Char) => c.isDigit || c == '-'
  let s := s.dropWhile isSpace
  match (s.dropWhile inIndex).dropWhile isSpace with
  | ']' :: rest =>
    match Numeral.readInt 0x7FFFFFFFFFFFFFFF (s.takeWhile inIndex) with
    | .ok n => some (n, rest)
    | .error _ => none
  | _ => none

def readSteps : Nat → List Char → Option (List PathStep)
  | _, [] => some []
  | 0, _ => none
  | fuel + 1, '.' :: s =>
    match readName s with
    | none => none
    | some (name, rest) => (readSteps fuel rest).map fun steps => .key name :: steps
  | fuel + 1, '[' :: s =>
    match readIndex s with
    | none => none
    | some (place, rest) => (readSteps fuel rest).map fun steps => .index place :: steps
  | _, _ => none

/-- The path that a key spells, or the key as a name of its own if it spells none. -/
def ofKey (key : String) : SettingPath :=
  let path : Option SettingPath := do
    let (root, rest) ← readName key.toList
    let steps ← readSteps rest.length rest
    pure ⟨root, steps⟩
  path.getD ⟨key, []⟩

end SettingPath

def fieldsOf : Json → List (String × Json)
  | .object fields => fields
  | _ => []

def itemsOf : Json → List Json
  | .array items => items
  | _ => []

/-- The items with one more at each missing place, and the place that an index means; negative
indices count from the end. -/
def makeRoom (items : List Json) (place : Int) : List Json × Nat :=
  if 0 ≤ place then
    (items ++ List.replicate (place.toNat + 1 - items.length) .null, place.toNat)
  else
    let back := place.natAbs
    if back ≤ items.length then (items, items.length - back)
    else (List.replicate (back - items.length) .null ++ items, 0)

/-- Changes the value at a path; values on the way that are of the wrong kind give way. -/
def update (f : Json → Json) : List PathStep → Json → Json
  | [], v => f v
  | .key name :: steps, v =>
    let fields := fieldsOf v
    .object (Json.insert name (update f steps ((Json.lookup name fields).getD .null)) fields)
  | .index place :: steps, v =>
    let (items, i) := makeRoom (itemsOf v) place
    .array (items.set i (update f steps (items.getD i .null)))

mutual

/-- Lays a value over another: an object field by field, all else as a whole. -/
def overlay : Json → Json → Json
  | .object fields, below => .object (overlayFields fields (fieldsOf below))
  | v, _ => v

def overlayFields : List (String × Json) → List (String × Json) → List (String × Json)
  | [], below => below
  | (k, v) :: fields, below =>
    overlayFields fields (Json.insert k (overlay v ((Json.lookup k below).getD .null)) below)

end

def setAt (key : String) (value root : Json) : Json :=
  let path := SettingPath.ofKey key
  update (overlay value) (.key path.root :: path.steps) root

/-- Lays the fields of a file over what was set before; their keys spell paths. -/
def layFile (fields : List (String × Json)) (root : Json) : Json :=
  fields.foldl (fun r field => setAt field.1 field.2 r) root

/-- Replaces each pair of underscores by a dot. -/
def dotted : List Char → List Char
  | '_' :: '_' :: s => '.' :: dotted s
  | c :: s => c :: dotted s
  | [] => []

def variableKey (name : String) : Option String :=
  match name.toList.map Char.toLower with
  | 'y' :: 'd' :: 'b' :: '_' :: key => some (String.ofList (dotted key))
  | _ => none

/-- The value of an environment variable: a truth value, an integer or a number if it spells one,
and else a text. -/
def variableValue (text : String) : Json :=
  if lower text = "true" then .bool true
  else if lower text = "false" then .bool false
  else
    match Numeral.readInt 0x7FFFFFFFFFFFFFFF text.toList with
    | .ok n => .int n
    | .error _ =>
      match Decimal.read? text.toList with
      | some x => .float x
      | none => .string text

def layEnvironment (environment : List (String × String)) (root : Json) : Json :=
  environment.foldl
    (fun r v =>
      match variableKey v.1 with
      | some key => setAt key (variableValue v.2) r
      | none => r)
    root

def ofLayers (file : Option (List (String × Json))) (environment : List (String × String)) :
    Option Config :=
  let below := layFile (file.getD []) (.object [])
  ofJson lenient (layEnvironment environment below)

end ClusterTransport.Config
