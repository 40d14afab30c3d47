import ClusterTransport.Toml.Scalar

/-!
# TOML documents

Tables by their headers, dotted keys, arrays and inline tables. A key is set once, a table is
opened by one header, and what was written inline stays as it is.
-/

namespace ClusterTransport.Toml

/-- How a table came to be. -/
inductive Origin where
  /-- On the way to a table that has a header. -/
  | implied
  | header
  /-- On the way to a key. -/
  | dotted
deriving DecidableEq, Repr

inductive Node where
  | leaf (value : Json)
  | table (origin : Origin) (fields : List (String × Node))
  /-- An array of tables, the last one first. -/
  | tables (items : List (List (String × Node)))

abbrev Fields := List (String × Node)

mutual

def Node.toJson : Node → Json
  | .leaf v => v
  | .table _ fields => .object (fieldsJson fields)
  | .tables items => .array (itemsJson items).reverse

def fieldsJson : List (String × Node) → List (String × Json)
  | [] => []
  | (k, n) :: fields => (k, n.toJson) :: fieldsJson fields

def itemsJson : List (List (String × Node)) → List Json
  | [] => []
  | fields :: items => .object (fieldsJson fields) :: itemsJson items

end

def Fields.find? (key : String) : Fields → Option Node
  | [] => none
  | (k, n) :: fields => if k = key then some n else find? key fields

def Fields.set (key : String) (node : Node) : Fields → Fields
  | [] => [(key, node)]
  | (k, n) :: fields => if k = key then (k, node) :: fields else (k, n) :: set key node fields

/-- Changes the table that a header's path leads to; tables on the way are created. -/
def descend (f : Fields → Option Fields) : List String → Fields → Option Fields
  | [], fields => f fields
  | key :: path, fields =>
    match Fields.find? key fields with
    | none => (descend f path []).map fun inner => Fields.set key (.table .implied inner) fields
    | some (.table origin inner) =>
      (descend f path inner).map fun inner => Fields.set key (.table origin inner) fields
    | some (.tables (last :: items)) =>
      (descend f path last).map fun last => Fields.set key (.tables (last :: items)) fields
    | some _ => none

def openTable (key : String) (fields : Fields) : Option Fields :=
  match Fields.find? key fields with
  | none => some (Fields.set key (.table .header []) fields)
  | some (.table .implied inner) => some (Fields.set key (.table .header inner) fields)
  | some _ => none

def openItem (key : String) (fields : Fields) : Option Fields :=
  match Fields.find? key fields with
  | none => some (Fields.set key (.tables [[]]) fields)
  | some (.tables items) => some (Fields.set key (.tables ([] :: items)) fields)
  | some _ => none

/-- Sets a key that has no value yet. -/
def setKey (key : String) (value : Json) (fields : Fields) : Option Fields :=
  match Fields.find? key fields with
  | none => some (Fields.set key (.leaf value) fields)
  | some _ => none

/-- Sets a dotted key: `path` leads to the table, which no header may have opened. A table on the
way counts from then on as one of dotted keys. -/
def setDotted (key : String) (value : Json) : List String → Fields → Option Fields
  | [], fields => setKey key value fields
  | step :: path, fields =>
    match Fields.find? step fields with
    | none =>
      (setDotted key value path []).map fun inner => Fields.set step (.table .dotted inner) fields
    | some (.table .dotted inner) =>
      (setDotted key value path inner).map fun inner =>
        Fields.set step (.table .dotted inner) fields
    | some (.table .implied inner) =>
      (setDotted key value path inner).map fun inner =>
        Fields.set step (.table .dotted inner) fields
    | some (.tables (last :: items)) =>
      if path.isEmpty then none
      else
        (setDotted key value path last).map fun last =>
          Fields.set step (.tables (last :: items)) fields
    | some _ => none

/-- A path of at least one key, as the keys before the last and the last. -/
structure KeyPath where
  parents : List String
  last : String

def KeyPath.keys (p : KeyPath) : List String :=
  p.parents ++ [p.last]

/-- How deep arrays and inline tables may lie in each other, and the most keys of a path. -/
def maxDepth : Nat := 80

def inBareKey (c : Char) : Bool :=
  c.isAlphanum || c == '_' || c == '-'

def dropBlanks (s : List Char) : List Char :=
  s.dropWhile fun c => c == ' ' || c == '\t'

def readSimpleKey (s : List Char) : Option (String × List Char) :=
  match s with
  | '"' :: rest => readBasic (rest.length + 1) [] rest
  | '\'' :: rest => readLiteral [] rest
  | _ =>
    if (s.takeWhile inBareKey).isEmpty then none
    else some (String.ofList (s.takeWhile inBareKey), s.dropWhile inBareKey)

/-- Keys joined by dots, with blanks around them. -/
def readKey : Nat → List Char → Option (KeyPath × List Char)
  | 0, _ => none
  | fuel + 1, s =>
    match readSimpleKey (dropBlanks s) with
    | none => none
    | some (key, rest) =>
      match dropBlanks rest with
      | '.' :: rest =>
        (readKey fuel rest).map fun r => (⟨key :: r.1.parents, r.1.last⟩, r.2)
      | rest => some (⟨[], key⟩, rest)

def readPath (s : List Char) : Option (KeyPath × List Char) :=
  (readKey (s.length + 1) s).filter fun r => decide (r.1.parents.length < maxDepth)

def dropComment (s : List Char) : List Char :=
  match s with
  | '#' :: rest => rest.dropWhile isVisible
  | _ => s

/-- Drops blanks and a comment up to the next line, which must follow. -/
def dropLine (s : List Char) : Option (List Char) :=
  match dropComment (dropBlanks s) with
  | [] => some []
  | rest => dropLineEnd rest

def dropLines : Nat → List Char → List Char
  | 0, s => s
  | fuel + 1, s =>
    let rest := dropComment (dropBlanks s)
    match dropLineEnd rest with
    | some rest => dropLines fuel rest
    | none => rest

mutual

/-- A value of any kind; `depth` tells how deep arrays and inline tables may still lie in it. -/
def readValue : Nat → Nat → List Char → Option (Json × List Char)
  | 0, _, _ => none
  | fuel + 1, depth, s =>
    match s with
    | '[' :: rest => if depth = 0 then none else readItems fuel (depth - 1) [] rest
    | '\x7b' :: rest => if depth = 0 then none else readPairs fuel (depth - 1) [] rest
    | '"' :: _ => (readString s).map fun r => (.string r.1, r.2)
    | '\'' :: _ => (readString s).map fun r => (.string r.1, r.2)
    | _ => (readPlain (splitPlain s).1).map fun v => (v, (splitPlain s).2)

/-- The rest of an array after its opening bracket or a comma. -/
def readItems : Nat → Nat → List Json → List Char → Option (Json × List Char)
  | 0, _, _, _ => none
  | fuel + 1, depth, done, s =>
    match dropLines s.length s with
    | ']' :: rest => some (.array done.reverse, rest)
    | s =>
      match readValue fuel depth s with
      | none => none
      | some (v, rest) =>
        match dropLines rest.length rest with
        | ',' :: rest => readItems fuel depth (v :: done) rest
        | ']' :: rest => some (.array (v :: done).reverse, rest)
        | _ => none

/-- The rest of an inline table after its opening brace or a comma. -/
def readPairs : Nat → Nat → Fields → List Char → Option (Json × List Char)
  | 0, _, _, _ => none
  | fuel + 1, depth, fields, s =>
    match dropLines s.length s with
    | '\x7d' :: rest => some (.object (fieldsJson fields), rest)
    | s =>
      match readPath s with
      | some (path, '=' :: rest) =>
        match readValue fuel depth (dropBlanks rest) with
        | none => none
        | some (v, rest) =>
          match setDotted path.last v path.parents fields with
          | none => none
          | some fields =>
            match dropLines rest.length rest with
            | ',' :: rest => readPairs fuel depth fields rest
            | '\x7d' :: rest => some (.object (fieldsJson fields), rest)
            | _ => none
      | _ => none

end

/-- What was read of a document: all tables, and the path of the one that is open. -/
structure Progress where
  root : Fields := []
  current : List String := []

def Progress.readHeader (p : Progress) (s : List Char) : Option (Progress × List Char) :=
  match s with
  | '[' :: rest =>
    match readPath rest with
    | some (path, ']' :: ']' :: rest) =>
      (descend (openItem path.last) path.parents p.root).map fun root => (⟨root, path.keys⟩, rest)
    | _ => none
  | _ =>
    match readPath s with
    | some (path, ']' :: rest) =>
      (descend (openTable path.last) path.parents p.root).map fun root => (⟨root, path.keys⟩, rest)
    | _ => none

def Progress.readSetting (p : Progress) (s : List Char) : Option (Progress × List Char) :=
  match readPath s with
  | some (path, '=' :: rest) =>
    match readValue (rest.length + 1) maxDepth (dropBlanks rest) with
    | none => none
    | some (v, rest) =>
      (descend (setDotted path.last v path.parents) p.current p.root).map fun root =>
        ({ p with root }, rest)
  | _ => none

def Progress.readLines : Nat → Progress → List Char → Option Progress
  | 0, _, _ => none
  | fuel + 1, p, s =>
    match dropLines s.length s with
    | [] => some p
    | c :: s =>
      let line := if c = '[' then p.readHeader s else p.readSetting (c :: s)
      match line with
      | none => none
      | some (p, rest) => (dropLine rest).bind (readLines fuel p)

def parse? (s : String) : Option (List (String × Json)) :=
  let text :=
    match s.toList with
    | '\uFEFF' :: rest => rest
    | text => text
  (Progress.readLines (text.length + 1) {} text).map fun p => fieldsJson p.root

end ClusterTransport.Toml
