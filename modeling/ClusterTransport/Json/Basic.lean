/-!
# JSON values

Values as a reader of configuration sees them: integers and floating-point numbers are apart, and
an object holds each key once, in the order in which the keys first came.
-/

namespace ClusterTransport

inductive Json where
  | null
  | bool (b : Bool)
  | int (n : Int)
  | float (x : Float)
  | string (s : String)
  | array (items : List Json)
  | object (fields : List (String × Json))

namespace Json

instance : Inhabited Json := ⟨null⟩

def lookup (key : String) : List (String × Json) → Option Json
  | [] => none
  | (k, v) :: fields => if k = key then some v else lookup key fields

/-- The list of fields with a key set; a key that is present keeps its place. -/
def insert (key : String) (value : Json) : List (String × Json) → List (String × Json)
  | [] => [(key, value)]
  | (k, v) :: fields => if k = key then (k, value) :: fields else (k, v) :: insert key value fields

def field? (key : String) : Json → Option Json
  | object fields => lookup key fields
  | _ => none

end Json

end ClusterTransport
