import ClusterTransport.Config.Layers
import ClusterTransport.Json.Reader
import ClusterTransport.Toml.Document

/-!
# Configuration files

The fields of a configuration file by its format, and a configuration from a file and environment
variables.
-/

namespace ClusterTransport.Config

inductive FileFormat where
  | toml
  | json
deriving DecidableEq, Repr

def FileFormat.ofExtension? (s : String) : Option FileFormat :=
  if s = "toml" then some .toml else if s = "json" then some .json else none

def dropByteOrderMark (text : String) : String :=
  match text.toList with
  | '\uFEFF' :: rest => String.ofList rest
  | _ => text

/-- The fields of the outermost table of a file. -/
def FileFormat.read? (format : FileFormat) (text : String) : Option (List (String × Json)) :=
  match format with
  | .toml => Toml.parse? (dropByteOrderMark text)
  | .json =>
    match Json.parse? (dropByteOrderMark text) with
    | some (.object fields) => some fields
    | _ => none

structure FileText where
  extension : String
  text : String

/-- Loads a configuration: that of the file, if there is one, and over it that of the environment
variables. -/
def load (file : Option FileText) (environment : List (String × String)) : Option Config :=
  match file with
  | none => ofLayers none environment
  | some f => do
    let format ← FileFormat.ofExtension? f.extension
    let fields ← format.read? f.text
    ofLayers (some fields) environment

end ClusterTransport.Config
