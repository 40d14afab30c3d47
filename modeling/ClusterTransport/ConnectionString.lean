import ClusterTransport.Config.Basic
import ClusterTransport.Url.Web

/-!
# Connection strings

A server, a database and the choice of secure connections in one URL, such as
`grpcs://db.internal:2136/?database=/prod`.
-/

namespace ClusterTransport.ConnectionString

/-- Whether a scheme asks for secure connections, if it is one of a connection string. -/
def security? (scheme : String) : Option Bool :=
  if scheme = "grpc" then some false else if scheme = "grpcs" then some true else none

/-- The database that a URL names: that of its query, or else its path. -/
def database (url : Url) : String :=
  match (Url.Percent.pairs (url.query.getD "").toList).lookup "database" with
  | some name => name
  | none => if url.path = "/" then "" else url.path

def unbracket (host : List Char) : List Char :=
  Text.dropEndWhile (· == ']') (host.dropWhile (· == '['))

def server? (url : Url) : Option Address :=
  url.host.map fun host =>
    ⟨String.ofList (unbracket host.written), url.port.getD Address.defaultPort⟩

def ofUrl (url : Url) : Except ConfigurationFault Config :=
  match security? url.scheme, server? url with
  | none, _ => .error (.unsupportedScheme url.scheme)
  | some _, none => .error .missingHost
  | some useTls, some server =>
    .ok { endpoint := server.render, database := database url, useTls }

def parse (s : String) : Except ConfigurationFault Config :=
  match Url.parse s with
  | .ok url => ofUrl url
  | .error fault => .error (.url fault)

def render (useTls : Bool) (server : Address) (database : String) : String :=
  (if useTls then "grpcs://" else "grpc://") ++ server.render ++ "/?database=" ++
    String.ofList (Url.Percent.encodeForm database)

end ClusterTransport.ConnectionString

namespace ClusterTransport.Config

def ofConnectionString (s : String) : Except Error Config :=
  match ConnectionString.parse s with
  | .ok c => .ok c
  | .error fault => .error (.configuration fault)

end ClusterTransport.Config
