import ClusterTransport.Proofs.ConnectionString
import ClusterTransport.Proofs.Url.Form
import ClusterTransport.Proofs.Url.Reading

/-!
# Written connection strings

A connection string that is written for a server and a database stands for them: whatever the
database is called, its form encoding in the query comes through the reading of the URL unharmed.
-/

namespace ClusterTransport

namespace ConnectionString

open Text Url

def scheme (useTls : Bool) : List Char :=
  if useTls then ['g', 'r', 'p', 'c', 's'] else ['g', 'r', 'p', 'c']

private theorem security?_scheme (useTls : Bool) :
    security? (String.ofList (scheme useTls)) = some useTls := by
  cases useTls <;> decide

private theorem parse_of_clean {s : String} {useTls : Bool} {rest : List Char}
    (h : clean s.toList = scheme useTls ++ ':' :: '/' :: '/' :: rest) :
    Url.parse s = readAuthority (String.ofList (scheme useTls)) rest := by
  have hsplit : splitScheme (scheme useTls ++ ':' :: '/' :: '/' :: rest) =
      some (String.ofList (scheme useTls), '/' :: '/' :: rest) := by
    cases useTls <;> rfl
  have hfile : String.ofList (scheme useTls) ≠ "file" := by
    cases useTls <;> decide
  have hweb : String.ofList (scheme useTls) ∉ Web.schemes := by
    cases useTls <;> decide
  rw [Url.parse, h, hsplit]
  simp only [hfile, hweb, if_false]
  rfl

def origin (useTls : Bool) (host : List Char) (port : Option UInt16) : List Char :=
  scheme useTls ++ ':' :: '/' :: '/' :: (host ++ writtenPort port)

theorem gt_of_mem_origin {useTls : Bool} {host : List Char} {port : Option UInt16}
    (hhost : ∀ c ∈ host, isPlainInHost c = true) :
    ∀ c ∈ origin useTls host port, 0x20 < c.toNat := by
  have hscheme : ∀ c ∈ scheme useTls, 0x20 < c.toNat := by
    cases useTls <;> exact List.all_iff_forall_prop.mp (by decide)
  simp only [origin, List.forall_mem_append, List.forall_mem_cons]
  exact ⟨hscheme, by decide, by decide, by decide, fun c hc => isPlainInHost_gt (hhost c hc),
    fun c hc => gt_of_mem_writtenPort hc⟩

/-- The configuration of a server, and of a path and what follows it. -/
theorem ofConnectionString_of_clean {s : String} {useTls : Bool} {host path : List Char}
    {port : Option UInt16} (hne : host ≠ []) (hhost : ∀ c ∈ host, isPlainInHost c = true)
    (h : clean s.toList = origin useTls host port ++ '/' :: path) :
    ∃ url : Url, url.path = readPath (splitQuery ('/' :: path)).1 ∧
      url.query = (splitQuery ('/' :: path)).2.map String.ofList ∧
      Config.ofConnectionString s = .ok {
        endpoint := (⟨String.ofList host, port.getD 2135⟩ : Address).render,
        database := database url, useTls } := by
  refine ⟨⟨String.ofList (scheme useTls), some (.name (String.ofList host)), port, _, _⟩, rfl, rfl,
    ?_⟩
  have hbrackets : unbracket host = host :=
    unbracket_eq_self fun c hc =>
      ⟨(isPlainInHost_ne (hhost c hc)).2.2.2.2.1, (isPlainInHost_ne (hhost c hc)).2.2.2.2.2.1⟩
  have htext : origin useTls host port ++ '/' :: path =
      scheme useTls ++ ':' :: '/' :: '/' :: (host ++ (writtenPort port ++ '/' :: path)) := by
    simp [origin]
  rw [Config.ofConnectionString, ConnectionString.parse, parse_of_clean (h.trans htext),
    readAuthority_append _ port path hne hhost]
  simp only [ofUrl, security?_scheme, server?, Option.map_some, Host.written,
    String.toList_ofList, hbrackets]
  rfl

private theorem database_of_query {url : Url} {text : List Char}
    (h : url.query = some (String.ofList ("database".toList ++ '=' :: text))) (hand : '&' ∉ text) :
    database url = Percent.decodeForm text := by
  have hone : '&' ∉ "database".toList ++ '=' :: text := by
    simp [hand]
  have hcut : cut '=' ("database".toList ++ '=' :: text) = ("database".toList, text) :=
    cut_append (by decide)
  have hkey : Percent.decodeForm "database".toList = "database" := by
    rw [Percent.decodeForm_eq_self (List.all_iff_forall_prop.mp (by decide)), String.ofList_toList]
  have hpairs : Percent.pairs ("database".toList ++ '=' :: text) =
      [("database", Percent.decodeForm text)] := by
    rw [Percent.pairs, splitAll_of_not_mem hone, List.filter_cons_of_pos rfl, List.filter_nil,
      List.map_singleton]
    simp only [hcut, hkey]
  rw [database, h, Option.getD_some, String.toList_ofList, hpairs]
  rfl

theorem database_of_path {url : Url} (h : url.query = none) :
    database url = if url.path = "/" then "" else url.path := by
  rw [database, h]
  rfl

theorem ofConnectionString_of_query {s : String} {useTls : Bool} {host text : List Char}
    {port : Option UInt16} (hne : host ≠ []) (hhost : ∀ c ∈ host, isPlainInHost c = true)
    (htext : ∀ c ∈ text, c ≠ '#' ∧ c ≠ '&')
    (h : clean s.toList =
      origin useTls host port ++ '/' :: '?' :: ("database".toList ++ '=' :: text)) :
    Config.ofConnectionString s = .ok {
      endpoint := (⟨String.ofList host, port.getD 2135⟩ : Address).render,
      database := Percent.decodeForm text, useTls } := by
  have hhash : '#' ∉ "database".toList ++ '=' :: text := by
    intro hmem
    rcases List.mem_append.mp hmem with hkey | hvalue
    · exact absurd hkey (by decide)
    · exact (htext '#' (List.mem_of_ne_of_mem (by decide) hvalue)).1 rfl
  obtain ⟨url, _, hquery, hc⟩ := ofConnectionString_of_clean hne hhost h
  have hslash : ∀ c ∈ ['/'], c ≠ '#' ∧ c ≠ '?' := List.all_iff_forall_prop.mp (by decide)
  rw [← List.singleton_append, splitQuery_append hslash hhash] at hquery
  rw [hc, database_of_query hquery fun hmem => (htext '&' hmem).2 rfl]

end ConnectionString

namespace Config

open ConnectionString Url

private theorem mem_encodeForm {database : String} {c : Char}
    (h : c ∈ Percent.encodeForm database) :
    0x20 < c.toNat ∧ c ≠ '#' ∧ c ≠ '&' := by
  refine Percent.encodeForm_forall (P := fun c => 0x20 < c.toNat ∧ c ≠ '#' ∧ c ≠ '&') (by decide)
    (fun c hlow _ => ⟨by omega, ?_, ?_⟩) database c h
  all_goals
    rintro rfl
    exact absurd hlow (by decide)

private theorem toList_render (useTls : Bool) (server : Address) (database : String)
    (h : ':' ∉ server.host.toList) :
    (render useTls server database).toList =
      origin useTls server.host.toList (some server.port) ++
        '/' :: '?' :: ("database".toList ++ '=' :: Percent.encodeForm database) := by
  rw [render, String.toList_append, String.toList_append, String.toList_append,
    Address.toList_render, if_neg h]
  cases useTls <;> simp [origin, ConnectionString.scheme, writtenPort]

/-- The connection string of a server and a database stands for them, and for the defaults of all
else. -/
theorem ofConnectionString_render (useTls : Bool) (host : String) (port : UInt16)
    (database : String) (hne : host ≠ "")
    (hhost : ∀ c ∈ host.toList, c.isAlphanum = true ∨ c = '-' ∨ c = '.') :
    render useTls ⟨host, port⟩ database =
        (if useTls then "grpcs://" else "grpc://") ++ host ++ ":" ++ toString port.toNat ++
          "/?database=" ++ String.ofList (Percent.encodeForm database) ∧
      ofConnectionString (render useTls ⟨host, port⟩ database) =
        .ok { endpoint := host ++ ":" ++ toString port.toNat, database, useTls } := by
  have hplain : ∀ c ∈ host.toList, isPlainInHost c = true :=
    fun c hc => isPlainInHost_of_isAlphanum (hhost c hc)
  have hcolon : ':' ∉ host.toList := fun hmem => (isPlainInHost_ne (hplain ':' hmem)).1 rfl
  have hserver : (⟨host, port⟩ : Address).render = host ++ ":" ++ toString port.toNat :=
    if_neg hcolon
  refine ⟨?_, ?_⟩
  · rw [render, hserver]
    simp only [String.append_assoc]
  have htext := toList_render useTls ⟨host, port⟩ database hcolon
  have hclean : ∀ c ∈ (render useTls ⟨host, port⟩ database).toList, 0x20 < c.toNat := by
    have hkey : ∀ c ∈ "database".toList, 0x20 < c.toNat :=
      List.all_iff_forall_prop.mp (by decide)
    rw [htext]
    simp only [List.forall_mem_append, List.forall_mem_cons]
    exact ⟨gt_of_mem_origin hplain, by decide, by decide, hkey, by decide,
      fun c hc => (mem_encodeForm hc).1⟩
  rw [ofConnectionString_of_query (by simpa using hne) hplain
    (fun c hc => (mem_encodeForm hc).2) ((clean_eq_self hclean).trans htext),
    Percent.decodeForm_encodeForm, String.ofList_toList, Option.getD_some, hserver]

theorem ofConnectionString_render_reserved :
    render true ⟨"Node-1.db", 0⟩ "/ru &%#\x00ж" =
        "grpcs://Node-1.db:0/?database=%2Fru+%26%25%23%00%D0%B6" ∧
      ofConnectionString "grpcs://Node-1.db:0/?database=%2Fru+%26%25%23%00%D0%B6" =
        .ok { endpoint := "Node-1.db:0", database := "/ru &%#\x00ж", useTls := true } := by
  have htext : render true ⟨"Node-1.db", 0⟩ "/ru &%#\x00ж" =
      "grpcs://Node-1.db:0/?database=%2Fru+%26%25%23%00%D0%B6" := by
    decide +kernel
  have hhost : ∀ c ∈ "Node-1.db".toList, c.isAlphanum = true ∨ c = '-' ∨ c = '.' :=
    List.all_iff_forall_prop.mp (by decide)
  obtain ⟨_, hread⟩ :=
    ofConnectionString_render true "Node-1.db" 0 "/ru &%#\x00ж" (by decide) hhost
  exact ⟨htext, htext ▸ hread⟩

end Config

end ClusterTransport
