import ClusterTransport.ConnectionString
import ClusterTransport.Proofs.Url.Host

/-!
# Connection strings

The server of a connection string is the endpoint that is asked for all others.
-/

namespace ClusterTransport

namespace ConnectionString

open Text Url

theorem unbracket_eq_self {s : List Char} (h : ∀ c ∈ s, c ≠ '[' ∧ c ≠ ']') :
    unbracket s = s := by
  rw [unbracket, dropWhile_eq_self, dropEndWhile_eq_self]
  · exact fun c hc => beq_false_of_ne (h c (List.mem_of_getLast? hc)).2
  · exact fun c hc => beq_false_of_ne (h c (List.mem_of_mem_head? hc)).1

private theorem unbracket_brackets {s : List Char} (h : ∀ c ∈ s, c ≠ '[' ∧ c ≠ ']') :
    unbracket ('[' :: (s ++ [']'])) = s := by
  have hfirst : ∀ c ∈ (s ++ [']']).head?, (c == '[') = false := by
    intro c hc
    rcases List.mem_append.mp (List.mem_of_mem_head? hc) with hmem | hmem
    · exact beq_false_of_ne (h c hmem).1
    · rw [List.mem_singleton.mp hmem]
      rfl
  rw [unbracket, List.dropWhile_cons_of_pos rfl, dropWhile_eq_self hfirst,
    dropEndWhile_append_of_pos (by simp), dropEndWhile_eq_self]
  exact fun c hc => beq_false_of_ne (h c (List.mem_of_getLast? hc)).2

private theorem unbracket_written {host : Host} (h : host.IsSound) :
    unbracket host.written = host.text.toList := by
  cases host with
  | name text => exact unbracket_eq_self fun c hc => (h.mem_name hc).2.2
  | ipv6 pieces =>
    rw [Host.text, String.toList_ofList]
    exact unbracket_brackets fun c hc => Ipv6.ne_bracket_of_mem_write hc

private theorem parse_ok {s : String} {c : Config} (h : parse s = .ok c) :
    ∃ url, Url.parse s = .ok url ∧ ofUrl url = .ok c := by
  unfold parse at h
  split at h
  next url hurl => exact ⟨url, hurl, h⟩
  next => cases h

private theorem security?_cases {scheme : String} {useTls : Bool}
    (h : security? scheme = some useTls) :
    scheme = if useTls then "grpcs" else "grpc" := by
  unfold security? at h
  split at h
  next hscheme =>
    cases h
    exact hscheme
  next =>
    split at h
    next hscheme =>
      cases h
      exact hscheme
    next => cases h

private theorem ofUrl_ok {url : Url} {c : Config} (h : ofUrl url = .ok c) :
    ∃ useTls server, security? url.scheme = some useTls ∧ server? url = some server ∧
      c = { endpoint := server.render, database := database url, useTls } := by
  unfold ofUrl at h
  split at h
  next => cases h
  next => cases h
  next useTls server hscheme hserver =>
    cases h
    exact ⟨useTls, server, hscheme, hserver, rfl⟩

end ConnectionString

namespace Config

open ConnectionString

private theorem ofConnectionString_ok {s : String} {c : Config} (h : ofConnectionString s = .ok c) :
    ∃ url, Url.parse s = .ok url ∧ ofUrl url = .ok c := by
  unfold ofConnectionString at h
  split at h
  next d hparse =>
    cases h
    exact parse_ok hparse
  next => cases h

private theorem bootstrap_of_render {c : Config} {a : Address} (hendpoint : c.endpoint = a.render)
    (h : Address.IsLegible a.host.toList) : c.bootstrap = .ok (Endpoint.ofAddress a) := by
  rw [bootstrap, Endpoint.parse, hendpoint, Address.parse_render h]
  rfl

theorem eq_ok_of_toOption_eq_some {ε α : Type} {x : Except ε α} {a : α}
    (h : x.toOption = some a) : x = .ok a := by
  cases x with
  | error fault => cases h
  | ok b => rw [Option.some.inj h]

/-- The server that a connection string names is the endpoint that is asked for all others: its host
is that of the URL, without brackets and in the shortest form if it is an IPv6 address. -/
theorem bootstrap_of_connectionString {s : String} {c : Config}
    (h : ofConnectionString s = .ok c) :
    ∃ url host r, Url.parse s = .ok url ∧ url.host = some host ∧ c.bootstrap = .ok r ∧
      r.host = host.text ∧
      (∀ pieces, host = .ipv6 pieces → Url.Ipv6.read r.host.toList = some pieces) ∧
      r.port = url.port.getD 2135 ∧ r.address = c.endpoint ∧
      (c.useTls = true ↔ url.scheme = "grpcs") := by
  obtain ⟨url, hurl, hc⟩ := ofConnectionString_ok h
  obtain ⟨useTls, server, hscheme, hserver, rfl⟩ := ofUrl_ok hc
  obtain ⟨host, hhost, rfl⟩ := Option.map_eq_some_iff.mp hserver
  have hsound := Url.isSound_of_parse hurl hhost
  rw [unbracket_written hsound, String.ofList_toList]
  refine ⟨url, host, _, hurl, hhost, bootstrap_of_render rfl hsound.isLegible_text, rfl, ?_, rfl,
    rfl, ?_⟩
  · rintro pieces rfl
    exact (congrArg Url.Ipv6.read String.toList_ofList).trans (Url.Ipv6.read_write hsound)
  · rw [security?_cases hscheme]
    cases useTls <;> simp

theorem bootstrap_of_connectionString_ipv6 :
    ∃ c url host r, ofConnectionString "grpcs://[2001:DB8:0::0:1]:2136/?database=/prod" = .ok c ∧
      c.endpoint = "[2001:db8::1]:2136" ∧ c.useTls = true ∧
      Url.parse "grpcs://[2001:DB8:0::0:1]:2136/?database=/prod" = .ok url ∧
      url.host = some host ∧ c.bootstrap = .ok r ∧ r.host = host.text ∧
      r.port = url.port.getD 2135 ∧ r.address = c.endpoint ∧ url.scheme = "grpcs" := by
  have hread : (ofConnectionString "grpcs://[2001:DB8:0::0:1]:2136/?database=/prod").toOption.map
      (fun c => (c.endpoint, c.useTls)) = some ("[2001:db8::1]:2136", true) := by
    decide +kernel
  simp only [Option.map_eq_some_iff, Prod.mk.injEq] at hread
  obtain ⟨c, hc, hendpoint, htls⟩ := hread
  have hs := eq_ok_of_toOption_eq_some hc
  obtain ⟨url, host, r, hurl, hhost, hr, htext, _, hport, haddress, hscheme⟩ :=
    bootstrap_of_connectionString hs
  exact ⟨c, url, host, r, hs, hendpoint, htls, hurl, hhost, hr, htext, hport, haddress,
    hscheme.mp htls⟩

end Config

end ClusterTransport
