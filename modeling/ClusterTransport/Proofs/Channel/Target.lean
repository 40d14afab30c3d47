import ClusterTransport.Channel.Factory
import ClusterTransport.Proofs.Channel.ServerName

/-!
# The server that a channel goes to

A channel is made for an endpoint and goes to what the authority of its URI names.
-/

namespace ClusterTransport

def Uri.authority? (uri : String) : Option (List Char) :=
  (splitScheme uri.toList).map fun r => (Authority.split r.2).1

namespace ChannelFactory

variable {f : ChannelFactory} {e : Endpoint} {c : Channel}

private theorem toList_uri (f : ChannelFactory) (e : Endpoint) :
    (f.uri e).toList =
      (if f.useTls then "https".toList else "http".toList) ++
        ':' :: '/' :: '/' :: e.address.toList := by
  unfold uri
  split <;> simp

private theorem head?_uri (f : ChannelFactory) (e : Endpoint) :
    (f.uri e).toList.head? = some 'h' := by
  rw [toList_uri]
  split <;> rfl

private theorem splitScheme_uri (f : ChannelFactory) (e : Endpoint) :
    ∃ scheme, Uri.splitScheme (f.uri e).toList = some (scheme, e.address.toList) := by
  rw [toList_uri]
  split
  · exact ⟨"https".toList, rfl⟩
  · exact ⟨"http".toList, rfl⟩

private theorem authority?_uri (f : ChannelFactory) (e : Endpoint) :
    Uri.authority? (f.uri e) = some (Authority.split e.address.toList).1 := by
  obtain ⟨scheme, hscheme⟩ := splitScheme_uri f e
  rw [Uri.authority?, hscheme]
  rfl

private theorem isValid_authority_of_isTarget (h : isTarget (f.uri e) = true) :
    Authority.isValid (Authority.split e.address.toList).1 = true := by
  obtain ⟨rest, hrest⟩ := List.head?_eq_some_iff.mp (head?_uri f e)
  have hsocket : "unix:".toList.isPrefixOf (f.uri e).toList = false := by
    rw [hrest]
    rfl
  obtain ⟨scheme, hscheme⟩ := splitScheme_uri f e
  rw [isTarget, hsocket, Bool.false_or, Uri.isValid] at h
  split at h
  next => cases h
  next =>
    split at h
    next hnil => simp [hrest] at hnil
    next hstar => simp [hrest] at hstar
    next hpath => simp [hrest] at hpath
    next =>
      rw [hscheme] at h
      simp only [Bool.and_eq_true] at h
      exact h.1.2

private theorem create_eq_ok_iff :
    f.create e = .ok c ↔ isTarget (f.uri e) = true ∧
      (f.useTls = true → ServerName.isValid e.host = true) ∧
      c = ⟨f.headers, f.maxInboundSize⟩ := by
  unfold create
  split
  next htarget =>
    rw [Bool.not_eq_true'] at htarget
    simp [htarget]
  next htarget =>
    rw [Bool.not_eq_true', Bool.not_eq_false] at htarget
    split
    next hname =>
      rw [Bool.and_eq_true, Bool.not_eq_true'] at hname
      simp [hname]
    next hname =>
      have hcertified : f.useTls = true → ServerName.isValid e.host = true := by
        intro htls
        simpa [htls] using hname
      rw [Except.ok.injEq]
      exact ⟨fun hc => ⟨htarget, hcertified, hc.symm⟩, fun h => h.2.2.symm⟩

/-- A channel goes to the host and the port of its endpoint if and only if the host neither holds a
slash, a question mark, a number sign or an `@`, nor starts with a bracket. A secure channel always
does. -/
theorem create_names_iff (h : f.create e = .ok c) :
    ∃ authority, Uri.authority? (f.uri e) = some authority ∧
      (Authority.Names authority e.toAddress ↔ Authority.IsPlainHost e.host.toList) ∧
      (f.useTls = true → Authority.Names authority e.toAddress) := by
  obtain ⟨htarget, hname, _⟩ := create_eq_ok_iff.mp h
  have hnames := Authority.names_split_render_iff (isValid_authority_of_isTarget htarget)
  refine ⟨_, authority?_uri f e, hnames, fun htls => ?_⟩
  exact hnames.mpr (ServerName.isPlainHost_of_isValid (hname htls))

/-- A secure channel to a numeric address goes there. -/
theorem create_names_iff_ipv6 :
    let f : ChannelFactory := ⟨true, ⟨none, "sdk"⟩, 67108864⟩
    let e : Endpoint := .ofAddress ⟨"2001:db8::1", 2136⟩
    ∃ c authority, f.create e = .ok c ∧
      Uri.authority? "https://[2001:db8::1]:2136" = some authority ∧
      Authority.Names authority ⟨"2001:db8::1", 2136⟩ := by
  intro f e
  have hcreate : f.create e = .ok ⟨f.headers, f.maxInboundSize⟩ :=
    create_eq_ok_iff.mpr ⟨by decide +kernel, fun _ => by decide +kernel, rfl⟩
  have huri : f.uri e = "https://[2001:db8::1]:2136" := by decide +kernel
  obtain ⟨authority, hauthority, _, hnames⟩ := create_names_iff hcreate
  exact ⟨_, authority, hcreate, huri ▸ hauthority, hnames rfl⟩

/-- A host with a user in front is not the one that its channel goes to. -/
theorem create_of_user_in_host :
    ∃ f e c authority, Endpoint.parse "u@h:2135" = .ok e ∧ create f e = .ok c ∧
      Uri.authority? (f.uri e) = some authority ∧ Authority.host authority = "h".toList ∧
      ¬ Authority.Names authority e.toAddress := by
  let f : ChannelFactory := ⟨false, ⟨none, "sdk"⟩, 67108864⟩
  let e : Endpoint := .ofAddress ⟨"u@h", 2135⟩
  have hcreate : f.create e = .ok ⟨f.headers, f.maxInboundSize⟩ :=
    create_eq_ok_iff.mpr ⟨by decide +kernel, nofun, rfl⟩
  have hauthority : Uri.authority? (f.uri e) = some "u@h:2135".toList := by decide +kernel
  have hhost : Authority.host "u@h:2135".toList = "h".toList := by decide +kernel
  refine ⟨f, e, _, _, rfl, hcreate, hauthority, hhost, fun hnames => ?_⟩
  exact absurd (hhost.symm.trans hnames.host) (by decide +kernel)

end ChannelFactory

end ClusterTransport
