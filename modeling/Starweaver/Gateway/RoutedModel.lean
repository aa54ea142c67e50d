import Starweaver.Gateway.ProviderAdapter

namespace Starweaver.Gateway

open Library Library.UrlPath

section Urls

variable {Url : Type}

def UrlLibrary.SameOrigin (urls : UrlLibrary Url) (url base : Url) : Prop :=
  urls.scheme url = urls.scheme base ∧ urls.hostStr url = urls.hostStr base ∧ urls.port url = urls.port base

/-- What the URL library documents: URLs compare like their texts, the path of a parsed URL has no dot segments,
a path is set as it is written, and a relative path is resolved as in RFC 3986. -/
structure UrlLibrary.Documented (urls : UrlLibrary Url) : Prop where
  toString_injective : Function.Injective urls.toString
  parse_noDots : ∀ {text base}, urls.parse text = .ok base → urls.cannotBeABase base = false →
    NoDots (urls.path base).toList
  setPath_path : ∀ {text base}, urls.parse text = .ok base → urls.cannotBeABase base = false →
    urls.path (urls.setPath base (urls.path base ++ "/")) = urls.path base ++ "/"
  setPath_base : ∀ {text base}, urls.parse text = .ok base →
    urls.cannotBeABase (urls.setPath base (urls.path base ++ "/")) = urls.cannotBeABase base
  setPath_origin : ∀ url path, urls.SameOrigin (urls.setPath url path) url
  join_iff : ∀ {base reference}, RelativePath reference.toList →
    ((∃ url, urls.join base reference = .ok url) ↔ urls.cannotBeABase base = false)
  join_path : ∀ {base url reference}, RelativePath reference.toList → urls.join base reference = .ok url →
    (urls.path url).toList = resolve (urls.path base).toList reference.toList
  join_origin : ∀ {base url reference}, RelativePath reference.toList → urls.join base reference = .ok url →
    urls.SameOrigin url base

variable {urls : UrlLibrary Url} {text : String} {base url : Url} {protocolFamily : ProtocolFamily}
  {upstreamModelId : String}

theorem providerBaseDir_origin (hdoc : urls.Documented) (base : Url) : urls.SameOrigin (providerBaseDir urls base) base := by
  unfold providerBaseDir
  split
  · exact ⟨rfl, rfl, rfl⟩
  · exact hdoc.setPath_origin base _

theorem providerBaseDir_base (hdoc : urls.Documented) (hparse : urls.parse text = .ok base) :
    urls.cannotBeABase (providerBaseDir urls base) = urls.cannotBeABase base := by
  unfold providerBaseDir
  split
  · rfl
  · exact hdoc.setPath_base hparse

/-- The directory of an endpoint: its path with one slash at the end, without dot segments. -/
theorem providerBaseDir_path (hdoc : urls.Documented) (hparse : urls.parse text = .ok base)
    (hbase : urls.cannotBeABase base = false) :
    ∃ dir, NoDots dir ∧ (urls.path (providerBaseDir urls base)).toList = dir ++ ['/'] ∧
      (urls.path base).toList <+: dir ++ ['/'] := by
  have hdots := hdoc.parse_noDots hparse hbase
  unfold providerBaseDir
  split
  · rename_i hslash
    obtain ⟨dir, hdir⟩ := List.getLast?_eq_some_iff.mp hslash
    refine ⟨dir, ?_, hdir, by rw [hdir]⟩
    intro segment hsegment
    rw [hdir] at hdots
    apply hdots
    rw [List.splitOn_append_cons_self]
    exact List.mem_append_left _ hsegment
  · rw [hdoc.setPath_path hparse hbase, String.toList_append]
    exact ⟨(urls.path base).toList, hdots, rfl, List.prefix_append _ _⟩

theorem providerRequestUrl_ok (hparse : urls.parse text = .ok base) :
    providerRequestUrl urls text protocolFamily upstreamModelId = .ok url ↔
      urls.join (providerBaseDir urls base) (providerRequestPath protocolFamily upstreamModelId) = .ok url := by
  unfold providerRequestUrl
  rw [hparse]
  cases hjoin : urls.join (providerBaseDir urls base) (providerRequestPath protocolFamily upstreamModelId) with
  | error error => simp [hjoin, Except.mapError, bind, Except.bind]
  | ok joined => simp [hjoin, Except.mapError, bind, Except.bind]

/-- The URL of a request lies below the directory of its endpoint. -/
theorem providerRequestUrl_path (hdoc : urls.Documented) (hparse : urls.parse text = .ok base)
    (h : providerRequestUrl urls text protocolFamily upstreamModelId = .ok url) :
    (urls.path base).toList <+: (urls.path (providerBaseDir urls base)).toList ∧
      (urls.path url).toList = (urls.path (providerBaseDir urls base)).toList ++
        (providerRequestPath protocolFamily upstreamModelId).toList := by
  have hrelative := providerRequestPath_relative protocolFamily upstreamModelId
  have hjoin := (providerRequestUrl_ok hparse).mp h
  have hbase : urls.cannotBeABase base = false := by
    rw [← providerBaseDir_base hdoc hparse]
    exact (hdoc.join_iff hrelative).mp ⟨url, hjoin⟩
  obtain ⟨dir, hdots, hdir, hbegins⟩ := providerBaseDir_path hdoc hparse hbase
  refine ⟨hdir ▸ hbegins, ?_⟩
  rw [hdoc.join_path hrelative hjoin, hdir, resolve_directory hdots hrelative.2.2.2.2, List.append_assoc]
  rfl

theorem providerRequestUrl_origin (hdoc : urls.Documented) (hparse : urls.parse text = .ok base)
    (h : providerRequestUrl urls text protocolFamily upstreamModelId = .ok url) : urls.SameOrigin url base := by
  have hjoin := (providerRequestUrl_ok hparse).mp h
  have hurl := hdoc.join_origin (providerRequestPath_relative protocolFamily upstreamModelId) hjoin
  have hdir := providerBaseDir_origin hdoc base
  exact ⟨hurl.1.trans hdir.1, hurl.2.1.trans hdir.2.1, hurl.2.2.trans hdir.2.2⟩

theorem providerRequestUrl_gemini_ne (hdoc : urls.Documented) (hparse : urls.parse text = .ok base)
    {model model' : String} {url' : Url} (hmodels : model ≠ model')
    (h : providerRequestUrl urls text .geminiGenerateContent model = .ok url)
    (h' : providerRequestUrl urls text .geminiGenerateContent model' = .ok url') : url ≠ url' := by
  rintro rfl
  have hpath := (providerRequestUrl_path hdoc hparse h).2
  have hpath' := (providerRequestUrl_path hdoc hparse h').2
  have hsame := String.toList_injective (List.append_cancel_left (hpath.symm.trans hpath'))
  simp only [providerRequestPath] at hsame
  exact hmodels (percentEncodePathSegment_injective (by simpa using hsame))

end Urls

section Requests

variable {Url : Type} {urls : UrlLibrary Url} {target : ProviderAdapterTarget} {base : Url}
  {fields : List (String × Json)} {request : ProviderAdapterRequest}

theorem buildProviderAdapterRequest_ok {body : Json} (h : buildProviderAdapterRequest urls target body = .ok request) :
    ∃ url, providerRequestUrl urls target.providerEndpoint.upstreamBaseUrl target.protocolFamily
        target.upstreamModelId = .ok url ∧ request.url = urls.toString url ∧
      request.body = rewriteProviderModel body target.protocolFamily target.upstreamModelId := by
  unfold buildProviderAdapterRequest at h
  cases hurl : providerRequestUrl urls target.providerEndpoint.upstreamBaseUrl target.protocolFamily
      target.upstreamModelId with
  | error error =>
    rw [hurl] at h
    cases h
  | ok url =>
    rw [hurl] at h
    cases h
    exact ⟨url, rfl, rfl, rfl⟩

/-- The request leaves the other fields of the body and the place of the endpoint as they are. -/
def KeepsEndpoint (urls : UrlLibrary Url) (base : Url) (fields : List (String × Json))
    (request : ProviderAdapterRequest) : Prop :=
  (∀ key, key ≠ "model" → request.body.get key = (Json.object fields).get key) ∧
    ∃ url, request.url = urls.toString url ∧ urls.SameOrigin url base ∧
      (urls.path base).toList <+: (urls.path url).toList

theorem buildProviderAdapterRequest_keeps (hdoc : urls.Documented)
    (hparse : urls.parse target.providerEndpoint.upstreamBaseUrl = .ok base) {model : String}
    (h : buildProviderAdapterRequest urls { target with upstreamModelId := model } (.object fields) = .ok request) :
    KeepsEndpoint urls base fields request := by
  obtain ⟨url, hurl, htext, hbody⟩ := buildProviderAdapterRequest_ok h
  refine ⟨fun key hkey => ?_, url, htext, providerRequestUrl_origin hdoc hparse hurl, ?_⟩
  · rw [hbody]
    exact rewriteProviderModel_other hkey
  · obtain ⟨hbegins, hpath⟩ := providerRequestUrl_path hdoc hparse hurl
    rw [hpath]
    exact hbegins.trans (List.prefix_append _ _)

theorem buildProviderAdapterRequest_isOk (hdoc : urls.Documented)
    (hparse : urls.parse target.providerEndpoint.upstreamBaseUrl = .ok base) (model : String) (body : Json) :
    (∃ request, buildProviderAdapterRequest urls { target with upstreamModelId := model } body = .ok request) ↔
      urls.cannotBeABase base = false := by
  rw [← providerBaseDir_base hdoc hparse,
    ← hdoc.join_iff (providerRequestPath_relative target.protocolFamily model)]
  constructor
  · rintro ⟨request, h⟩
    obtain ⟨url, hurl, -⟩ := buildProviderAdapterRequest_ok h
    exact ⟨url, (providerRequestUrl_ok hparse).mp hurl⟩
  · rintro ⟨url, hjoin⟩
    unfold buildProviderAdapterRequest
    rw [(providerRequestUrl_ok hparse).mpr hjoin]
    exact ⟨_, rfl⟩

/-- For every model the one request, when neither the path nor the body is given the model. -/
theorem buildProviderAdapterRequest_bedrock {model model' : String} {first second : ProviderAdapterRequest} {body : Json}
    (hfamily : target.protocolFamily = .bedrockConverse)
    (hfirst : buildProviderAdapterRequest urls { target with upstreamModelId := model } body = .ok first)
    (hsecond : buildProviderAdapterRequest urls { target with upstreamModelId := model' } body = .ok second) :
    first.url = second.url ∧ first.body = second.body := by
  obtain ⟨url, hurl, htext, hbody⟩ := buildProviderAdapterRequest_ok hfirst
  obtain ⟨url', hurl', htext', hbody'⟩ := buildProviderAdapterRequest_ok hsecond
  dsimp only at hurl hurl' hbody hbody'
  rw [hfamily] at hurl hurl' hbody hbody'
  obtain rfl : url = url' := Except.ok.inj (hurl.symm.trans hurl')
  exact ⟨htext.trans htext'.symm, hbody.trans hbody'.symm⟩

theorem routedModel_sent_iff (hdoc : urls.Documented)
    (hparse : urls.parse target.providerEndpoint.upstreamBaseUrl = .ok base) (fields : List (String × Json)) :
    (∀ model, (∃ request, buildProviderAdapterRequest urls { target with upstreamModelId := model } (.object fields) =
      .ok request) ↔ urls.cannotBeABase base = false) ∧
    ∀ model model' first second, model ≠ model' →
      buildProviderAdapterRequest urls { target with upstreamModelId := model } (.object fields) = .ok first →
      buildProviderAdapterRequest urls { target with upstreamModelId := model' } (.object fields) = .ok second →
      (((first.url ≠ second.url ∨ first.body ≠ second.body) ∧
        KeepsEndpoint urls base fields first ∧ KeepsEndpoint urls base fields second) ↔
          target.protocolFamily ≠ .bedrockConverse) := by
  refine ⟨fun model => buildProviderAdapterRequest_isOk hdoc hparse model _, ?_⟩
  intro model model' first second hmodels hfirst hsecond
  constructor
  · rintro ⟨hdiffer, -⟩ hfamily
    obtain ⟨hurl, hbody⟩ := buildProviderAdapterRequest_bedrock hfamily hfirst hsecond
    rcases hdiffer with hne | hne
    · exact hne hurl
    · exact hne hbody
  · intro hfamily
    refine ⟨?_, buildProviderAdapterRequest_keeps hdoc hparse hfirst,
      buildProviderAdapterRequest_keeps hdoc hparse hsecond⟩
    obtain ⟨url, hurl, htext, hbody⟩ := buildProviderAdapterRequest_ok hfirst
    obtain ⟨url', hurl', htext', hbody'⟩ := buildProviderAdapterRequest_ok hsecond
    by_cases hgemini : target.protocolFamily = .geminiGenerateContent
    · left
      dsimp only at hurl hurl'
      rw [hgemini] at hurl hurl'
      rw [htext, htext']
      exact fun heq => providerRequestUrl_gemini_ne hdoc hparse hmodels hurl hurl' (hdoc.toString_injective heq)
    · right
      rw [hbody, hbody']
      exact rewriteProviderModel_ne hgemini hfamily hmodels

end Requests

section HttpsUrls

/-- A URL of a host without a port, the path without its first slash. -/
structure HttpsUrl where
  host : List Char
  rest : List Char
  noSlash : '/' ∉ host

def HttpsUrl.path (url : HttpsUrl) : List Char := '/' :: url.rest

def httpsScheme : List Char := ['h', 't', 't', 'p', 's', ':', '/', '/']

def HttpsUrl.parseChars (text : List Char) : Except String HttpsUrl :=
  let authority := text.drop httpsScheme.length
  let host := authority.takeWhile (· != '/')
  let rest := (authority.drop host.length).drop 1
  if hslash : '/' ∈ host then .error "invalid international domain name"
  else if httpsScheme <+: text ∧ host ≠ [] ∧ ':' ∉ host ∧ (host ++ rest).all isPathChar = true ∧
      NoDots ('/' :: rest) then .ok ⟨host, rest, hslash⟩
  else .error "invalid international domain name"

def httpsUrls : UrlLibrary HttpsUrl where
  parse text := HttpsUrl.parseChars text.toList
  path url := String.ofList url.path
  setPath url path := { url with rest := path.toList.tail }
  join url reference := .ok { url with rest := (resolve url.path reference.toList).tail }
  scheme _ := "https"
  hostStr url := some (String.ofList url.host)
  port _ := none
  cannotBeABase _ := false
  toString url := String.ofList (httpsScheme ++ url.host ++ url.path)

theorem HttpsUrl.parse_noDots {text : List Char} {url : HttpsUrl} (h : HttpsUrl.parseChars text = .ok url) :
    NoDots url.path := by
  unfold HttpsUrl.parseChars at h
  dsimp only at h
  split at h
  · cases h
  · split at h
    · rename_i hvalid
      cases h
      exact hvalid.2.2.2.2
    · cases h

theorem takeWhile_host {host : List Char} (h : '/' ∉ host) (rest : List Char) :
    (host ++ '/' :: rest).takeWhile (· != '/') = host := by
  have hkept : ∀ c ∈ host, (c != '/') = true := fun c hc => bne_iff_ne.mpr (ne_of_mem_of_not_mem hc h)
  rw [List.takeWhile_append_of_pos hkept]
  simp

theorem httpsUrls_documented : httpsUrls.Documented where
  toString_injective := by
    rintro ⟨host, rest, hslash⟩ ⟨host', rest', hslash'⟩ heq
    have hchars := String.ofList_injective heq
    rw [List.append_assoc, List.append_assoc] at hchars
    have hparts : host ++ '/' :: rest = host' ++ '/' :: rest' := List.append_cancel_left hchars
    have hhost : host = host' := by
      rw [← takeWhile_host hslash rest, hparts, takeWhile_host hslash']
    subst hhost
    cases List.append_cancel_left hparts
    rfl
  parse_noDots {text base} h _ := by
    show NoDots (String.ofList base.path).toList
    rw [String.toList_ofList]
    exact HttpsUrl.parse_noDots h
  setPath_path {text base} _ _ := by
    show String.ofList ('/' :: (String.ofList base.path ++ "/").toList.tail) = String.ofList base.path ++ "/"
    apply String.toList_injective
    rw [String.toList_ofList, String.toList_append, String.toList_ofList]
    rfl
  setPath_base _ := rfl
  setPath_origin _ _ := ⟨rfl, rfl, rfl⟩
  join_iff _ := ⟨fun _ => rfl, fun _ => ⟨_, rfl⟩⟩
  join_path {base url reference} _ h := by
    cases h
    show (String.ofList ('/' :: (resolve base.path reference.toList).tail)).toList =
      resolve (String.ofList base.path).toList reference.toList
    rw [String.toList_ofList, String.toList_ofList]
    obtain ⟨rest, hrest⟩ := resolve_slash base.rest reference.toList
    rw [HttpsUrl.path, hrest]
    rfl
  join_origin _ h := by
    cases h
    exact ⟨rfl, rfl, rfl⟩

def providerTarget (protocolFamily : ProtocolFamily) (upstreamBaseUrl : String) : ProviderAdapterTarget where
  protocolFamily := protocolFamily
  providerEndpoint :=
    { providerEndpointId := "pep_1"
      tenantId := "ten_1"
      name := "provider"
      providerKind := "provider"
      protocolFamilies := [protocolFamily]
      upstreamBaseUrl := upstreamBaseUrl
      status := .active }
  upstreamModelId := ""
  upstreamCredential := none

theorem providerTarget_parse (protocolFamily : ProtocolFamily) {upstreamBaseUrl : String}
    (h : (HttpsUrl.parseChars upstreamBaseUrl.toList).isOk = true) :
    ∃ base, httpsUrls.parse (providerTarget protocolFamily upstreamBaseUrl).providerEndpoint.upstreamBaseUrl =
      .ok base := by
  cases hparse : HttpsUrl.parseChars upstreamBaseUrl.toList with
  | error error =>
    rw [hparse] at h
    cases h
  | ok base => exact ⟨base, hparse⟩

theorem geminiModel_sent :
    ∃ first second,
      buildProviderAdapterRequest httpsUrls
        { providerTarget .geminiGenerateContent "https://gemini.example/v1beta" with upstreamModelId := "gemini-pro" }
        (.object []) = .ok first ∧
      buildProviderAdapterRequest httpsUrls
        { providerTarget .geminiGenerateContent "https://gemini.example/v1beta" with upstreamModelId := "gemini/pro" }
        (.object []) = .ok second ∧
      (first.url ≠ second.url ∨ first.body ≠ second.body) := by
  have hurl : (HttpsUrl.parseChars "https://gemini.example/v1beta".toList).isOk = true := by
    rw [String.toList_ofList]
    decide +kernel
  obtain ⟨base, hparse⟩ := providerTarget_parse .geminiGenerateContent hurl
  obtain ⟨hbuilt, hsent⟩ := routedModel_sent_iff httpsUrls_documented hparse []
  obtain ⟨first, hfirst⟩ := (hbuilt "gemini-pro").mpr rfl
  obtain ⟨second, hsecond⟩ := (hbuilt "gemini/pro").mpr rfl
  have hfamily := (hsent _ _ _ _ (by decide) hfirst hsecond).mpr (by decide)
  exact ⟨first, second, hfirst, hsecond, hfamily.1⟩

/-- Two models, one request: the path of the Bedrock family names none. -/
theorem bedrockModel_notSent :
    httpsUrls.Documented ∧ ∃ first second,
      buildProviderAdapterRequest httpsUrls
        { providerTarget .bedrockConverse "https://bedrock.example" with upstreamModelId := "claude-sonnet" }
        (.object []) = .ok first ∧
      buildProviderAdapterRequest httpsUrls
        { providerTarget .bedrockConverse "https://bedrock.example" with upstreamModelId := "claude-haiku" }
        (.object []) = .ok second ∧
      first.url = second.url ∧ first.body = second.body := by
  have hurl : (HttpsUrl.parseChars "https://bedrock.example".toList).isOk = true := by
    rw [String.toList_ofList]
    decide +kernel
  obtain ⟨base, hparse⟩ := providerTarget_parse .bedrockConverse hurl
  have hbuilt := buildProviderAdapterRequest_isOk httpsUrls_documented hparse
  obtain ⟨first, hfirst⟩ := (hbuilt "claude-sonnet" (.object [])).mpr rfl
  obtain ⟨second, hsecond⟩ := (hbuilt "claude-haiku" (.object [])).mpr rfl
  have hsame := buildProviderAdapterRequest_bedrock rfl hfirst hsecond
  exact ⟨httpsUrls_documented, first, second, hfirst, hsecond, hsame⟩

end HttpsUrls

end Starweaver.Gateway
