import ScreenKeyboard.Proofs.Addresses
import ScreenKeyboard.Viewer.Endpoint

/-!
Where a viewer connects to. The address is the one that scheme, host, port and path spell, and the token is
its last pair unless it brings one of its own (`endpoint_token`). The host is pasted as it stands, so a host
that ends the authority of the address takes the port along into the path: only without such a host is the
port that of the settings (`effectivePort_endpoint`).
-/

namespace ScreenKeyboard.ViewerSettings

variable {settings : ViewerSettings} {page : Page}

theorem baseText_eq (settings : ViewerSettings) (page : Page) :
    settings.baseText page =
      (if settings.encrypt.getD page.https then "wss" else "ws") ++ "://" ++
        (if settings.host = "" then page.hostname else settings.host) ++ ":" ++
        toString settings.port.toNat ++ "/" ++ String.ofList (settings.path.toList.dropWhile (· = '/')) := by
  have hscheme : (settings.schemeOn page).name = if settings.encrypt.getD page.https then "wss" else "ws" := by
    rw [schemeOn]
    split_ifs <;> rfl
  have hport : (toString settings.port.toNat).toList = Nat.toDigits 10 settings.port.toNat :=
    String.toList_ofList
  rw [← String.toList_inj, baseText, String.toList_ofList, hscheme]
  simp only [String.toList_append, String.toList_ofList, hport, hostOn, List.append_assoc]
  rfl

theorem endpoint_of_port (hport : settings.port ≠ 0) (hhost : settings.hostOn page ≠ "") :
    settings.endpoint page =
      match Url.read (settings.baseText page) with
      | .error reason => .error (.invalid reason)
      | .ok url => .ok (settings.withToken url) := by
  refine (if_neg (not_or.mpr ⟨hhost, hport⟩)).trans ?_
  cases Url.read (settings.baseText page) <;> rfl

/-- There is no endpoint for want of a host or a port, and for this reason only then. -/
theorem endpoint_eq_missing_iff (settings : ViewerSettings) (page : Page) :
    settings.endpoint page = .error .missing ↔ settings.hostOn page = "" ∨ settings.port = 0 := by
  by_cases hmissing : settings.hostOn page = "" ∨ settings.port = 0
  · exact iff_of_true (if_pos hmissing) hmissing
  · obtain ⟨hhost, hport⟩ := not_or.mp hmissing
    rw [endpoint_of_port hport hhost]
    cases Url.read (settings.baseText page) <;> exact iff_of_false (fun h => nomatch h) hmissing

theorem read_of_endpoint {url : Url} (h : settings.endpoint page = .ok url) :
    ∃ plain, Url.read (settings.baseText page) = .ok plain ∧ settings.withToken plain = url := by
  by_cases hmissing : settings.hostOn page = "" ∨ settings.port = 0
  · rw [endpoint, if_pos hmissing] at h
    cases h
  · obtain ⟨hhost, hport⟩ := not_or.mp hmissing
    rw [endpoint_of_port hport hhost] at h
    cases hread : Url.read (settings.baseText page) with
    | error reason =>
        rw [hread] at h
        cases h
    | ok plain =>
        rw [hread] at h
        exact ⟨plain, rfl, Except.ok.inj h⟩

/-! ### The token -/

theorem withToken_keeps (settings : ViewerSettings) (url : Url) :
    settings.withToken url = { url with query := (settings.withToken url).query } := by
  unfold withToken
  split
  · rfl
  · split_ifs <;> rfl

theorem withToken_of_none {url : Url}
    (h : settings.token = none ∨ settings.token = some "" ∨ ∃ value, ("token", value) ∈ url.pairs) :
    settings.withToken url = url := by
  unfold withToken
  rcases h with hnone | hempty | ⟨value, hvalue⟩
  · rw [hnone]
  · rw [hempty]
    exact if_pos (Or.inl rfl)
  · split
    · rfl
    · exact if_pos (Or.inr (List.any_eq_true.mpr ⟨_, hvalue, rfl⟩))

theorem withToken_of_some {url : Url} {token : String} (htoken : settings.token = some token)
    (hne : token ≠ "") (hfree : ∀ value, ("token", value) ∉ url.pairs) :
    settings.withToken url = url.appendPair "token" token := by
  have hany : ¬url.pairs.any (·.1 = "token") = true := by
    rw [List.any_eq_true]
    rintro ⟨⟨name, value⟩, hpair, hname⟩
    obtain rfl := of_decide_eq_true hname
    exact hfree value hpair
  rw [withToken, htoken]
  exact if_neg (not_or.mpr ⟨hne, hany⟩)

/-- The endpoint is the address that scheme, host, port and path spell, or there is none for the reason that
they spell none. A token that is to be added and that the address does not bring itself becomes the last
pair of its query, letter for letter; nothing else of the address changes. -/
theorem endpoint_token (settings : ViewerSettings) (page : Page) (hport : settings.port ≠ 0)
    (hhost : (if settings.host = "" then page.hostname else settings.host) ≠ "") :
    let encrypted := settings.encrypt.getD page.https
    let host := if settings.host = "" then page.hostname else settings.host
    let base := Url.read ((if encrypted then "wss" else "ws") ++ "://" ++ host ++ ":" ++
      toString settings.port.toNat ++ "/" ++ String.ofList (settings.path.toList.dropWhile (· = '/')))
    (∀ reason, base = .error reason → settings.endpoint page = .error (.invalid reason)) ∧
    ∀ plain, base = .ok plain → ∃ url, settings.endpoint page = .ok url ∧
      (url.scheme = if encrypted then .wss else .ws) ∧
      (settings.token = none ∨ settings.token = some "" ∨ (∃ value, ("token", value) ∈ plain.pairs) →
        url = plain) ∧
      ∀ token, settings.token = some token → token ≠ "" → (∀ value, ("token", value) ∉ plain.pairs) →
        url = { plain with query := url.query } ∧ url.pairs = plain.pairs ++ [("token", token)] := by
  intro encrypted host base
  have hbase : base = Url.read (settings.baseText page) := congrArg Url.read (baseText_eq settings page).symm
  have hendpoint := endpoint_of_port hport hhost
  rw [← hbase] at hendpoint
  refine ⟨fun reason hreason => by rw [hendpoint, hreason], fun plain hplain => ?_⟩
  rw [hplain] at hendpoint
  refine ⟨settings.withToken plain, hendpoint, ?_, withToken_of_none, ?_⟩
  · have hscheme := (Url.effectivePort_of_pasted (hbase ▸ hplain)).1
    rw [withToken_keeps]
    exact hscheme
  · intro token htoken hne hfree
    refine ⟨withToken_keeps settings plain, ?_⟩
    rw [withToken_of_some htoken hne hfree, Url.pairs_appendPair]

/-- A token with spaces, separators and an escape comes back as it is, behind a pair with a broken escape and
before the fragment. -/
theorem endpoint_token_between_query_and_fragment :
    let settings : ViewerSettings := { host := "h", path := "//a?b=%zz&#f", token := some "é &=+%23#" }
    ∃ url, settings.endpoint {} = .ok url ∧ url.fragment = some "f" ∧
      url.pairs = [("b", "%zz"), ("token", "é &=+%23#")] := by
  intro settings
  obtain ⟨plain, hplain, hpairs, hfragment⟩ : ∃ plain, Url.read "ws://h:5901/a?b=%zz&#f" = .ok plain ∧
      plain.pairs = [("b", "%zz")] ∧ plain.fragment = some "f" :=
    ⟨⟨.ws, "", none, .domain "h", some 5901, ["a"], some "b=%zz&", some "f"⟩,
      by decide +kernel, by decide +kernel, rfl⟩
  have hbase : Url.read ("ws" ++ "://" ++ "h" ++ ":" ++ toString (5901 : Nat) ++ "/" ++
      String.ofList ("//a?b=%zz&#f".toList.dropWhile (· = '/'))) = .ok plain := by
    rw [← hplain]
    decide +kernel
  obtain ⟨url, hurl, -, -, hadded⟩ := (endpoint_token settings {} (by decide) (by decide)).2 plain hbase
  obtain ⟨hkept, htoken⟩ := hadded _ rfl (by decide) (by simp [hpairs])
  exact ⟨url, hurl, by rw [hkept]; exact hfragment, by rw [htoken, hpairs]; rfl⟩

/-! ### The port -/

/-- The port of the endpoint is that of the settings, unless the host, as the address sees it, ends the
authority: then what stands before that end says which port it is, and the port of the settings is in the
path. -/
theorem effectivePort_endpoint {settings : ViewerSettings} {page : Page} {url : Url}
    (h : settings.endpoint page = .ok url) :
    let host := Url.seen (settings.hostOn page).toList
    url.effectivePort =
      if host.any Url.endsAuthority then Url.authorityPort url.scheme (host.takeWhile (!Url.endsAuthority ·))
      else settings.port.toNat := by
  obtain ⟨plain, hread, htoken⟩ := read_of_endpoint h
  have hkept := withToken_keeps settings plain
  rw [htoken] at hkept
  have hscheme : url.scheme = plain.scheme := by rw [hkept]
  have hport : url.effectivePort = plain.effectivePort := by rw [hkept]; rfl
  obtain ⟨hpasted, hplain⟩ := Url.effectivePort_of_pasted hread
  intro host
  rw [hport, hplain, hscheme, hpasted]

/-- User and brackets in a host leave the port alone. -/
theorem effectivePort_endpoint_of_user :
    ∃ url, endpoint { host := "//me:1@[::1]" } {} = .ok url ∧ url.effectivePort = 5901 := by
  obtain ⟨url, hurl⟩ : ∃ url, endpoint { host := "//me:1@[::1]" } {} = .ok url :=
    ⟨⟨.ws, "me", some "1", .ipv6 [0, 0, 0, 0, 0, 0, 0, 1], some 5901, ["websockify"], none, none⟩,
      by decide +kernel⟩
  exact ⟨url, hurl, effectivePort_endpoint hurl⟩

/-- A slash in the host takes the port into the path, and the port of the scheme is used. -/
theorem effectivePort_of_host_with_slash :
    ¬∀ (settings : ViewerSettings) (page : Page) (url : Url), settings.endpoint page = .ok url →
      url.effectivePort = settings.port.toNat := by
  intro hall
  have hport := hall { host := "a/b" } {}
    ⟨.ws, "", none, .domain "a", none, ["b:5901", "websockify"], none, none⟩ (by decide +kernel)
  exact absurd hport (by decide)

end ScreenKeyboard.ViewerSettings
