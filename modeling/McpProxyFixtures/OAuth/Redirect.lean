import McpProxyFixtures.OAuth.Server

/-!
# The redirect of `/authorize`

`/authorize` answers with `RedirectResponse(url=f"{redirect_uri}?{redirect_params}")`,
where `redirect_params` is `urlencode({"code": auth_code, "state": state})`, and Starlette
writes `quote(url, safe=":/%#?=@[]!$&'()*+,;")` into the `location` header.  A client
splits that header at its first `?` and reads the query with the form parser.

Main results:

- Theorem {lit}`location_redirectUrl`: Starlette's `quote` leaves the urlencoded query
  alone and quotes only `redirect_uri`.
- Theorem {lit}`authorizeValid_returnedCode`: whatever `redirect_uri` and the state are,
  the query after the last `?` of the `location` carries the code `/authorize` stored.
- Theorem {lit}`authorize_location_roundtrip`: for a `redirect_uri` without `?`, the part of
  the `location` before its first `?` is `redirect_uri` as Starlette quotes it (itself when
  it is made of URL-safe ASCII), and its query reads back as exactly the new code and the
  state, whatever the state is.
- Theorem {lit}`authorize_location_requotes_space`: a space in `redirect_uri` comes back as
  `%20`.
- Theorem {lit}`authorize_location_query_in_redirect_uri`: when `redirect_uri` already has
  a query, the code is appended after a second `?` and is read back inside that query's
  last value.
-/

namespace McpProxyFixtures
namespace OAuth

open Python

/-- Starlette's `quote` leaves every character `urlencode` writes as it is. -/
theorem quote_locationSafe_urlencode (query : List (String × String)) :
    quote locationSafe (urlencode query) = urlencode query := by
  refine quote_eq_self fun c hc => ?_
  rcases urlencode_char hc with h | rfl | rfl | rfl | rfl
  · refine ⟨?_, .inl h⟩
    simp only [alwaysSafe, Bool.or_eq_true, Bool.and_eq_true, decide_eq_true_eq,
      beq_iff_eq] at h
    omega
  all_goals exact ⟨by decide, .inr (by decide)⟩

/-- Starlette's `quote` leaves the urlencoded query alone and quotes only
`redirect_uri`. -/
theorem location_redirectUrl (uri code state : String) :
    quote locationSafe (redirectUrl uri code state) =
      quote locationSafe uri ++ "?" ++ urlencode [("code", code), ("state", state)] := by
  rw [redirectUrl, quote_append, quote_append, quote_locationSafe_urlencode]
  rfl

theorem authorizeValid_location (s : Server) (p : AuthorizeParams) (hex : String) :
    (authorizeValid s p hex).1.location =
      some (quote locationSafe (redirectUrl p.redirectUri (authCode hex) p.state)) :=
  rfl

/-! ## The code an answer returns -/

/-- The code an answer hands back: the `code` parameter of the query after the last `?` of
its `location`.  `/authorize` writes its parameters there whatever `redirect_uri` holds,
since `urlencode` escapes every `?`; a client that splits at the first `?`, as
{lit}`splitAtQuery` does, misses them when `redirect_uri` has a query. -/
def Response.returnedCode (resp : Response) : Option String := do
  let query ← afterLastQuery (← resp.location)
  dictGet (← formDecode query) "code"

theorem question_not_mem_urlencode (query : List (String × String)) :
    '?' ∉ (urlencode query).data := fun h => by
  rcases urlencode_char h with h | h | h | h | h <;> revert h <;> decide

/-- A successful `/authorize` returns the code it stores, whatever `redirect_uri` and the
state are. -/
theorem authorizeValid_returnedCode (s : Server) (p : AuthorizeParams) (hex : String) :
    (authorizeValid s p hex).1.returnedCode = some (authCode hex) := by
  simp only [Response.returnedCode, authorizeValid_location, location_redirectUrl,
    Option.bind_eq_bind, Option.some_bind,
    afterLastQuery_append _ (question_not_mem_urlencode _), formDecode_urlencode]
  rfl

/-- For a `redirect_uri` without `?`, the `location` of a successful `/authorize` splits at
its first `?` into `redirect_uri` as Starlette quotes it, which is `redirect_uri` itself
when it is made of URL-safe ASCII, and a query that reads back as exactly the code added to
`issued_tokens` and the state, whatever the state is. -/
theorem authorize_location_roundtrip {s : Server} {q : List (String × String)}
    {p : AuthorizeParams} (hv : validateAuthorize q = .ok p) (hq : '?' ∉ p.redirectUri.data)
    (hex : String) :
    (authorize s q hex).1.status = 302 ∧
      (authorize s q hex).2.issuedTokens.lookup (authCode hex) = some p.grant ∧
      ∃ location, (authorize s q hex).1.location = some location ∧
        (splitAtQuery location).1 = quote locationSafe p.redirectUri ∧
        formDecode (splitAtQuery location).2 = some [("code", authCode hex), ("state", p.state)] ∧
        ((∀ c ∈ p.redirectUri.data, c.toNat < 0x80 ∧ (alwaysSafe c.toNat ∨ c ∈ locationSafe.data)) →
          (splitAtQuery location).1 = p.redirectUri) := by
  rw [authorize_of_ok hv]
  have hsplit := splitAtQuery_append (b := urlencode [("code", authCode hex), ("state", p.state)])
    (@quote_ne_question locationSafe _ hq)
  refine ⟨rfl, AList.lookup_insert _, _, authorizeValid_location s p hex, ?_, ?_, fun hsafe => ?_⟩
  · rw [location_redirectUrl, hsplit]
  · rw [location_redirectUrl, hsplit, formDecode_urlencode]
  · rw [location_redirectUrl, hsplit, quote_eq_self hsafe]

/-- The roundtrip for `redirect_uri=https://cb`, a state with characters `urlencode`
escapes, and a code drawn as `secrets.token_hex(16)` draws it. -/
theorem authorize_location_roundtrip_cb :
    validateAuthorize [("client_id", "a"), ("redirect_uri", "https://cb"),
        ("state", "a b&c=d+e%f#g?h/é"), ("resource", "https://api")] =
      .ok ⟨"a", "https://cb", "a b&c=d+e%f#g?h/é", "code", none, none, "https://api"⟩ ∧
      '?' ∉ "https://cb".data ∧
      ∃ location, (authorize Server.empty [("client_id", "a"), ("redirect_uri", "https://cb"),
          ("state", "a b&c=d+e%f#g?h/é"), ("resource", "https://api")]
          "0123456789abcdef0123456789abcdef").1.location = some location ∧
        formDecode (splitAtQuery location).2 =
          some [("code", "mock-auth-code-0123456789abcdef0123456789abcdef"),
            ("state", "a b&c=d+e%f#g?h/é")] := by
  have hv : validateAuthorize [("client_id", "a"), ("redirect_uri", "https://cb"),
      ("state", "a b&c=d+e%f#g?h/é"), ("resource", "https://api")] =
      .ok ⟨"a", "https://cb", "a b&c=d+e%f#g?h/é", "code", none, none, "https://api"⟩ := rfl
  obtain ⟨-, -, location, hloc, -, hdec, -⟩ := authorize_location_roundtrip (s := Server.empty) hv
    (by decide) "0123456789abcdef0123456789abcdef"
  exact ⟨hv, by decide, location, hloc, hdec⟩

/-- A space in `redirect_uri` comes back as `%20` before the `?` of the `location`. -/
theorem authorize_location_requotes_space :
    ((authorize Server.empty [("client_id", "a"), ("redirect_uri", "https://cb/a b"),
        ("state", "xyz"), ("resource", "https://api")]
        "0123456789abcdef0123456789abcdef").1.location.map fun location =>
          (splitAtQuery location).1) = some "https://cb/a%20b" := by
  decide

/-- When `redirect_uri` already carries a query, the code and state follow a second `?`,
and the form parser reads the code inside the value of `redirect_uri`'s last parameter. -/
theorem authorize_location_query_in_redirect_uri :
    ((authorize Server.empty [("client_id", "a"), ("redirect_uri", "https://cb?x=1"),
        ("state", "xyz"), ("resource", "https://api")]
        "0123456789abcdef0123456789abcdef").1.location.bind fun location =>
          formDecode (splitAtQuery location).2) =
      some [("x", "1?code=mock-auth-code-0123456789abcdef0123456789abcdef"), ("state", "xyz")] := by
  decide

end OAuth
end McpProxyFixtures
