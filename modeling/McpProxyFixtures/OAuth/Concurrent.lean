import McpProxyFixtures.OAuth.Redirect

/-!
# Concurrent requests and the single use of authorization codes

The mock runs on an event loop: a handler is suspended only at an `await`, so the body of
`/token` after `await request.form()`, from the check of the code to its `pop`, runs as one
step, and so does every handler without an `await`.  A run is therefore a sequence of two
kinds of action: a request arrives and its handler suspends, or one suspended handler, in
any order, resumes and runs to its answer.

Beside the two dictionaries the world keeps a ghost log of what each step showed a client
of the grant store, read off each request and its answer: the code an `/authorize` answer
returns in its `location`, or the code of an authorization-code `/token` answered 200.  The
abstract grant store {lit}`liveGrant` is read off that log, and the invariant
{lit}`World.Inv` says the real `issued_tokens` always equals it.

Main results:

- Theorem {lit}`run_inv`: every run keeps the invariant.
- Theorem {lit}`liveGrant_eq_some_iff`: the abstract store holds exactly the grant of the
  last minting of each code that has not been redeemed since.
- Theorems {lit}`countP_redeemed_le` and {lit}`minted_between_redemptions`: no code is
  redeemed more often than it was minted, and two redemptions of a code have a minting of
  it between them.
-/

namespace McpProxyFixtures
namespace OAuth

open Python

/-! ## Events, the world and its steps -/

/-- What one handler run shows of the grant store. -/
inductive Event where
  | minted (code : String) (query : List (String × String)) (params : AuthorizeParams)
  | redeemed (code : String)

/-- The code an event is about. -/
def Event.code : Event → String
  | .minted c _ _ => c
  | .redeemed c => c

/-- The grant-store event of one handler run, read off the request and its answer: an
`/authorize` with valid parameters mints the code its answer returns, and an
authorization-code `/token` answered 200 redeems its code. -/
def observe (r : Request) (resp : Response) : Option Event :=
  match r with
  | .authorize q =>
    match validateAuthorize q, resp.returnedCode with
    | .ok p, some c => some (.minted c q p)
    | _, _ => none
  | .token form =>
    if dictGet form "grant_type" = some "authorization_code" ∧ resp.status = 200 then
      (dictGet form "code").map .redeemed
    else none
  | _ => none

/-- The shared dictionaries, the requests whose handlers are suspended at their `await`,
and the ghost log. -/
structure World where
  server : Server
  inflight : List Request
  log : List Event

/-- The process at start: empty dictionaries, nothing in flight, nothing logged. -/
def World.init : World :=
  ⟨Server.empty, [], []⟩

/-- A scheduling choice: a request arrives, or the `i`-th suspended handler resumes with
`hex` as its `secrets.token_hex` draws. -/
inductive Action where
  | arrive (r : Request)
  | resume (i : Nat) (hex : Nat → String)

/-- One step.  Resuming a handler that is not in flight changes nothing. -/
def step (cfg : Config) (w : World) : Action → World
  | .arrive r => { w with inflight := w.inflight ++ [r] }
  | .resume i hex =>
    match w.inflight[i]? with
    | none => w
    | some r =>
      { server := (handle cfg w.server hex r).2
        inflight := w.inflight.eraseIdx i
        log := w.log ++ (observe r (handle cfg w.server hex r).1).toList }

/-- A run: the steps of an action list, in order. -/
def run (cfg : Config) (w : World) (acts : List Action) : World :=
  acts.foldl (step cfg) w

/-! ## The abstract grant store -/

/-- The grant store the log describes: for each code, the grant of its last minting,
unless a redemption of it came later. -/
def liveGrant (log : List Event) (c : String) : Option Grant :=
  log.foldl (fun g e =>
    match e with
    | .minted c' _ p => if c' = c then some p.grant else g
    | .redeemed c' => if c' = c then none else g) none

/-- The claim's reading of the log: some step minted `c`, and nothing about `c`, neither a
new minting nor a redemption, came after it.  That step is then the last minting of `c`. -/
def Outstanding (log : List Event) (c : String) : Prop :=
  ∃ i q p, log[i]? = some (.minted c q p) ∧
    ∀ (j : Nat) (e : Event), i < j → log[j]? = some e → e.code ≠ c

theorem liveGrant_append_minted (log : List Event) (c c' : String) (q : List (String × String))
    (p : AuthorizeParams) :
    liveGrant (log ++ [.minted c' q p]) c = if c' = c then some p.grant else liveGrant log c := by
  simp [liveGrant, List.foldl_append]

theorem liveGrant_append_redeemed (log : List Event) (c c' : String) :
    liveGrant (log ++ [.redeemed c']) c = if c' = c then none else liveGrant log c := by
  simp [liveGrant, List.foldl_append]

/-- The minting of `c` at index `i` is the last event of the log about `c`. -/
def LastMint (log : List Event) (c : String) (i : Nat) (q : List (String × String))
    (p : AuthorizeParams) : Prop :=
  log[i]? = some (.minted c q p) ∧ ∀ (j : Nat) (e : Event), i < j → log[j]? = some e → e.code ≠ c

theorem getElem?_append_singleton {α : Type} (l : List α) (e : α) (j : Nat) :
    (l ++ [e])[j]? = if j < l.length then l[j]? else if j = l.length then some e else none := by
  split_ifs with h1 h2
  · exact List.getElem?_append_left h1
  · subst h2
    exact List.getElem?_concat_length l e
  · rw [List.getElem?_eq_none (by simp; omega)]

/-- A last minting in a longer log is the new event, or an old last minting that the new
event is not about. -/
theorem lastMint_append (log : List Event) (e : Event) (c : String) (i : Nat)
    (q : List (String × String)) (p : AuthorizeParams) :
    LastMint (log ++ [e]) c i q p ↔
      (i = log.length ∧ e = .minted c q p) ∨ (e.code ≠ c ∧ LastMint log c i q p) := by
  simp only [LastMint, getElem?_append_singleton]
  constructor
  · rintro ⟨hi, hlater⟩
    split_ifs at hi with h1 h2
    · refine .inr ⟨hlater log.length e h1 (by simp), hi, fun j e' hij hj => ?_⟩
      have hjlt : j < log.length := (List.getElem?_eq_some_iff.mp hj).1
      exact hlater j e' hij (by simpa [hjlt] using hj)
    · exact .inl ⟨h2, Option.some.inj hi⟩
  · rintro (⟨rfl, rfl⟩ | ⟨hne, hi, hlater⟩)
    · refine ⟨by simp, fun j e' hij hj => ?_⟩
      rw [if_neg (by omega), if_neg (by omega)] at hj
      cases hj
    · have hilt : i < log.length := (List.getElem?_eq_some_iff.mp hi).1
      refine ⟨by simpa [hilt] using hi, fun j e' hij hj => ?_⟩
      split_ifs at hj with h1 h2
      · exact hlater j e' hij hj
      · cases hj
        exact hne

/-- The abstract store holds exactly the grant of the last minting of each code that has
not been redeemed since. -/
theorem liveGrant_eq_some_iff (log : List Event) (c : String) (g : Grant) :
    liveGrant log c = some g ↔ ∃ i q p, LastMint log c i q p ∧ g = p.grant := by
  induction log using List.reverseRecOn with
  | nil => simp [liveGrant, LastMint]
  | append_singleton log e ih =>
    simp only [lastMint_append]
    cases e with
    | minted c' q' p' =>
      rw [liveGrant_append_minted]
      by_cases hc : c' = c
      · subst hc
        simp only [if_pos, Option.some.injEq, Event.code, ne_eq, not_true_eq_false, false_and,
          or_false, Event.minted.injEq, true_and]
        constructor
        · rintro rfl
          exact ⟨_, _, _, ⟨rfl, rfl, rfl⟩, rfl⟩
        · rintro ⟨_, _, _, ⟨-, rfl, rfl⟩, rfl⟩
          rfl
      · rw [if_neg hc]
        simp only [ih, Event.code, Event.minted.injEq, hc, false_and, and_false,
          false_or, ne_eq, not_false_eq_true, true_and]
    | redeemed c' =>
      rw [liveGrant_append_redeemed]
      by_cases hc : c' = c
      · subst hc
        simp [Event.code]
      · rw [if_neg hc]
        simp only [ih, Event.code, hc, and_false, false_or, ne_eq, not_false_eq_true,
          true_and, reduceCtorEq]

theorem liveGrant_isSome_iff (log : List Event) (c : String) :
    (liveGrant log c).isSome ↔ Outstanding log c := by
  simp only [Option.isSome_iff_exists, liveGrant_eq_some_iff, Outstanding, LastMint]
  constructor
  · rintro ⟨_, i, q, p, h, -⟩
    exact ⟨i, q, p, h⟩
  · rintro ⟨i, q, p, h⟩
    exact ⟨_, i, q, p, h, rfl⟩

/-! ## What one handler run does to the grant store -/

theorem registerClient_issuedTokens (s : Server) (body : Option Json) (hex8 hex16 : String) :
    (registerClient s body hex8 hex16).2.issuedTokens = s.issuedTokens := by
  unfold registerClient
  split <;> rfl

/-- A handler run leaves `issued_tokens` alone and logs nothing, or, for valid `/authorize`
parameters, stores and returns the code of its draw, or redeems a present, non-empty,
issued code. -/
theorem handle_store_cases (cfg : Config) (s : Server) (hex : Nat → String) (r : Request) :
    ((handle cfg s hex r).2.issuedTokens = s.issuedTokens ∧
        observe r (handle cfg s hex r).1 = none) ∨
      (∃ q p, r = .authorize q ∧ validateAuthorize q = .ok p ∧
        (handle cfg s hex r).2.issuedTokens = s.issuedTokens.insert (authCode (hex 0)) p.grant ∧
        observe r (handle cfg s hex r).1 = some (.minted (authCode (hex 0)) q p)) ∨
      (∃ form c, r = .token form ∧ c ≠ "" ∧ c ∈ s.issuedTokens ∧
        (handle cfg s hex r).2.issuedTokens = s.issuedTokens.erase c ∧
        observe r (handle cfg s hex r).1 = some (.redeemed c)) := by
  cases r with
  | authorize q =>
    cases h : validateAuthorize q with
    | error errors => exact .inl (by simp [handle, authorize_of_error h, observe, h])
    | ok p =>
      exact .inr (.inl ⟨q, p, rfl, h, by simp [handle, authorize_of_ok h, authorizeValid],
        by simp [handle, authorize_of_ok h, observe, h, authorizeValid_returnedCode]⟩)
  | token form =>
    by_cases hg : dictGet form "grant_type" = some "authorization_code"
    · by_cases hred : ∃ c, dictGet form "code" = some c ∧ c ≠ "" ∧ c ∈ s.issuedTokens
      · obtain ⟨c, hc, hne, hmem⟩ := hred
        exact .inr (.inr ⟨form, c, rfl, hne, hmem, by simp [handle, token_redeem hg hc hne hmem],
          by simp [handle, token_redeem hg hc hne hmem, observe, hg, hc]⟩)
      · push_neg at hred
        exact .inl (by simp [handle, token_invalid_code hg hred, observe])
    · by_cases hr : dictGet form "grant_type" = some "refresh_token"
      · exact .inl (by simp [handle, token_refresh hr, observe, hg])
      · exact .inl (by simp [handle, token_unsupported hg hr, observe, hg])
  | register body => exact .inl ⟨registerClient_issuedTokens _ _ _ _, rfl⟩
  | protectedResourceMetadata | authorizationServerMetadata | mcp _ | root =>
    exact .inl ⟨rfl, rfl⟩

/-! ## The invariant -/

/-- The invariant of the grant store and the log: `issued_tokens` is the abstract store of
the log; every minting was of a non-empty code for parameters that passed validation; and
every redemption was of a code outstanding just before it. -/
structure StoreInv (s : Server) (log : List Event) : Prop where
  store : ∀ c, s.issuedTokens.lookup c = liveGrant log c
  minted : ∀ c q p, Event.minted c q p ∈ log → c ≠ "" ∧ validateAuthorize q = .ok p
  redeemed : ∀ j c, log[j]? = some (.redeemed c) → (liveGrant (log.take j) c).isSome

/-- The invariant of a world is that of its grant store and log. -/
def World.Inv (w : World) : Prop :=
  StoreInv w.server w.log

theorem World.init_inv : World.init.Inv :=
  ⟨fun _ => rfl, fun _ _ _ h => absurd h (List.not_mem_nil _),
    fun _ _ h => absurd h (by simp [World.init])⟩

/-- Appending an event keeps every old redemption justified, and the new one if it is a
redemption of an outstanding code. -/
theorem redeemed_append {log : List Event}
    (hold : ∀ j c, log[j]? = some (.redeemed c) → (liveGrant (log.take j) c).isSome)
    {e : Event} (he : ∀ c, e = .redeemed c → (liveGrant log c).isSome) :
    ∀ j c, (log ++ [e])[j]? = some (.redeemed c) →
      (liveGrant ((log ++ [e]).take j) c).isSome := by
  intro j c hj
  rw [getElem?_append_singleton] at hj
  split_ifs at hj with h1 h2
  · rw [List.take_append_of_le_length h1.le]
    exact hold j c hj
  · rw [List.take_left' h2.symm]
    exact he c (Option.some.inj hj)

section StoreSteps

variable {s s' : Server} {log : List Event}

theorem StoreInv.of_same (h : StoreInv s log) (hs : s'.issuedTokens = s.issuedTokens) :
    StoreInv s' log :=
  ⟨fun c => hs ▸ h.store c, h.minted, h.redeemed⟩

theorem StoreInv.mint (h : StoreInv s log) {hex : String} {q : List (String × String)}
    {p : AuthorizeParams} (hv : validateAuthorize q = .ok p)
    (hs : s'.issuedTokens = s.issuedTokens.insert (authCode hex) p.grant) :
    StoreInv s' (log ++ [.minted (authCode hex) q p]) := by
  refine ⟨fun c => ?_, fun c q' p' hm => ?_, redeemed_append h.redeemed (by simp)⟩
  · rw [hs, liveGrant_append_minted]
    by_cases hc : authCode hex = c
    · subst hc
      rw [if_pos rfl, AList.lookup_insert]
    · rw [if_neg hc, AList.lookup_insert_ne (Ne.symm hc), h.store]
  · rcases List.mem_append.mp hm with hm | hm
    · exact h.minted c q' p' hm
    · cases List.mem_singleton.mp hm
      exact ⟨authCode_ne_empty hex, hv⟩

theorem StoreInv.redeem (h : StoreInv s log) {c : String} (hmem : c ∈ s.issuedTokens)
    (hs : s'.issuedTokens = s.issuedTokens.erase c) : StoreInv s' (log ++ [.redeemed c]) := by
  refine ⟨fun k => ?_, fun k q p hm => ?_, redeemed_append h.redeemed ?_⟩
  · rw [hs, liveGrant_append_redeemed]
    by_cases hk : c = k
    · subst hk
      rw [if_pos rfl, AList.lookup_erase]
    · rw [if_neg hk, AList.lookup_erase_ne (Ne.symm hk), h.store]
  · rcases List.mem_append.mp hm with hm | hm
    · exact h.minted k q p hm
    · simp at hm
  · rintro k ⟨⟩
    rw [← h.store]
    exact AList.lookup_isSome.mpr hmem

end StoreSteps

/-- A handler run keeps the invariant. -/
theorem StoreInv.handle {s : Server} {log : List Event} (h : StoreInv s log) (cfg : Config)
    (hex : Nat → String) (r : Request) :
    StoreInv (handle cfg s hex r).2 (log ++ (observe r (handle cfg s hex r).1).toList) := by
  rcases handle_store_cases cfg s hex r with ⟨hs, ho⟩ | ⟨q, p, -, hv, hs, ho⟩ |
      ⟨form, c, -, -, hmem, hs, ho⟩
  · rw [ho, Option.toList_none, List.append_nil]
    exact h.of_same hs
  · rw [ho, Option.toList_some]
    exact h.mint hv hs
  · rw [ho, Option.toList_some]
    exact h.redeem hmem hs

/-- Every step keeps the invariant. -/
theorem step_inv (cfg : Config) {w : World} (hw : w.Inv) (a : Action) : (step cfg w a).Inv := by
  cases a with
  | arrive r => exact hw
  | resume i hex =>
    cases hr : w.inflight[i]? with
    | none => simpa only [step, hr] using hw
    | some r => simpa only [step, hr] using hw.handle cfg hex r

/-- Every run keeps the invariant. -/
theorem run_inv (cfg : Config) (acts : List Action) {w : World} (hw : w.Inv) :
    (run cfg w acts).Inv := by
  induction acts generalizing w with
  | nil => exact hw
  | cons a acts ih => exact ih (step_inv cfg hw a)

/-! ## Single use of authorization codes -/

/-- The keys of `issued_tokens` are the outstanding codes of the log. -/
theorem StoreInv.mem_iff {s : Server} {log : List Event} (h : StoreInv s log) (c : String) :
    c ∈ s.issuedTokens ↔ Outstanding log c := by
  rw [← AList.lookup_isSome, h.store, liveGrant_isSome_iff]

/-- An authorization-code exchange for `c` returns a token set exactly when `c` is
outstanding, and `c` is not a key afterwards. -/
theorem StoreInv.token_code {s : Server} {log : List Event} (h : StoreInv s log)
    {form : List (String × String)} {c : String}
    (hg : dictGet form "grant_type" = some "authorization_code")
    (hc : dictGet form "code" = some c) (hexAccess hexRefresh : String) :
    ((token s form hexAccess hexRefresh).1 = Response.ok (tokenSet hexAccess hexRefresh) ↔
        Outstanding log c) ∧ c ∉ (token s form hexAccess hexRefresh).2.issuedTokens := by
  by_cases hout : Outstanding log c
  · have hmem := (h.mem_iff c).mpr hout
    obtain ⟨i, q, p, hi, hlater⟩ := hout
    have hne := (h.minted c q p (List.getElem?_mem hi)).1
    rw [token_redeem hg hc hne hmem]
    exact ⟨iff_of_true rfl ⟨i, q, p, hi, hlater⟩, fun hm => (AList.mem_erase.mp hm).1 rfl⟩
  · have hmem : c ∉ s.issuedTokens := fun hm => hout ((h.mem_iff c).mp hm)
    rw [token_invalid_code hg (fun c' hc' _ => (Option.some.inj (hc.symm.trans hc')) ▸ hmem)]
    exact ⟨iff_of_false (fun he => by simpa using congrArg Response.status he) hout, hmem⟩

/-- The log's events that mint `c`. -/
def Event.isMintOf (c : String) : Event → Bool
  | .minted c' _ _ => c' == c
  | .redeemed _ => false

/-- The log's events that redeem `c`. -/
def Event.isRedeemOf (c : String) : Event → Bool
  | .redeemed c' => c' == c
  | .minted _ _ _ => false

/-- Every redemption in the log was of a code outstanding just before it. -/
def RedeemsOutstanding (log : List Event) : Prop :=
  ∀ j c, log[j]? = some (.redeemed c) → (liveGrant (log.take j) c).isSome

theorem RedeemsOutstanding.of_append {log : List Event} {e : Event}
    (h : RedeemsOutstanding (log ++ [e])) :
    RedeemsOutstanding log ∧ ∀ c, e = .redeemed c → (liveGrant log c).isSome := by
  refine ⟨fun j c hj => ?_, fun c he => ?_⟩
  · have hlt : j < log.length := (List.getElem?_eq_some_iff.mp hj).1
    have := h j c (by rw [List.getElem?_append_left hlt]; exact hj)
    rwa [List.take_append_of_le_length hlt.le] at this
  · have := h log.length c (by rw [List.getElem?_concat_length, he])
    rwa [List.take_left' rfl] at this

/-- Redemptions of `c`, plus one while `c` is outstanding, never outnumber its mintings. -/
theorem countP_redeemed_add_live_le {log : List Event} (h : RedeemsOutstanding log) (c : String) :
    log.countP (Event.isRedeemOf c) + (if (liveGrant log c).isSome then 1 else 0) ≤
      log.countP (Event.isMintOf c) := by
  induction log using List.reverseRecOn with
  | nil => simp [liveGrant]
  | append_singleton log e ih =>
    obtain ⟨hlog, he⟩ := h.of_append
    have ih := ih hlog
    simp only [List.countP_append, List.countP_singleton]
    cases e with
    | minted c' q p =>
      rw [liveGrant_append_minted]
      by_cases hc : c' = c
      · subst hc
        simp only [Event.isRedeemOf, Event.isMintOf, beq_self_eq_true, if_true,
          Option.isSome_some, Bool.false_eq_true, if_false]
        split_ifs at ih <;> omega
      · simpa [Event.isRedeemOf, Event.isMintOf, hc] using ih
    | redeemed c' =>
      rw [liveGrant_append_redeemed]
      by_cases hc : c' = c
      · subst hc
        simp only [he c' rfl, if_true] at ih
        simp only [Event.isRedeemOf, Event.isMintOf, beq_self_eq_true, if_true,
          Option.isSome_none, Bool.false_eq_true, if_false]
        omega
      · simpa [Event.isRedeemOf, Event.isMintOf, hc] using ih

/-- No code is redeemed more often than it was minted. -/
theorem countP_redeemed_le {log : List Event} (h : RedeemsOutstanding log) (c : String) :
    log.countP (Event.isRedeemOf c) ≤ log.countP (Event.isMintOf c) :=
  le_trans (Nat.le_add_right _ _) (countP_redeemed_add_live_le h c)

/-- Two redemptions of one code have a minting of it between them. -/
theorem minted_between_redemptions {log : List Event} (h : RedeemsOutstanding log) {c : String}
    {i j : Nat} (hij : i < j) (hi : log[i]? = some (.redeemed c))
    (hj : log[j]? = some (.redeemed c)) :
    ∃ k q p, i < k ∧ k < j ∧ log[k]? = some (.minted c q p) := by
  obtain ⟨k, q, p, hk, hlater⟩ := (liveGrant_isSome_iff _ c).mp (h j c hj)
  rw [List.getElem?_take] at hk
  split_ifs at hk with hkj
  have hik : i < k := by
    rcases Nat.lt_trichotomy i k with hik | rfl | hki
    · exact hik
    · rw [hi] at hk
      cases hk
    · exact absurd rfl (hlater i _ hki (by rw [List.getElem?_take, if_pos hij, hi]))
  exact ⟨k, q, p, hik, hkj, hk⟩

/-- The single use of authorization codes, over every run of concurrently handled
requests, where a code enters the log when an `/authorize` answer returns it: the keys of
`issued_tokens` are the outstanding codes of the log after every step; an
authorization-code exchange for `c` returns a token set exactly when `c` is outstanding as
its step runs, and removes `c`; no code is redeemed more often than it was minted; and
between two redemptions of a code there is a minting of it. -/
theorem issuedTokens_single_use (cfg : Config) (acts : List Action) :
    let w := run cfg World.init acts
    (∀ c, c ∈ w.server.issuedTokens ↔ Outstanding w.log c) ∧
      (∀ (i : Nat) (hex : Nat → String) (form : List (String × String)) (c : String),
        w.inflight[i]? = some (.token form) →
        dictGet form "grant_type" = some "authorization_code" → dictGet form "code" = some c →
        (step cfg w (.resume i hex)).server = (handle cfg w.server hex (.token form)).2 ∧
        ((handle cfg w.server hex (.token form)).1 = Response.ok (tokenSet (hex 0) (hex 1)) ↔
          Outstanding w.log c) ∧
        c ∉ (step cfg w (.resume i hex)).server.issuedTokens) ∧
      (∀ c, w.log.countP (Event.isRedeemOf c) ≤ w.log.countP (Event.isMintOf c)) ∧
      (∀ (c : String) (i j : Nat), i < j → w.log[i]? = some (.redeemed c) →
        w.log[j]? = some (.redeemed c) →
        ∃ k q p, i < k ∧ k < j ∧ w.log[k]? = some (.minted c q p)) := by
  intro w
  have hw : w.Inv := run_inv cfg acts World.init_inv
  refine ⟨hw.mem_iff, fun i hex form c hi hg hc => ?_, countP_redeemed_le hw.redeemed,
    fun c i j hij => minted_between_redemptions hw.redeemed hij⟩
  have hstep : (step cfg w (.resume i hex)).server = (handle cfg w.server hex (.token form)).2 := by
    simp only [step, hi]
  obtain ⟨hiff, hgone⟩ := hw.token_code hg hc (hex 0) (hex 1)
  exact ⟨hstep, hiff, hstep ▸ hgone⟩

/-! ## Where a stored grant comes from -/

/-- Every grant in `issued_tokens` is the grant of the last `/authorize` that minted its
code, and its `resource` is that request's `resource` parameter. -/
theorem issuedTokens_grant_origin (cfg : Config) (acts : List Action) :
    let w := run cfg World.init acts
    ∀ c g, w.server.issuedTokens.lookup c = some g →
      ∃ i q p, LastMint w.log c i q p ∧ g = p.grant ∧ dictGet q "resource" = some g.resource := by
  intro w c g hg
  have hw : w.Inv := run_inv cfg acts World.init_inv
  rw [hw.store, liveGrant_eq_some_iff] at hg
  obtain ⟨i, q, p, hlast, rfl⟩ := hg
  have hv := (hw.minted c q p (List.getElem?_mem hlast.1)).2
  exact ⟨i, q, p, hlast, rfl, (validateAuthorize_ok hv).2.2.2.1⟩

/-- FastAPI only requires `resource` to be present: a query with `resource=` passes
validation, and its grant, with an empty `resource`, is stored. -/
theorem empty_resource_grant_reachable :
    (run (Config.ofEnv 8000 none) World.init
        [.arrive (.authorize [("client_id", "a"), ("redirect_uri", "https://cb"),
          ("state", "xyz"), ("resource", "")]),
         .resume 0 (fun _ => "0123456789abcdef0123456789abcdef")]).server.issuedTokens.lookup
        (authCode "0123456789abcdef0123456789abcdef") =
      some ⟨"a", "https://cb", "", none⟩ :=
  rfl

end OAuth
end McpProxyFixtures
