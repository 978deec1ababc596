import McpProxyFixtures.OAuth.Concurrent

/-!
# `registered_clients`: written, never read

`/register` stores each new client under its `client_id`, and no handler reads
`registered_clients` back: `/authorize` mints a code for any `client_id`, and `/token`
redeems a code without looking at the client.  This module states the second half over
every run of concurrently handled requests.

Main results:

- Theorem {lit}`runAnswers_ignore_registeredClients`: in any world, replacing
  `registered_clients` by any other dictionary changes no answer of any run from there.
-/

namespace McpProxyFixtures
namespace OAuth

open Python

/-! ## What a run answers -/

/-- The answer a step sends: a resumed handler's response; an arrival answers nothing. -/
def World.answer (cfg : Config) (w : World) : Action → Option Response
  | .arrive _ => none
  | .resume i hex => w.inflight[i]?.map fun r => (handle cfg w.server hex r).1

/-- The answers of a run, in the order its handlers finish. -/
def runAnswers (cfg : Config) : World → List Action → List Response
  | _, [] => []
  | w, a :: acts => (w.answer cfg a).toList ++ runAnswers cfg (step cfg w a) acts

/-! ## No handler reads `registered_clients` -/

/-- Two worlds that differ at most in `registered_clients`. -/
def World.SameButClients (w w' : World) : Prop :=
  w.server.issuedTokens = w'.server.issuedTokens ∧ w.inflight = w'.inflight ∧ w.log = w'.log

/-- Two servers with the same `issued_tokens` answer every request alike and still have the
same `issued_tokens` afterwards. -/
theorem handle_ignores_registeredClients (cfg : Config) (hex : Nat → String) (r : Request)
    {s s' : Server} (h : s.issuedTokens = s'.issuedTokens) :
    (handle cfg s hex r).1 = (handle cfg s' hex r).1 ∧
      (handle cfg s hex r).2.issuedTokens = (handle cfg s' hex r).2.issuedTokens := by
  obtain ⟨clients, tokens⟩ := s
  obtain ⟨clients', tokens'⟩ := s'
  obtain rfl : tokens = tokens' := h
  cases r with
  | register body =>
    rcases body with _ | body
    · exact ⟨rfl, rfl⟩
    · cases body <;> exact ⟨rfl, rfl⟩
  | authorize q =>
    dsimp only [handle, authorize]
    cases validateAuthorize q <;> exact ⟨rfl, rfl⟩
  | token form =>
    dsimp only [handle, token]
    split_ifs
    · cases dictGet form "code" with
      | none => exact ⟨rfl, rfl⟩
      | some code => dsimp only; split_ifs <;> exact ⟨rfl, rfl⟩
    all_goals exact ⟨rfl, rfl⟩
  | protectedResourceMetadata | authorizationServerMetadata | mcp _ | root => exact ⟨rfl, rfl⟩

/-- One step from two worlds that differ at most in `registered_clients` sends the same
answer and leaves two such worlds. -/
theorem step_sameButClients (cfg : Config) {w w' : World} (h : w.SameButClients w')
    (a : Action) :
    w.answer cfg a = w'.answer cfg a ∧ (step cfg w a).SameButClients (step cfg w' a) := by
  obtain ⟨hs, hi, hl⟩ := h
  cases a with
  | arrive r => exact ⟨rfl, hs, by simp only [step, hi], hl⟩
  | resume i hex =>
    cases hr : w'.inflight[i]? with
    | none =>
      have hr' : w.inflight[i]? = none := hi ▸ hr
      simp only [World.answer, step, hr, hr']
      exact ⟨rfl, hs, hi, hl⟩
    | some r =>
      have hr' : w.inflight[i]? = some r := hi ▸ hr
      obtain ⟨hresp, htok⟩ := handle_ignores_registeredClients cfg hex r hs
      simp only [World.answer, step, hr, hr', Option.map_some']
      exact ⟨by rw [hresp], htok, by rw [hi], by rw [hl, hresp]⟩

/-- Runs from two worlds that differ at most in `registered_clients` answer alike. -/
theorem runAnswers_congr (cfg : Config) (acts : List Action) :
    ∀ {w w' : World}, w.SameButClients w' → runAnswers cfg w acts = runAnswers cfg w' acts := by
  induction acts with
  | nil => intro _ _ _; rfl
  | cons a acts ih =>
    intro w w' h
    obtain ⟨hanswer, hstep⟩ := step_sameButClients cfg h a
    rw [runAnswers, runAnswers, hanswer, ih hstep]

/-- No answer depends on `registered_clients`: in any world, replacing it by any other
dictionary changes no answer of any run from there.  In particular `/authorize` and
`/token` treat a `client_id` that was never registered as one that was. -/
theorem runAnswers_ignore_registeredClients (cfg : Config) (w : World)
    (clients : AList fun _ : String => Client) (acts : List Action) :
    runAnswers cfg w acts =
      runAnswers cfg { w with server := { w.server with registeredClients := clients } } acts :=
  runAnswers_congr cfg acts ⟨rfl, rfl, rfl⟩

end OAuth
end McpProxyFixtures
