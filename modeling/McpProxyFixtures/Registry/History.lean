import McpProxyFixtures.Registry.Pagination

/-!
# Every reachable state of the registry, and clients that interleave

`get_server_details` assigns `packages` on the shared entry of `FAKE_SERVERS` it returns;
it is the only handler that changes anything.  Neither handler awaits, so each request runs
as one step.  This module describes every state the registry reaches, what each endpoint
answers there, and what a client following `next_cursor` sees while other clients' requests
run between its calls.

Main results:

- Theorem {lit}`afterHistory_eq_markDetails`: after any history the entries are those of
  `FAKE_SERVERS`, in order, with packages assigned to exactly the entries whose details were
  requested.
- Theorem {lit}`serverDetails_history_independent`: `get_server_details` answers the same in
  every reachable state.
- Theorem {lit}`listServers_afterHistory`: `list_servers` in a reachable state answers with
  its pages on `FAKE_SERVERS`, the requested entries with their packages.
- Theorem {lit}`paginateAmid_sameIds`: whatever requests run between its calls, a client
  following `next_cursor` ends as a client alone would, with pages of the same ids and
  metadata.
- Theorem {lit}`paginateAmid_lists_every_id_once`: with a positive limit, on distinct
  non-empty ids, such a client gets every id exactly once, in order.
-/

namespace McpProxyFixtures
namespace Registry

open Python

/-! ## Attaching details -/

/-- An entry as `get_server_details` leaves it, with its package list assigned. -/
def withDetails (server : ServerEntry) : ServerEntry :=
  { server with packages := some (detailsPackages server) }

/-- The ids whose details a history of requests asked for, in order. -/
def detailIds : List Request → List String
  | [] => []
  | .serverDetails serverId :: rest => serverId :: detailIds rest
  | .listServers _ _ :: rest => detailIds rest

/-- The entries, with the packages of every entry whose id is in `ids` assigned. -/
def markDetails (ids : List String) (servers : List ServerEntry) : List ServerEntry :=
  servers.map fun server => if server.id ∈ ids then withDetails server else server

@[simp]
theorem withDetails_id (server : ServerEntry) : (withDetails server).id = server.id :=
  rfl

/-- `detailsPackages` reads the name and the version, which the assignment keeps: assigning
twice is assigning once. -/
@[simp]
theorem withDetails_withDetails (server : ServerEntry) :
    withDetails (withDetails server) = withDetails server :=
  rfl

theorem detailIds_cons (r : Request) (rest : List Request) :
    detailIds (r :: rest) = detailIds [r] ++ detailIds rest := by
  cases r <;> rfl

@[simp]
theorem markDetails_nil (servers : List ServerEntry) : markDetails [] servers = servers := by
  simp [markDetails]

@[simp]
theorem markDetails_ids (ids : List String) (servers : List ServerEntry) :
    (markDetails ids servers).map (·.id) = servers.map (·.id) := by
  rw [markDetails, List.map_map]
  exact List.map_congr_left fun server _ => by by_cases h : server.id ∈ ids <;> simp [h]

/-! ## One request -/

theorem handle_listServers_snd (servers : List ServerEntry) (limit : Option Int)
    (cursor : Option String) : (handle servers (.listServers limit cursor)).2 = servers := by
  simp only [handle]
  split
  · rfl
  · split <;> rfl

/-- No request changes an id or the order of the entries. -/
theorem handle_ids (servers : List ServerEntry) (r : Request) :
    (handle servers r).2.map (·.id) = servers.map (·.id) := by
  cases r with
  | listServers limit cursor => rw [handle_listServers_snd]
  | serverDetails serverId => rw [handle_serverDetails, getServerDetails_ids]

/-- On distinct ids, `get_server_details` returns the entry with the id, with its details,
and assigns them to that entry alone. -/
theorem getServerDetails_of_nodup {servers : List ServerEntry}
    (hnd : (servers.map (·.id)).Nodup) (serverId : String) :
    getServerDetails servers serverId =
      ((servers.find? (·.id = serverId)).map withDetails,
        servers.map fun server => if server.id = serverId then withDetails server else server) := by
  induction servers with
  | nil => rfl
  | cons server rest ih =>
    rw [List.map_cons, List.nodup_cons] at hnd
    by_cases h : server.id = serverId
    · subst h
      have hrest : (rest.map fun s => if s.id = server.id then withDetails s else s) = rest :=
        (List.map_congr_left fun s hs => if_neg fun hs' : s.id = server.id =>
          hnd.1 (by rw [← hs']; exact List.mem_map_of_mem _ hs)).trans (List.map_id _)
      simp [getServerDetails, hrest]
      rfl
    · simp [getServerDetails, h, ih hnd.2]

/-- On distinct ids, one request on a state with the details of `ids` assigned: a details
request adds its id, a list request changes nothing. -/
theorem handle_markDetails {base : List ServerEntry} (hnd : (base.map (·.id)).Nodup)
    (ids : List String) (r : Request) :
    (handle (markDetails ids base) r).2 = markDetails (ids ++ detailIds [r]) base := by
  cases r with
  | listServers limit cursor => simp [handle_listServers_snd, detailIds]
  | serverDetails serverId =>
    rw [handle_serverDetails, getServerDetails_of_nodup (by rwa [markDetails_ids]),
      markDetails, markDetails, List.map_map]
    refine List.map_congr_left fun server _ => ?_
    by_cases h2 : server.id = serverId
    · subst h2
      by_cases h1 : server.id ∈ ids <;> simp [h1, detailIds]
    · by_cases h1 : server.id ∈ ids <;> simp [h1, h2, detailIds]

/-! ## Every reachable state -/

/-- On distinct ids, a history of requests assigns the details of exactly the ids it asked
for. -/
theorem foldl_handle_markDetails {base : List ServerEntry} (hnd : (base.map (·.id)).Nodup)
    (history : List Request) (ids : List String) :
    history.foldl (fun servers r => (handle servers r).2) (markDetails ids base) =
      markDetails (ids ++ detailIds history) base := by
  induction history generalizing ids with
  | nil => simp [detailIds]
  | cons r rest ih =>
    rw [List.foldl_cons, handle_markDetails hnd, ih, List.append_assoc, ← detailIds_cons]

/-- Every reachable state of the registry is `FAKE_SERVERS` with packages assigned to
exactly the entries whose details some request asked for; no other field of an entry, no
id and no position ever changes. -/
theorem afterHistory_eq_markDetails (history : List Request) :
    afterHistory history = markDetails (detailIds history) fakeServers := by
  simpa using foldl_handle_markDetails fakeServers_wellKeyed.nodup history []

/-- `get_server_details` answers the same in every reachable state: the entry of
`FAKE_SERVERS` with the id, with its details, or 404. -/
theorem serverDetails_history_independent (history : List Request) (serverId : String) :
    (handle (afterHistory history) (.serverDetails serverId)).1 =
      (handle fakeServers (.serverDetails serverId)).1 := by
  have hnd := fakeServers_wellKeyed.nodup
  have hstate : afterHistory history = markDetails (detailIds history) fakeServers := by
    simpa using foldl_handle_markDetails hnd history []
  rw [hstate, handle_serverDetails, handle_serverDetails,
    getServerDetails_of_nodup (by rwa [markDetails_ids]), getServerDetails_of_nodup hnd]
  simp only [markDetails, List.find?_map, Option.map_map]
  congr 3 <;> funext server <;> by_cases h : server.id ∈ detailIds history <;> simp [h]

/-- `list_servers` reads ids and positions only: on entries changed by a map that keeps
ids it answers with the same pages, changed by the map. -/
theorem listServers_map (f : ServerEntry → ServerEntry) (hf : ∀ server, (f server).id = server.id)
    (servers : List ServerEntry) (limit : Int) (cursor : Option String) :
    listServers (servers.map f) limit cursor =
      (listServers servers limit cursor).map fun r => ⟨r.servers.map f, r.metadata⟩ := by
  have hstart : startIndex (servers.map f) cursor = startIndex servers cursor := by
    unfold startIndex
    simp [Function.comp_def, hf]
  simp only [listServers, hstart, List.length_map, pySlice_map, pyGetItem_map]
  split_ifs <;> simp [Option.map_map, Function.comp_def, hf]

/-- In every reachable state `list_servers` answers with its pages on `FAKE_SERVERS`, each
listed entry with its packages assigned exactly when its details were requested. -/
theorem listServers_afterHistory (history : List Request) (limit : Int) (cursor : Option String) :
    listServers (afterHistory history) limit cursor =
      (listServers fakeServers limit cursor).map fun r =>
        ⟨markDetails (detailIds history) r.servers, r.metadata⟩ := by
  have hstate : afterHistory history = markDetails (detailIds history) fakeServers := by
    simpa using foldl_handle_markDetails fakeServers_wellKeyed.nodup history []
  rw [hstate]
  exact listServers_map _ (fun server => by split <;> rfl) _ _ _

/-! ## A client among other clients -/

/-- The client loop while other clients' requests run between its calls: before each of its
calls the registry handles the next batch of `schedule`, and the loop makes at most one
call per batch. -/
def paginateAmid (limit : Int) :
    List (List Request) → List ServerEntry → Option String → Pagination
  | [], _, _ => .outOfFuel
  | batch :: schedule, servers, cursor =>
    let servers := batch.foldl (fun servers r => (handle servers r).2) servers
    match listServers servers limit cursor with
    | none => .raised
    | some page =>
      match page.metadata.nextCursor with
      | none => .done [page]
      | some next =>
        match paginateAmid limit schedule servers (some next) with
        | .done pages => .done (page :: pages)
        | outcome => outcome

/-- What a page shows of the order of the entries: their ids, and the page's metadata. -/
def ServersResponse.ids (page : ServersResponse) : List String × Metadata :=
  (page.servers.map (·.id), page.metadata)

/-- Two endings of the client loop that agree up to the entries' fields other than the id:
both raise, both run out of calls, or both end with pages of the same ids and metadata. -/
def Pagination.SameIds : Pagination → Pagination → Prop
  | .done pages, .done pages' => pages.map ServersResponse.ids = pages'.map ServersResponse.ids
  | .raised, .raised => True
  | .outOfFuel, .outOfFuel => True
  | _, _ => False

theorem Pagination.sameIds_outOfFuel {o : Pagination} (h : o.SameIds .outOfFuel) :
    o = .outOfFuel := by
  cases o <;> simp_all [Pagination.SameIds]

theorem Pagination.sameIds_done {o : Pagination} {pages : List ServersResponse}
    (h : o.SameIds (.done pages)) :
    ∃ pages', o = .done pages' ∧ pages'.map ServersResponse.ids = pages.map ServersResponse.ids := by
  cases o <;> simp_all [Pagination.SameIds]

/-- A batch of requests changes no id. -/
theorem foldl_handle_ids (batch : List Request) (servers : List ServerEntry) :
    (batch.foldl (fun servers r => (handle servers r).2) servers).map (·.id) =
      servers.map (·.id) := by
  induction batch generalizing servers with
  | nil => rfl
  | cons r rest ih => rw [List.foldl_cons, ih, handle_ids]

theorem startIndex_congr {servers servers' : List ServerEntry}
    (h : servers.map (·.id) = servers'.map (·.id)) (cursor : Option String) :
    startIndex servers cursor = startIndex servers' cursor := by
  have hfind : ∀ c, servers.findIdx? (·.id = c) = servers'.findIdx? (·.id = c) := fun c => by
    simpa [Function.comp_def] using congrArg (List.findIdx? (· = c)) h
  unfold startIndex
  simp only [hfind]

/-- `list_servers` reads ids and positions only: on two entry lists with the same ids it
raises on both, or answers both with pages of the same ids and metadata. -/
theorem listServers_ids {servers servers' : List ServerEntry}
    (h : servers.map (·.id) = servers'.map (·.id)) (limit : Int) (cursor : Option String) :
    (listServers servers limit cursor).map ServersResponse.ids =
      (listServers servers' limit cursor).map ServersResponse.ids := by
  have hlen : servers.length = servers'.length := by simpa using congrArg List.length h
  have hslice : ∀ a b, (pySlice servers a b).map (·.id) = (pySlice servers' a b).map (·.id) :=
    fun a b => by rw [← pySlice_map, ← pySlice_map, h]
  have hget : ∀ i, (pyGetItem servers i).map (·.id) = (pyGetItem servers' i).map (·.id) :=
    fun i => by rw [← pyGetItem_map, ← pyGetItem_map, h]
  have hpage : ∀ {o o' : Option ServerEntry} {page page' : List ServerEntry},
      o.map (·.id) = o'.map (·.id) → page.map (·.id) = page'.map (·.id) →
      (o.map fun last => (⟨page, ⟨some last.id, page.length⟩⟩ : ServersResponse)).map
          ServersResponse.ids =
        (o'.map fun last => (⟨page', ⟨some last.id, page'.length⟩⟩ : ServersResponse)).map
          ServersResponse.ids := by
    intro o o' page page' ho hp
    have hl : page.length = page'.length := by simpa using congrArg List.length hp
    cases o <;> cases o' <;> simp_all [ServersResponse.ids]
  simp only [listServers, startIndex_congr h, hlen]
  split_ifs
  · exact hpage (hget _) (hslice _ _)
  · simpa [ServersResponse.ids] using
      ⟨hslice _ _, by simpa using congrArg List.length (hslice _ _)⟩

/-- A client among other clients ends as a client alone on entries with the same ids: each
call reads the same ids, whatever the requests between the calls. -/
theorem paginateAmid_sameIds_of_ids (limit : Int) (schedule : List (List Request)) :
    ∀ {servers servers' : List ServerEntry}, servers.map (·.id) = servers'.map (·.id) →
      ∀ cursor, (paginateAmid limit schedule servers cursor).SameIds
        (paginate servers' limit schedule.length cursor) := by
  induction schedule with
  | nil => intro _ _ _ _; trivial
  | cons batch schedule ih =>
    intro servers servers' h cursor
    simp only [paginateAmid, paginate, List.length_cons]
    generalize hs1 : batch.foldl (fun servers r => (handle servers r).2) servers = s1
    have h1 : s1.map (·.id) = servers'.map (·.id) := by
      rw [← h, ← hs1, foldl_handle_ids batch servers]
    have hl := listServers_ids h1 limit cursor
    cases hA : listServers s1 limit cursor <;> cases hB : listServers servers' limit cursor <;>
      rw [hA, hB] at hl
    · trivial
    · cases hl
    · cases hl
    · next page page' =>
      have hp := Option.some.inj hl
      have hmeta : page.metadata = page'.metadata := congrArg Prod.snd hp
      simp only [hmeta]
      cases page'.metadata.nextCursor with
      | none => simp [Pagination.SameIds, hp]
      | some next =>
        dsimp only
        have hrest := ih h1 (some next)
        generalize paginateAmid limit schedule s1 (some next) = o at hrest ⊢
        generalize paginate servers' limit schedule.length (some next) = o' at hrest ⊢
        cases o <;> cases o' <;> dsimp only [Pagination.SameIds] at hrest ⊢
        rw [List.map_cons, List.map_cons, hrest, hp]

/-- Whatever requests other clients make between its calls, a client following
`next_cursor` ends as a client alone would: it raises, runs out of calls, or ends with pages
of the same ids, cursors and counts, for every entry list, limit and cursor. -/
theorem paginateAmid_sameIds (limit : Int) (schedule : List (List Request))
    (servers : List ServerEntry) (cursor : Option String) :
    (paginateAmid limit schedule servers cursor).SameIds
      (paginate servers limit schedule.length cursor) :=
  paginateAmid_sameIds_of_ids limit schedule rfl cursor

/-- With a positive limit, on distinct non-empty ids, a client following `next_cursor`
while any other requests run between its calls needs `max 1 ⌈n / limit⌉` calls: with fewer
it runs out, and otherwise its pages list every id exactly once, in order, each page's count
being its length. -/
theorem paginateAmid_lists_every_id_once {servers : List ServerEntry} (hw : WellKeyed servers)
    {limit : Int} (hl : 1 ≤ limit) (schedule : List (List Request)) :
    (schedule.length < max 1 ((servers.length + limit.toNat - 1) / limit.toNat) →
        paginateAmid limit schedule servers none = .outOfFuel) ∧
      (max 1 ((servers.length + limit.toNat - 1) / limit.toNat) ≤ schedule.length →
        ∃ pages, paginateAmid limit schedule servers none = .done pages ∧
          pages.length = max 1 ((servers.length + limit.toNat - 1) / limit.toNat) ∧
          (pages.map (·.servers)).flatten.map (·.id) = servers.map (·.id) ∧
          ∀ page ∈ pages, page.metadata.count = page.servers.length) := by
  obtain ⟨l, rfl⟩ : ∃ l : Nat, limit = l := ⟨limit.toNat, by omega⟩
  obtain ⟨pages, hrun, hlen, hflat, hcount⟩ :=
    paginate_cursorAt hw (show 1 ≤ l by omega) 0 (Nat.zero_le _)
  have hsame := paginateAmid_sameIds_of_ids (l : Int) schedule
    (rfl : servers.map (·.id) = servers.map (·.id)) none
  rw [show none = cursorAt servers 0 from rfl, hrun] at hsame
  simp only [Nat.sub_zero, Int.toNat_ofNat, List.drop_zero] at hsame hlen hflat ⊢
  refine ⟨fun hlt => ?_, fun hle => ?_⟩
  · rw [if_pos hlt] at hsame
    exact Pagination.sameIds_outOfFuel hsame
  · rw [if_neg (by omega)] at hsame
    obtain ⟨pages', hrun', hmap⟩ := Pagination.sameIds_done hsame
    have hfst := congrArg (List.map Prod.fst) hmap
    simp only [List.map_map, Function.comp_def, ServersResponse.ids] at hfst
    refine ⟨pages', hrun', by simpa [hlen] using congrArg List.length hmap, ?_, ?_⟩
    · rw [← hflat, List.map_flatten, List.map_flatten, List.map_map, List.map_map]
      exact congrArg List.flatten hfst
    · intro page' hpage'
      obtain ⟨page, hpage, hids⟩ : ∃ page ∈ pages, page.ids = page'.ids :=
        List.mem_map.mp (hmap ▸ List.mem_map_of_mem ServersResponse.ids hpage')
      have hsize : page.servers.length = page'.servers.length := by
        simpa [ServersResponse.ids] using congrArg (fun x => x.1.length) hids
      have hmeta : page.metadata = page'.metadata := congrArg Prod.snd hids
      rw [← hmeta, ← hsize]
      exact hcount page hpage

/-- On `FAKE_SERVERS` with `limit=4`, with another client's details request before the
second call: three calls, and every id once. -/
theorem paginateAmid_fakeServers_by_four :
    WellKeyed fakeServers ∧ (1 : Int) ≤ 4 ∧
      ∃ pages, paginateAmid 4 [[], [.serverDetails "01129bff-3d65-4e3d-8e82-6f2f269f818c"], []]
          fakeServers none = .done pages ∧ pages.length = 3 ∧
        (pages.map (·.servers)).flatten.map (·.id) = fakeServers.map (·.id) := by
  obtain ⟨pages, hrun, hlen, hids, -⟩ := (paginateAmid_lists_every_id_once fakeServers_wellKeyed
    (by decide : (1 : Int) ≤ 4)
    [[], [.serverDetails "01129bff-3d65-4e3d-8e82-6f2f269f818c"], []]).2 (by decide)
  exact ⟨fakeServers_wellKeyed, by decide, pages, hrun, hlen.trans (by decide), hids⟩

end Registry
end McpProxyFixtures
