import Mathlib.Data.List.Nodup
import McpProxyFixtures.Registry.Server

/-!
# Following the cursor chain of `GET /v0/servers`

A client lists the registry by calling `list_servers(limit, None)` and then
`list_servers(limit, next_cursor)` until `next_cursor` is `None`.  The cursor is the id of
the last entry of the page, and the next call starts just past the first entry with that
id.  With non-empty, distinct ids and a positive limit the chain walks the list page by
page; with a limit of zero or less `end_idx - 1` can be negative, Python's negative
indexing takes over, and the chain can fail or never end.

Main results:

- Theorem {lit}`paginate_lists_every_entry_once`: for a positive limit the loop ends after
  `max 1 ⌈n / limit⌉` calls, its pages concatenate to the list, and each page's count is
  its length.
- Theorem {lit}`listServers_none_of_le_neg_length`: a limit of minus the list's length or
  less makes the first call raise.
- Theorem {lit}`paginate_minus_one_never_ends`: with `limit = -1` the chain never reaches
  `None` on a list of two entries or more.
- Theorem {lit}`listServers_nonpositive_limit_fails`: on `FAKE_SERVERS`, `limit=-100`
  raises `IndexError` and `limit=-1` loops forever; FastAPI admits both.
-/

namespace McpProxyFixtures
namespace Registry

open Python

/-- How a client's pagination loop ends: with its pages, with a call that raised, or not
within the calls allowed. -/
inductive Pagination where
  | done (pages : List ServersResponse)
  | raised
  | outOfFuel
deriving DecidableEq

/-- The client loop: `list_servers(limit, cursor)`, then again with `next_cursor` while it
is not `None`, making at most `fuel` calls. -/
def paginate (servers : List ServerEntry) (limit : Int) : Nat → Option String → Pagination
  | 0, _ => .outOfFuel
  | fuel + 1, cursor =>
    match listServers servers limit cursor with
    | none => .raised
    | some page =>
      match page.metadata.nextCursor with
      | none => .done [page]
      | some next =>
        match paginate servers limit fuel (some next) with
        | .done pages => .done (page :: pages)
        | outcome => outcome

section Steps

variable {servers : List ServerEntry} {limit : Int} {cursor : Option String}
  {page : ServersResponse}

@[simp]
theorem paginate_zero : paginate servers limit 0 cursor = .outOfFuel :=
  rfl

/-- A page with a cursor: the loop goes on from it, and the page heads what it finds. -/
theorem paginate_succ_of_next {next : String} (fuel : Nat)
    (h : listServers servers limit cursor = some page) (hn : page.metadata.nextCursor = some next) :
    paginate servers limit (fuel + 1) cursor =
      match paginate servers limit fuel (some next) with
      | .done pages => .done (page :: pages)
      | outcome => outcome := by
  rw [paginate, h]
  simp only [hn]

/-- A page without a cursor ends the loop. -/
theorem paginate_succ_of_last (fuel : Nat) (h : listServers servers limit cursor = some page)
    (hn : page.metadata.nextCursor = none) :
    paginate servers limit (fuel + 1) cursor = .done [page] := by
  rw [paginate, h]
  simp only [hn]

end Steps

/-- While entries remain after the next page, the loop from `s` makes one call more than
the loop from `s + limit`. -/
theorem calls_of_lt {n s limit : Nat} (hl : 1 ≤ limit) (hlt : s + limit < n) :
    max 1 ((n - s + limit - 1) / limit) = max 1 ((n - (s + limit) + limit - 1) / limit) + 1 := by
  have h1 : n - s + limit - 1 = (n - (s + limit) + limit - 1) + limit := by omega
  have h2 : 1 ≤ (n - (s + limit) + limit - 1) / limit :=
    (Nat.le_div_iff_mul_le (by omega)).mpr (by omega)
  rw [h1, Nat.add_div_right _ (by omega)]
  omega

/-- When the next page reaches the end, the loop from `s` makes one call. -/
theorem calls_of_le {n s limit : Nat} (hl : 1 ≤ limit) (hle : n ≤ s + limit) :
    max 1 ((n - s + limit - 1) / limit) = 1 := by
  have : (n - s + limit - 1) / limit < 2 := (Nat.div_lt_iff_lt_mul (by omega)).mpr (by omega)
  omega

/-- The ids of a list of entries are non-empty and pairwise distinct. -/
structure WellKeyed (servers : List ServerEntry) : Prop where
  nonempty : ∀ e ∈ servers, e.id ≠ ""
  nodup : (servers.map (·.id)).Nodup

/-- The cursor that makes `list_servers` start at index `s`: none at the start, the id of
the entry before `s` otherwise. -/
def cursorAt (servers : List ServerEntry) (s : Nat) : Option String :=
  if s = 0 then none else servers[s - 1]?.map (·.id)

/-- `list_servers` when the page ends before the list does: `next_cursor` is the id read
at `end_idx - 1`, with Python's indexing. -/
theorem listServers_of_lt {servers : List ServerEntry} {limit : Int} {cursor : Option String}
    (h : (startIndex servers cursor : Int) + limit < servers.length) :
    listServers servers limit cursor =
      (pyGetItem servers (startIndex servers cursor + limit - 1)).map fun last =>
        ⟨pySlice servers (startIndex servers cursor) (startIndex servers cursor + limit),
          ⟨some last.id, (pySlice servers (startIndex servers cursor)
            (startIndex servers cursor + limit)).length⟩⟩ := by
  simp only [listServers, min_eq_left h.le, h, if_true]

/-- A negative limit of at most minus the list's length makes the first call raise
{lit}`IndexError`. -/
theorem listServers_none_of_le_neg_length {servers : List ServerEntry} {limit : Int}
    (hneg : limit < 0) (hl : limit + servers.length ≤ 0) :
    listServers servers limit none = none := by
  have h0 : startIndex servers none = 0 := rfl
  rw [listServers_of_lt (by rw [h0]; omega), h0, pyGetItem_eq_none servers (by omega)]
  rfl

section WellKeyed

variable {servers : List ServerEntry} (hw : WellKeyed servers)
include hw

/-- The cursor of an entry makes the next call start just past it. -/
theorem startIndex_id {j : Nat} (hj : j < servers.length) :
    startIndex servers (some servers[j].id) = j + 1 := by
  have hne : servers[j].id ≠ "" := hw.nonempty _ (List.getElem_mem hj)
  have hfind : servers.findIdx? (·.id = servers[j].id) = some j := by
    refine List.findIdx?_eq_some_iff_getElem.mpr ⟨hj, by simp, fun k hkj => ?_⟩
    have hinj := (@List.Nodup.getElem_inj_iff _ _ hw.nodup k (by simp; omega) j
      (by simpa using hj)).mp
    simp only [List.getElem_map] at hinj
    simpa using fun h => absurd (hinj h) (by omega)
  simp [startIndex, hne, hfind]

theorem startIndex_cursorAt {s : Nat} (hs : s ≤ servers.length) :
    startIndex servers (cursorAt servers s) = s := by
  unfold cursorAt
  split
  · next h => subst h; rfl
  · rw [List.getElem?_eq_getElem (by omega), Option.map_some', startIndex_id hw (by omega)]
    omega

/-- One call from index `s` with a positive limit returns the next `limit` entries, and
the cursor of index `s + limit` while entries remain after them. -/
theorem listServers_cursorAt {limit : Nat} (hl : 1 ≤ limit) {s : Nat} (hs : s ≤ servers.length) :
    listServers servers limit (cursorAt servers s) =
      some ⟨(servers.drop s).take limit,
        ⟨if s + limit < servers.length then cursorAt servers (s + limit) else none,
          ((servers.drop s).take limit).length⟩⟩ := by
  unfold listServers
  simp only [startIndex_cursorAt hw hs]
  by_cases hlt : s + limit < servers.length
  · have hend : min ((s : Int) + limit) servers.length = ((s + limit : Nat) : Int) := by omega
    have hlast : ((s + limit : Nat) : Int) - 1 = ((s + limit - 1 : Nat) : Int) := by omega
    rw [hend, if_pos (Int.ofNat_lt.mpr hlt), if_pos hlt, hlast, pyGetItem_of_nonneg,
      pySlice_of_le servers hlt.le, Nat.add_sub_cancel_left, cursorAt, if_neg (by omega),
      List.getElem?_eq_getElem (by omega)]
    rfl
  · have hend : min ((s : Int) + limit) servers.length = ((servers.length : Nat) : Int) := by
      omega
    rw [hend, if_neg (lt_irrefl _), if_neg hlt, pySlice_of_le servers le_rfl,
      List.take_of_length_le (by simp), List.take_of_length_le (by simp; omega)]

/-- From index `s`, the loop with a positive limit ends after `max 1 ⌈(n - s) / limit⌉`
calls, with pages that concatenate to the entries from `s` on. -/
theorem paginate_cursorAt {limit : Nat} (hl : 1 ≤ limit) (s : Nat) (hs : s ≤ servers.length) :
    ∃ pages, (∀ fuel, paginate servers limit fuel (cursorAt servers s) =
        if fuel < max 1 ((servers.length - s + limit - 1) / limit) then .outOfFuel
        else .done pages) ∧
      pages.length = max 1 ((servers.length - s + limit - 1) / limit) ∧
      (pages.map (·.servers)).flatten = servers.drop s ∧
      ∀ page ∈ pages, page.metadata.count = page.servers.length := by
  obtain ⟨m, hm⟩ : ∃ m, servers.length - s = m := ⟨_, rfl⟩
  induction m using Nat.strong_induction_on generalizing s with
  | _ m ih =>
    subst hm
    have hone := listServers_cursorAt hw hl hs
    by_cases hlt : s + limit < servers.length
    · have hcur : cursorAt servers (s + limit) = some servers[s + limit - 1].id := by
        have hidx : s + limit - 1 < servers.length := by omega
        rw [cursorAt, if_neg (by omega), List.getElem?_eq_getElem hidx, Option.map_some']
      have hcalls := calls_of_lt hl hlt
      rw [if_pos hlt] at hone
      obtain ⟨pages, hrun, hlen, hflat, hcount⟩ := ih _ (by omega) (s + limit) hlt.le rfl
      refine ⟨⟨(servers.drop s).take limit, ⟨cursorAt servers (s + limit),
        ((servers.drop s).take limit).length⟩⟩ :: pages, fun fuel => ?_,
        by rw [List.length_cons, hlen, hcalls], ?_, List.forall_mem_cons.mpr ⟨rfl, hcount⟩⟩
      · cases fuel with
        | zero => rw [paginate_zero, if_pos (by omega)]
        | succ fuel =>
          rw [paginate_succ_of_next fuel hone hcur, ← hcur, hrun fuel, hcalls]
          split_ifs <;> first | rfl | omega
      · rw [List.map_cons, List.flatten_cons, hflat, ← List.drop_drop, List.take_append_drop]
    · have hcalls := calls_of_le hl (Nat.le_of_not_lt hlt)
      rw [if_neg hlt] at hone
      refine ⟨[⟨(servers.drop s).take limit, ⟨none, ((servers.drop s).take limit).length⟩⟩],
        fun fuel => ?_, by rw [hcalls]; rfl, ?_, by simp⟩
      · cases fuel with
        | zero => rw [paginate_zero, if_pos (by omega)]
        | succ fuel => rw [paginate_succ_of_last fuel hone rfl, hcalls, if_neg (by omega)]
      · rw [List.map_singleton, List.flatten_singleton]
        exact List.take_of_length_le (by rw [List.length_drop]; omega)

/-- The client loop with a positive limit makes `max 1 ⌈n / limit⌉` calls; its pages
concatenate to the list and each page's count is its length. -/
theorem paginate_lists_every_entry_once {limit : Int} (hl : 1 ≤ limit) :
    ∃ pages, (∀ fuel, paginate servers limit fuel none =
        if fuel < max 1 ((servers.length + limit.toNat - 1) / limit.toNat) then .outOfFuel
        else .done pages) ∧
      pages.length = max 1 ((servers.length + limit.toNat - 1) / limit.toNat) ∧
      (pages.map (·.servers)).flatten = servers ∧
      ∀ page ∈ pages, page.metadata.count = page.servers.length := by
  obtain ⟨l, rfl⟩ : ∃ l : Nat, limit = l := ⟨limit.toNat, by omega⟩
  simpa [cursorAt] using paginate_cursorAt hw (show 1 ≤ l by omega) 0 (Nat.zero_le _)

/-- With `limit = -1`, a call from `None` or from an entry's id answers with the id of
an entry as `next_cursor`. -/
theorem listServers_minus_one_next (hn : 2 ≤ servers.length) {cursor : Option String}
    (hc : cursor = none ∨ ∃ j, ∃ hj : j < servers.length, cursor = some servers[j].id) :
    ∃ page, listServers servers (-1) cursor = some page ∧
      ∃ j, ∃ hj : j < servers.length, page.metadata.nextCursor = some servers[j].id := by
  rcases hc with rfl | ⟨j, hj, rfl⟩
  · have h0 : startIndex servers none = 0 := rfl
    rw [listServers_of_lt (by rw [h0]; omega), h0,
      pyGetItem_eq_getElem servers (show servers.length - 2 < servers.length by omega)
        (.inr (by omega))]
    exact ⟨_, rfl, _, _, rfl⟩
  · rw [listServers_of_lt (by rw [startIndex_id hw hj]; omega), startIndex_id hw hj]
    rcases Nat.eq_zero_or_pos j with rfl | hpos
    · rw [pyGetItem_eq_getElem servers (show servers.length - 1 < servers.length by omega)
        (.inr (by omega))]
      exact ⟨_, rfl, _, _, rfl⟩
    · rw [pyGetItem_eq_getElem servers (show j - 1 < servers.length by omega) (.inl (by omega))]
      exact ⟨_, rfl, _, _, rfl⟩

/-- With `limit = -1` the cursor chain from `None` never reaches `None` on a list of two
entries or more: every number of calls runs out. -/
theorem paginate_minus_one_never_ends (hn : 2 ≤ servers.length) (fuel : Nat) :
    paginate servers (-1) fuel none = .outOfFuel := by
  suffices h : ∀ fuel cursor, (cursor = none ∨
      ∃ j, ∃ hj : j < servers.length, cursor = some servers[j].id) →
      paginate servers (-1) fuel cursor = .outOfFuel from h fuel none (.inl rfl)
  intro fuel
  induction fuel with
  | zero => intro _ _; rfl
  | succ fuel ih =>
    intro cursor hc
    obtain ⟨page, hpage, j, hj, hnext⟩ := listServers_minus_one_next hw hn hc
    rw [paginate, hpage]
    simp only [hnext, ih _ (.inr ⟨j, hj, rfl⟩)]

end WellKeyed

/-! ## On {lit}`FAKE_SERVERS` -/

/-- The ids of `FAKE_SERVERS` are non-empty and distinct. -/
theorem fakeServers_wellKeyed : WellKeyed fakeServers := ⟨by decide, by decide⟩

/-- `FAKE_SERVERS` with `limit=4`: three calls. -/
theorem paginate_fakeServers_by_four :
    WellKeyed fakeServers ∧ (1 : Int) ≤ 4 ∧
      ∃ pages, (∀ fuel, paginate fakeServers 4 fuel none =
          if fuel < 3 then .outOfFuel else .done pages) ∧
        pages.length = 3 ∧ (pages.map (·.servers)).flatten = fakeServers ∧
        ∀ page ∈ pages, page.metadata.count = page.servers.length :=
  ⟨fakeServers_wellKeyed, by decide, paginate_lists_every_entry_once fakeServers_wellKeyed (by decide)⟩

/-- FastAPI admits `limit=-100`, and the call raises {lit}`IndexError` (a 500 answer); it
admits `limit=-1`, and the client loop never ends. -/
theorem listServers_nonpositive_limit_fails :
    (handle fakeServers (.listServers (some (-100)) none)).1 = .internalError ∧
      validateLimit (some (-1)) = some (-1) ∧
      ∀ fuel, paginate fakeServers (-1) fuel none = .outOfFuel := by
  have hraise : listServers fakeServers (-100) none = none :=
    listServers_none_of_le_neg_length (by decide) (by decide)
  exact ⟨by simp [handle, validateLimit, hraise], rfl,
    paginate_minus_one_never_ends fakeServers_wellKeyed (by decide)⟩


end Registry
end McpProxyFixtures
