import Requests.Selection

/-!
# The selection pass against its specification

The spec states the selection algorithm in three steps: an idle connection, else a new
connection below the limit, else the connection of least cost.  `SpecifiedSelection`
writes those words down as a relation; `async_get_connection` refines it whenever the
cost cannot wrap around.  The synchronous copy agrees with the coroutine except when
`conns_.size() = limit_`, where its `<=` lets it grow one connection past the limit.
-/

namespace Requests

namespace Pool

variable {Endpoint : Type}

/-- The at-limit cost of the spec, `ongoing_requests + (is_open ? 0 : 1)`, without
wrap-around. -/
def specCost (x : Endpoint × Connection) : Nat :=
  x.2.workingRequests.toNat + if x.2.isOpen then 0 else 1

theorem leastUsed_firstMinimal {p : Pool Endpoint} {x : Endpoint × Connection}
    (hw : ∀ y ∈ p.conns, y.2.workingRequests.toNat < 2 ^ 64 - 1)
    (h : p.leastUsed = some x) : FirstMinimal specCost p.conns x :=
  (minElement_firstMinimal _ h).congr fun y hy => cost_eq_of_lt (hw y hy)

variable [DecidableEq Endpoint]

/-- The selection algorithm of the spec, between a pool, a connect outcome, the
completion, and the pool after the call. -/
inductive SpecifiedSelection (p : Pool Endpoint) (connectEc : Option Error) :
    Completion → Pool Endpoint → Prop
  | idle {x : Endpoint × Connection} :
      FirstIdle p.conns x → SpecifiedSelection p connectEc (.success x.2) p
  | noEndpoints :
      (∀ y ∈ p.conns, y.2.workingRequests ≠ 0) → p.conns.length < p.limit →
      p.endpoints = [] → SpecifiedSelection p connectEc (.failure .notFound) p
  | connected {e : Endpoint} {sorted : List Endpoint} {p' : Pool Endpoint} :
      (∀ y ∈ p.conns, y.2.workingRequests ≠ 0) → p.conns.length < p.limit →
      sorted.Perm p.endpoints → sorted.Sorted (fun a b => p.count a ≤ p.count b) →
      e ∈ p.endpoints → (∀ x ∈ p.endpoints, p.count e ≤ p.count x) → connectEc = none →
      p'.host = p.host → p'.endpoints = sorted → p'.limit = p.limit →
      p'.conns.Perm ((e, (makeConnection p.host).connect) :: p.conns) →
      SpecifiedSelection p connectEc (.success (makeConnection p.host).connect) p'
  | connectFailed {e : Endpoint} {sorted : List Endpoint} {err : Error} :
      (∀ y ∈ p.conns, y.2.workingRequests ≠ 0) → p.conns.length < p.limit →
      sorted.Perm p.endpoints → sorted.Sorted (fun a b => p.count a ≤ p.count b) →
      e ∈ p.endpoints → (∀ x ∈ p.endpoints, p.count e ≤ p.count x) →
      connectEc = some err →
      SpecifiedSelection p connectEc (.failure err) { p with endpoints := sorted }
  | leastCost {x : Endpoint × Connection} :
      (∀ y ∈ p.conns, y.2.workingRequests ≠ 0) → p.limit ≤ p.conns.length →
      FirstMinimal specCost p.conns x → SpecifiedSelection p connectEc (.success x.2) p
  | noConnections :
      (∀ y ∈ p.conns, y.2.workingRequests ≠ 0) → p.limit ≤ p.conns.length →
      p.conns = [] → SpecifiedSelection p connectEc (.failure .notFound) p

theorem finishConnect_specified {sort : SortRoutine Endpoint} {p p' : Pool Endpoint}
    {ep : Endpoint} {nconn : Connection} (connectEc : Option Error)
    (hidle : ∀ y ∈ p.conns, y.2.workingRequests ≠ 0) (hlt : p.conns.length < p.limit)
    (hprep : p.prepareConnect sort = some (ep, nconn, p')) :
    SpecifiedSelection p connectEc (p'.finishConnect ep nconn connectEc).1
      (p'.finishConnect ep nconn connectEc).2 := by
  obtain ⟨rfl, rfl, hep, hmin⟩ := prepareConnect_spec hprep
  cases connectEc with
  | none =>
      exact .connected hidle hlt (sort.perm _ _) (sort.sorted _ _) hep hmin rfl rfl rfl rfl
        (List.perm_append_singleton _ _)
  | some err =>
      exact .connectFailed hidle hlt (sort.perm _ _) (sort.sorted _ _) hep hmin rfl

/-- `async_get_connection` implements the selection algorithm of the spec. -/
theorem asyncGetConnection_specified (sort : SortRoutine Endpoint) (connectEc : Option Error)
    (p : Pool Endpoint) (hw : ∀ y ∈ p.conns, y.2.workingRequests.toNat < 2 ^ 64 - 1) :
    SpecifiedSelection p connectEc (p.asyncGetConnection sort none connectEc).1
      (p.asyncGetConnection sort none connectEc).2 := by
  unfold asyncGetConnection AsyncGetConnectionOp.resumeLocked
  rcases hidle : p.findIdle with _ | ⟨k, x⟩
  · have hnone := findIdle_eq_none.mp hidle
    by_cases hlt : p.conns.length < p.limit
    · rcases hprep : p.prepareConnect sort with _ | ⟨ep, nconn, p'⟩
      · simp only [hlt, if_true]
        exact .noEndpoints hnone hlt (prepareConnect_eq_none.mp hprep)
      · simp only [hlt, if_true]
        exact finishConnect_specified connectEc hnone hlt hprep
    · have hle : p.limit ≤ p.conns.length := Nat.le_of_not_lt hlt
      rcases hleast : p.leastUsed with _ | ⟨k, x⟩
      · simp only [hlt, if_false]
        exact .noConnections hnone hle (leastUsed_eq_none.mp hleast)
      · simp only [hlt, if_false]
        exact .leastCost hnone hle (leastUsed_firstMinimal hw hleast)
  · exact .idle (findIdle_eq_some.mp hidle)

theorem asyncGetConnection_specified_busy :
    let p : Pool Nat := ⟨"example.com", [0], 2, [(0, ⟨"example.com", true, 1⟩)]⟩
    (∀ y ∈ p.conns, y.2.workingRequests.toNat < 2 ^ 64 - 1) ∧
      SpecifiedSelection p none (p.asyncGetConnection (SortRoutine.insertion Nat) none none).1
        (p.asyncGetConnection (SortRoutine.insertion Nat) none none).2 :=
  ⟨by decide, asyncGetConnection_specified _ _ _ (by decide)⟩

/-!
# The synchronous copy

`get_connection` grows while `conns_.size() <= limit_`.  Everywhere else it runs the
coroutine's pass without the suspension, so the two agree off that boundary.
-/

theorem getConnection_eq_asyncGetConnection (sort : SortRoutine Endpoint)
    (lockEc connectEc : Option Error) (p : Pool Endpoint) (h : p.conns.length ≠ p.limit) :
    p.getConnection sort lockEc connectEc = p.asyncGetConnection sort lockEc connectEc := by
  have hle : (p.conns.length ≤ p.limit) = (p.conns.length < p.limit) :=
    propext ⟨fun hle => Nat.lt_of_le_of_ne hle h, Nat.le_of_lt⟩
  cases lockEc with
  | some e => rfl
  | none =>
      simp only [getConnection, asyncGetConnection, AsyncGetConnectionOp.resumeLocked, hle]
      split
      · rfl
      · split
        · split <;> rfl
        · split <;> rfl

/-- With one busy connection at `limit_ = 1`, `get_connection` connects a second one,
while `async_get_connection` hands out the busy one. -/
theorem getConnection_grows_past_limit (sort : SortRoutine Nat) :
    let busy : Connection := ⟨"h", true, 1⟩
    let p : Pool Nat := ⟨"h", [0], 1, [(0, busy)]⟩
    (p.getConnection sort none none).2.conns.length = 2 ∧
      p.asyncGetConnection sort none none = (.success busy, p) := by
  simp [getConnection, asyncGetConnection, AsyncGetConnectionOp.resumeLocked, findIdle,
    prepareConnect, leastUsed, minElement]

/-!
# What a handed-out connection is

The pool never reads `timeout()`, and reads `is_open()` only inside the at-limit cost.
A connection it hands out is the one the call has just connected, or a pooled one that
is idle or, at the limit, of least cost, whether or not it is still open.
-/

/-- How a call that hands out `R` leaves the pool `p` as `p'`: `R` is a new connection to
`host_` inserted under an endpoint of `endpoints_`, or a pooled connection that is idle or,
at the limit, of least cost, with `conns_` left as it was. -/
inductive HandedOut (p p' : Pool Endpoint) : Connection → Prop
  | created {ep : Endpoint} : ep ∈ p.endpoints →
      p'.conns = p.conns ++ [(ep, (makeConnection p.host).connect)] →
      HandedOut p p' (makeConnection p.host).connect
  | idle {e : Endpoint} {R : Connection} : (e, R) ∈ p.conns → R.workingRequests = 0 →
      p'.conns = p.conns → HandedOut p p' R
  | leastCost {e : Endpoint} {R : Connection} : (e, R) ∈ p.conns → p.limit ≤ p.conns.length →
      (∀ y ∈ p.conns, cost R ≤ cost y.2) → p'.conns = p.conns → HandedOut p p' R

omit [DecidableEq Endpoint] in
theorem HandedOut.mem {p p' : Pool Endpoint} {R : Connection} (h : HandedOut p p' R) :
    exists key, (key, R) ∈ p'.conns ∧ ((key, R) ∈ p.conns ∨ key ∈ p.endpoints ∧ R.host = p.host) := by
  cases h with
  | @created ep hep hconns => exact ⟨ep, by simp [hconns], .inr ⟨hep, rfl⟩⟩
  | @idle e _ hmem _ hconns => exact ⟨e, hconns ▸ hmem, .inl hmem⟩
  | @leastCost e _ hmem _ _ hconns => exact ⟨e, hconns ▸ hmem, .inl hmem⟩

omit [DecidableEq Endpoint] in
theorem handedOut_of_findIdle {p : Pool Endpoint} {x : Endpoint × Connection}
    (h : p.findIdle = some x) : HandedOut p p x.2 := by
  obtain ⟨pre, post, hconns, h0, -⟩ := findIdle_eq_some.mp h
  exact .idle (show (x.1, x.2) ∈ p.conns by simp [hconns]) h0 rfl

omit [DecidableEq Endpoint] in
theorem handedOut_of_leastUsed {p : Pool Endpoint} {x : Endpoint × Connection}
    (hle : p.limit ≤ p.conns.length) (h : p.leastUsed = some x) : HandedOut p p x.2 :=
  .leastCost (leastUsed_mem h) hle (fun _ hy => (minElement_firstMinimal _ h).le hy) rfl

omit [DecidableEq Endpoint] in
theorem handedOut_of_finishConnect {p p' : Pool Endpoint} {ep : Endpoint}
    {connectEc : Option Error} {R : Connection} (hep : ep ∈ p.endpoints)
    (h : (p'.finishConnect ep (makeConnection p.host) connectEc).1 = .success R)
    (hconns : p'.conns = p.conns) :
    HandedOut p (p'.finishConnect ep (makeConnection p.host) connectEc).2 R := by
  cases connectEc with
  | none =>
      simp only [finishConnect_none, Completion.success, Completion.mk.injEq, Option.some.injEq,
        true_and] at h
      subst h
      exact .created hep (by simp [hconns])
  | some e => cases h

theorem getConnection_handedOut {sort : SortRoutine Endpoint} {lockEc connectEc : Option Error}
    {p : Pool Endpoint} {R : Connection}
    (h : (p.getConnection sort lockEc connectEc).1 = .success R) :
    HandedOut p (p.getConnection sort lockEc connectEc).2 R := by
  cases lockEc with
  | some e => cases h
  | none =>
      rcases getConnection_cases sort connectEc p with
        ⟨x, hidle, hr⟩ | ⟨-, -, -, hr⟩ | ⟨-, -, ep, nconn, p', hprep, hr⟩ | ⟨-, -, -, hr⟩ |
          ⟨-, hlt, x, hleast, hr⟩ <;>
        rw [hr] at h ⊢
      · cases h
        exact handedOut_of_findIdle hidle
      · cases h
      · obtain ⟨rfl, rfl, hep, -⟩ := prepareConnect_spec hprep
        exact handedOut_of_finishConnect hep h rfl
      · cases h
      · cases h
        exact handedOut_of_leastUsed (Nat.le_of_lt hlt) hleast

theorem resumeLocked_handedOut {sort : SortRoutine Endpoint} {p p' : Pool Endpoint}
    {R : Connection}
    (h : AsyncGetConnectionOp.resumeLocked sort p = (.returned (.success R), p')) :
    HandedOut p p' R := by
  rcases AsyncGetConnectionOp.resumeLocked_cases sort p with
    ⟨x, hidle, hr⟩ | ⟨-, -, -, hr⟩ | ⟨-, -, _, _, _, _, hr⟩ | ⟨-, -, -, hr⟩ |
      ⟨-, hle, x, hleast, hr⟩ <;>
    rw [hr, Prod.mk.injEq] at h <;> obtain ⟨h, rfl⟩ := h <;> cases h
  · exact handedOut_of_findIdle hidle
  · exact handedOut_of_leastUsed hle hleast

end Pool

end Requests
