import Requests.Growth
import Requests.SelectionSpec

/-!
# What a caller is handed

A caller completes with a connection at the step that selects it: when a coroutine takes the
mutex and finds a pooled connection, when its `async_connect` completes, or when a
synchronous call returns.  The selection reads `working_requests()` and, at the limit, the
cost, but never `timeout()`, and `is_open()` only inside the cost; so a pooled connection
that the environment has closed is handed out again.  Nothing evicts a connection from
`conns_` either, and a lookup replaces `endpoints_` and `host_` without touching `conns_`:
a handed-out connection's key and host come from the resolution that was current when it
was created, which need not be the current one.
-/

namespace Requests

namespace System

variable {Endpoint : Type} [DecidableEq Endpoint] {sort : SortRoutine Endpoint} {ssl : Bool}

/-!
# The step at which a caller is handed a connection
-/

theorem handedOut_enter {s : System Endpoint} {k j : Nat} {c : Caller Endpoint} {R : Connection}
    (hc : s.callers[k]? = some c) (hj : s.completion j = none)
    (h : (s.enter sort k c).completion j = some (.getConnection (.success R))) :
    Pool.HandedOut s.pool (s.enter sort k c).pool R := by
  cases c with
  | getConnection stage =>
      rcases hr : Pool.AsyncGetConnectionOp.resumeLocked sort s.pool with ⟨susp, P'⟩
      simp only [enter, hr] at h ⊢
      obtain ⟨-, hout⟩ := completion_set_eq_some hc hj h
      rcases susp with r | ⟨ep, nconn⟩
      · simp only [Pool.Suspension.toCaller, Caller.outcome, Option.some.injEq,
          Outcome.getConnection.injEq] at hout
        subst hout
        exact Pool.resumeLocked_handedOut hr
      · cases hout
  | lookup av stage => cases (completion_set_eq_some hc hj h).2

theorem handedOut_step {s s' : System Endpoint} {e : Event Endpoint} (hg : PendingGrowth s)
    (h : step sort ssl s e = some s') {k : Nat} {R : Connection} (hk : s.completion k = none)
    (hk' : s'.completion k = some (.getConnection (.success R))) :
    Pool.HandedOut s.pool s'.pool R := by
  cases e with
  | spawnGetConnection => cases h; cases completion_append_eq_some hk hk'
  | spawnLookup av => cases h; cases completion_append_eq_some hk hk'
  | tryLock k' =>
      obtain ⟨c, hc, -, ⟨-, rfl⟩ | ⟨-, rfl⟩⟩ := step_tryLock h
      · have := (completion_set_eq_some hc hk hk').2
        rw [Caller.outcome_wait] at this
        cases this
      · exact handedOut_enter hc hk hk'
  | lockGranted k' =>
      obtain ⟨c, hc, -, -, rfl⟩ := step_lockGranted h
      exact handedOut_enter hc hk hk'
  | lockFailed k' err =>
      obtain ⟨c, hc, -, rfl⟩ := step_lockFailed h
      have := (completion_set_eq_some hc hk hk').2
      cases c <;> cases this
  | connectDone k' connectEc =>
      obtain ⟨ep, nconn, hc, rfl⟩ := step_connectDone h
      obtain ⟨hep, -, rfl, -⟩ := hg ep nconn (List.getElem?_mem hc)
      have hout := (completion_set_eq_some hc hk hk').2
      simp only [Caller.outcome, Option.some.injEq, Outcome.getConnection.injEq] at hout
      exact Pool.handedOut_of_finishConnect hep hout rfl
  | resolveDone k' resolve =>
      obtain ⟨av, hc, rfl⟩ := step_resolveDone h
      cases (completion_set_eq_some hc hk hk').2
  | updateConnection i w o =>
      obtain ⟨-, rfl⟩ := step_updateConnection h
      cases hk.symm.trans hk'
  | getConnection lockEc connectEc =>
      obtain ⟨-, rfl⟩ := step_getConnection h
      have hout := completion_append_eq_some hk hk'
      simp only [Caller.outcome, Option.some.injEq, Outcome.getConnection.injEq] at hout
      exact Pool.getConnection_handedOut hout
  | lookup av lockEc resolve =>
      obtain ⟨-, rfl⟩ := step_lookup h
      cases completion_append_eq_some hk hk'

/-- A caller is handed the connection it has just connected, or a pooled one that was idle
or, at the limit, of least cost, open or not. -/
theorem handed_out_connection (p : Pool Endpoint) (tr : List (Event Endpoint))
    (s s' : System Endpoint) (e : Event Endpoint) (k : Nat) (R : Connection)
    (h : run sort ssl (idle p) tr = some s) (hstep : step sort ssl s e = some s')
    (hk : s.completion k = none) (hk' : s'.completion k = some (.getConnection (.success R))) :
    Pool.HandedOut s.pool s'.pool R :=
  handedOut_step (reachable_inv h).2 hstep hk hk'

theorem closed_connection_handed_out :
    let p : Pool Nat := ((Pool.fresh 1).lookup false
      (fun _ _ => .results [⟨"h", 1⟩]) ⟨"h", none⟩ none).2
    ¬ ∀ (tr : List (Event Nat)) (s : System Nat) (k : Nat) (R : Connection),
      run (SortRoutine.insertion Nat) false (idle p) tr = some s →
      s.completion k = some (.getConnection (.success R)) → R.isOpen = true := by
  intro p hall
  have hclosed := hall
    [.spawnGetConnection, .tryLock 0, .connectDone 0 none, .updateConnection 0 0 false,
      .spawnGetConnection, .tryLock 1]
    _ 1 ⟨"h", false, 0⟩ rfl rfl
  exact absurd hclosed (by decide)

theorem handed_out_connection_closed :
    let p : Pool Nat := ((Pool.fresh 1).lookup false
      (fun _ _ => .results [⟨"h", 1⟩]) ⟨"h", none⟩ none).2
    let tr : List (Event Nat) :=
      [.spawnGetConnection, .tryLock 0, .connectDone 0 none, .updateConnection 0 0 false,
        .spawnGetConnection]
    exists s s', run (SortRoutine.insertion Nat) false (idle p) tr = some s ∧
      step (SortRoutine.insertion Nat) false s (.tryLock 1) = some s' ∧
      s.completion 1 = none ∧ s'.completion 1 = some (.getConnection (.success ⟨"h", false, 0⟩)) ∧
      Pool.HandedOut s.pool s'.pool ⟨"h", false, 0⟩ := by
  intro p tr
  obtain ⟨s, hs⟩ : exists s, run (SortRoutine.insertion Nat) false (idle p) tr = some s :=
    ⟨_, rfl⟩
  obtain ⟨s', hs', hk, hk'⟩ : exists s', step (SortRoutine.insertion Nat) false s (.tryLock 1) = some s' ∧
      s.completion 1 = none ∧ s'.completion 1 = some (.getConnection (.success ⟨"h", false, 0⟩)) := by
    cases hs
    exact ⟨_, rfl, rfl, rfl⟩
  exact ⟨s, s', hs, hs', hk, hk', handed_out_connection p tr s s' (.tryLock 1) 1 _ hs hs' hk hk'⟩

/-!
# Where a handed-out connection comes from
-/

section Resolved

variable (sort ssl)

/-- A key and a host that `endpoints_` and `host_` held at some state of the run `tr` so far. -/
def Resolved (p : Pool Endpoint) (tr : List (Event Endpoint)) (key : Endpoint) (host : String) :
    Prop :=
  exists tr₁ s₁, tr₁ <+: tr ∧ run sort ssl (idle p) tr₁ = some s₁ ∧
    key ∈ s₁.pool.endpoints ∧ host = s₁.pool.host

end Resolved

theorem Resolved.append {p : Pool Endpoint} {tr : List (Event Endpoint)} {key : Endpoint}
    {host : String} (h : Resolved sort ssl p tr key host) (tr' : List (Event Endpoint)) :
    Resolved sort ssl p (tr ++ tr') key host :=
  let ⟨tr₁, s₁, hpre, hrun, hkey, hhost⟩ := h
  ⟨tr₁, s₁, hpre.trans (List.prefix_append tr tr'), hrun, hkey, hhost⟩

theorem origins_resolved (p : Pool Endpoint) (hp : p.conns = []) (tr : List (Event Endpoint))
    (s : System Endpoint) (h : run sort ssl (idle p) tr = some s) :
    ∀ o ∈ s.pool.origins, Resolved sort ssl p tr o.1 o.2 := by
  induction tr using List.reverseRecOn generalizing s with
  | nil =>
      cases h
      simp [Pool.origins, idle, hp]
  | append_singleton tr e ih =>
      rw [run_append_singleton] at h
      obtain ⟨s₀, hs₀, hstep⟩ := Option.bind_eq_some.mp h
      intro o ho
      rcases (pool_step (reachable_inv hs₀).2 hstep).1 with hsame | ⟨ep, hep, -, hins, -⟩
      · exact (ih s₀ hs₀ o (hsame ▸ ho)).append [e]
      · rw [Pool.origins_of_insert hins, List.mem_append, List.mem_singleton] at ho
        rcases ho with ho | rfl
        · exact (ih s₀ hs₀ o ho).append [e]
        · exact ⟨tr, s₀, List.prefix_append tr [e], hs₀, hep, rfl⟩

/-- A handed-out connection is in `conns_`, under a key and with a host that `endpoints_` and
`host_` held at some earlier state of the run. -/
theorem handed_out_from_earlier_resolution (p : Pool Endpoint) (hp : p.conns = [])
    (tr : List (Event Endpoint)) (s s' : System Endpoint) (e : Event Endpoint) (k : Nat)
    (R : Connection) (h : run sort ssl (idle p) tr = some s) (hstep : step sort ssl s e = some s')
    (hk : s.completion k = none) (hk' : s'.completion k = some (.getConnection (.success R))) :
    exists key, (key, R) ∈ s'.pool.conns ∧ Resolved sort ssl p tr key R.host := by
  obtain ⟨key, hmem, hfrom⟩ := (handedOut_step (reachable_inv h).2 hstep hk hk').mem
  refine ⟨key, hmem, ?_⟩
  rcases hfrom with hold | ⟨hep, hhost⟩
  · exact origins_resolved p hp tr s h (key, R.host) (List.mem_map_of_mem _ hold)
  · exact ⟨tr, s, List.prefix_refl tr, h, hep, hhost⟩

theorem relookup_hands_out_stale_connection :
    let p : Pool Nat := ((Pool.fresh 2).lookup false
      (fun _ _ => .results [⟨"a.example", 1⟩]) ⟨"a.example", none⟩ none).2
    ¬ ∀ (tr : List (Event Nat)) (s : System Nat) (k : Nat) (R : Connection),
      run (SortRoutine.insertion Nat) false (idle p) tr = some s →
      s.completion k = some (.getConnection (.success R)) →
      exists key, (key, R) ∈ s.pool.conns ∧ key ∈ s.pool.endpoints ∧ R.host = s.pool.host := by
  intro p hall
  obtain ⟨key, -, -, hhost⟩ := hall
    [.spawnGetConnection, .tryLock 0, .connectDone 0 none,
      .spawnLookup ⟨"b.example", none⟩, .tryLock 1,
      .resolveDone 1 (fun _ _ => .results [⟨"b.example", 2⟩]),
      .spawnGetConnection, .tryLock 2]
    _ 2 ⟨"a.example", true, 0⟩ rfl rfl
  exact absurd hhost (by decide)

theorem handed_out_from_earlier_resolution_stale :
    let p : Pool Nat := ((Pool.fresh 2).lookup false
      (fun _ _ => .results [⟨"a.example", 1⟩]) ⟨"a.example", none⟩ none).2
    let tr : List (Event Nat) :=
      [.spawnGetConnection, .tryLock 0, .connectDone 0 none,
        .spawnLookup ⟨"b.example", none⟩, .tryLock 1,
        .resolveDone 1 (fun _ _ => .results [⟨"b.example", 2⟩]),
        .spawnGetConnection]
    p.conns = [] ∧ exists s s', run (SortRoutine.insertion Nat) false (idle p) tr = some s ∧
      step (SortRoutine.insertion Nat) false s (.tryLock 2) = some s' ∧
      s.completion 2 = none ∧
      s'.completion 2 = some (.getConnection (.success ⟨"a.example", true, 0⟩)) ∧
      exists key, (key, ⟨"a.example", true, 0⟩) ∈ s'.pool.conns ∧
        Resolved (SortRoutine.insertion Nat) false p tr key "a.example" := by
  intro p tr
  have hp : p.conns = [] := rfl
  obtain ⟨s, hs⟩ : exists s, run (SortRoutine.insertion Nat) false (idle p) tr = some s :=
    ⟨_, rfl⟩
  obtain ⟨s', hs', hk, hk'⟩ : exists s', step (SortRoutine.insertion Nat) false s (.tryLock 2) = some s' ∧
      s.completion 2 = none ∧
      s'.completion 2 = some (.getConnection (.success ⟨"a.example", true, 0⟩)) := by
    cases hs
    exact ⟨_, rfl, rfl, rfl⟩
  exact ⟨hp, s, s', hs, hs', hk, hk',
    handed_out_from_earlier_resolution p hp tr s s' (.tryLock 2) 2 _ hs hs' hk hk'⟩

end System

end Requests
