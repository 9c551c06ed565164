import Requests.Exclusion

/-!
# How connections are spread over the endpoints

Between two resolves the pool changes `conns_` in two ways only: the environment changes a
pooled connection in place, and a growth step inserts a new connection under the front of
`endpoints_` once `std::sort` has ordered it by `conns_.count`.  A coroutine's growth step
spans its suspension in `async_connect`, but it holds the mutex meanwhile, so the endpoint
it chose still has the least count when it inserts.  Connections therefore stay spread
evenly over the resolved endpoints.  Which endpoint of least count a growth step takes is
decided by `std::sort` on the current order of `endpoints_`, which earlier growth steps have
rearranged, and not by the order the resolver returned.
-/

namespace Requests

/-- An event that assigns `endpoints_`: a resolve that completes, or a synchronous lookup. -/
def Event.assignsEndpoints {Endpoint : Type} : Event Endpoint → Bool
  | .resolveDone _ _ => true
  | .lookup _ _ _ => true
  | _ => false

namespace Pool

variable {Endpoint : Type}

/-- The key and the host of each pooled connection, which the environment never changes. -/
def origins (p : Pool Endpoint) : List (Endpoint × String) :=
  p.conns.map fun x => (x.1, x.2.host)

@[simp] theorem origins_updateConnection (p : Pool Endpoint) (i : Nat) (w : UInt64) (o : Bool) :
    (p.updateConnection i w o).origins = p.origins := by
  apply List.ext_getElem?
  intro m
  simp only [origins, updateConnection, List.getElem?_map, List.getElem?_modify]
  cases p.conns[m]? <;> simp
  split <;> exact ⟨rfl, rfl⟩

theorem origins_of_insert {p p' : Pool Endpoint} {ep : Endpoint} {c : Connection}
    (hins : p'.conns = p.conns ++ [(ep, c)]) : p'.origins = p.origins ++ [(ep, c.host)] := by
  simp [origins, hins]

theorem keys_eq_of_origins {p p' : Pool Endpoint} (h : p'.origins = p.origins) :
    p'.keys = p.keys := by
  have := congrArg (List.map Prod.fst) h
  simpa [origins, keys] using this

variable [DecidableEq Endpoint]

/-- Connections are spread evenly over `endpoints_`: the counts of two endpoints differ by at
most one. -/
def Spread (p : Pool Endpoint) : Prop :=
  ∀ a ∈ p.endpoints, ∀ b ∈ p.endpoints, p.count a ≤ p.count b + 1

theorem spread_of_keys {p p' : Pool Endpoint} (hsp : p.Spread)
    (hperm : p'.endpoints.Perm p.endpoints) (hkeys : p'.keys = p.keys) : p'.Spread := by
  intro a ha b hb
  simpa only [count, hkeys] using hsp a (hperm.mem_iff.mp ha) b (hperm.mem_iff.mp hb)

theorem spread_of_insert {p p' : Pool Endpoint} {ep : Endpoint} {c : Connection}
    (hsp : p.Spread) (hperm : p'.endpoints.Perm p.endpoints)
    (hins : p'.conns = p.conns ++ [(ep, c)]) (hmin : ∀ x ∈ p.endpoints, p.count ep ≤ p.count x) :
    p'.Spread := by
  have hcount : ∀ x, p'.count x = p.count x + if x = ep then 1 else 0 := fun x => by
    rw [← count_emplace p ep x c]
    simp [count, keys, hins]
  intro a ha b hb
  have hab := hsp a (hperm.mem_iff.mp ha) b (hperm.mem_iff.mp hb)
  have hepb := hmin b (hperm.mem_iff.mp hb)
  rw [hcount, hcount]
  split_ifs with h1 h2 <;> subst_vars <;> omega

end Pool

namespace System

variable {Endpoint : Type} [DecidableEq Endpoint] {sort : SortRoutine Endpoint} {ssl : Bool}

/-!
# Pending growth steps
-/

/-- A coroutine suspended in `async_connect` still has a valid growth step: its endpoint is in
`endpoints_` with the least `conns_.count` and at the front of the order `std::sort` left
there, and its connection is to `host_`. -/
def PendingGrowth (s : System Endpoint) : Prop :=
  ∀ ep nconn, Caller.getConnection (.connecting ep nconn) ∈ s.callers →
    ep ∈ s.pool.endpoints ∧ (∀ x ∈ s.pool.endpoints, s.pool.count ep ≤ s.pool.count x) ∧
      nconn = makeConnection s.pool.host ∧ s.pool.endpoints.head? = some ep

theorem pendingGrowth_idle (p : Pool Endpoint) : PendingGrowth (idle p) :=
  fun _ _ h => by cases h

theorem pendingGrowth_of_unlocked {s : System Endpoint} (hinv : MutexInv s)
    (hfree : s.locked = false) : PendingGrowth s :=
  fun _ _ hmem => absurd (hinv.not_inSection hfree hmem) (by simp [Caller.inSection])

theorem pendingGrowth_of_frame {s s' : System Endpoint} (hg : PendingGrowth s)
    (hends : s'.pool.endpoints = s.pool.endpoints) (hkeys : s'.pool.keys = s.pool.keys)
    (hhost : s'.pool.host = s.pool.host)
    (hcallers : ∀ ep nconn, Caller.getConnection (.connecting ep nconn) ∈ s'.callers →
      Caller.getConnection (.connecting ep nconn) ∈ s.callers) : PendingGrowth s' := by
  intro ep nconn hmem
  obtain ⟨hep, hmin, hnconn, hhead⟩ := hg ep nconn (hcallers ep nconn hmem)
  simp only [Pool.count, hends, hkeys, hhost]
  exact ⟨hep, hmin, hnconn, hhead⟩

theorem pendingGrowth_enter {s : System Endpoint} (hinv : MutexInv s)
    (hfree : s.locked = false) (k : Nat) (c : Caller Endpoint)
    (hinv' : MutexInv (s.enter sort k c)) : PendingGrowth (s.enter sort k c) := by
  intro ep nconn hmem
  have hout : ∀ x ∈ s.callers, x.inSection = false := fun _ hx => hinv.not_inSection hfree hx
  cases c with
  | getConnection stage =>
      rcases hr : Pool.AsyncGetConnectionOp.resumeLocked sort s.pool with
        ⟨_ | ⟨ep', nconn'⟩, P'⟩
      · exact pendingGrowth_of_unlocked hinv' (by simp [enter, hr, Pool.Suspension.holdsLock])
          ep nconn hmem
      · simp only [enter, hr, Pool.Suspension.toCaller] at hmem ⊢
        rcases List.mem_or_eq_of_mem_set hmem with hmem | heq
        · cases hout _ hmem
        · cases heq
          have hprep := (Pool.AsyncGetConnectionOp.resumeLocked_connecting hr).2.2
          have hhead := Pool.prepareConnect_head hprep
          obtain ⟨rfl, rfl, hep, hmin⟩ := Pool.prepareConnect_spec hprep
          exact ⟨(sort.perm _ _).mem_iff.mpr hep, fun x hx => hmin x ((sort.perm _ _).mem_iff.mp hx),
            rfl, hhead⟩
  | lookup av stage =>
      rcases List.mem_or_eq_of_mem_set hmem with hmem | heq
      · cases hout _ hmem
      · cases heq

theorem pendingGrowth_step {s s' : System Endpoint} {e : Event Endpoint} (hinv : MutexInv s)
    (hg : PendingGrowth s) (h : step sort ssl s e = some s') : PendingGrowth s' := by
  have hinv' := mutexInv_step hinv h
  cases e with
  | spawnGetConnection =>
      cases h
      exact pendingGrowth_of_frame hg rfl rfl rfl fun _ _ hx => (mem_of_inSection (by rfl) (by rfl)).2 hx
  | spawnLookup av =>
      cases h
      exact pendingGrowth_of_frame hg rfl rfl rfl fun _ _ hx => (mem_of_inSection (by rfl) (by rfl)).2 hx
  | tryLock k =>
      obtain ⟨c, -, -, ⟨-, rfl⟩ | ⟨hfree, rfl⟩⟩ := step_tryLock h
      · exact pendingGrowth_of_frame hg rfl rfl rfl fun _ _ hx =>
          (mem_of_inSection (by rfl) (Caller.inSection_wait c)).1 k hx
      · exact pendingGrowth_enter hinv hfree k c hinv'
  | lockGranted k =>
      obtain ⟨c, -, -, hfree, rfl⟩ := step_lockGranted h
      exact pendingGrowth_enter hinv hfree k c hinv'
  | lockFailed k err =>
      obtain ⟨c, -, -, rfl⟩ := step_lockFailed h
      exact pendingGrowth_of_frame hg rfl rfl rfl fun _ _ hx =>
        (mem_of_inSection (by rfl) (Caller.inSection_fail err c)).1 k hx
  | connectDone k connectEc =>
      obtain ⟨ep, nconn, -, rfl⟩ := step_connectDone h
      exact pendingGrowth_of_unlocked hinv' rfl
  | resolveDone k resolve =>
      obtain ⟨av, -, rfl⟩ := step_resolveDone h
      exact pendingGrowth_of_unlocked hinv' rfl
  | updateConnection i w o =>
      obtain ⟨-, rfl⟩ := step_updateConnection h
      exact pendingGrowth_of_frame hg rfl (Pool.keys_updateConnection _ _ _ _) rfl fun _ _ hx => hx
  | getConnection lockEc connectEc =>
      obtain ⟨hfree, rfl⟩ := step_getConnection h
      cases lockEc with
      | none => exact pendingGrowth_of_unlocked hinv' (hfree rfl)
      | some err =>
          exact pendingGrowth_of_frame hg rfl rfl rfl fun _ _ hx => (mem_of_inSection (by rfl) (by rfl)).2 hx
  | lookup av lockEc resolve =>
      obtain ⟨hfree, rfl⟩ := step_lookup h
      cases lockEc with
      | none => exact pendingGrowth_of_unlocked hinv' (hfree rfl)
      | some err =>
          exact pendingGrowth_of_frame hg rfl rfl rfl fun _ _ hx => (mem_of_inSection (by rfl) (by rfl)).2 hx

theorem reachable_inv {p : Pool Endpoint} {tr : List (Event Endpoint)} {s : System Endpoint}
    (h : run sort ssl (idle p) tr = some s) : MutexInv s ∧ PendingGrowth s :=
  run_preserves sort ssl (fun s => MutexInv s ∧ PendingGrowth s) (fun _ => True)
    (fun _ _ _ ⟨hinv, hg⟩ _ hstep => ⟨mutexInv_step hinv hstep, pendingGrowth_step hinv hg hstep⟩)
    tr _ _ ⟨mutexInv_idle p, pendingGrowth_idle p⟩ (fun _ _ => trivial) h

/-!
# What a step does to the pool
-/

/-- What one step does to `conns_` and `endpoints_`. -/
theorem pool_step {s s' : System Endpoint} {e : Event Endpoint} (hg : PendingGrowth s)
    (h : step sort ssl s e = some s') :
    (s'.pool.origins = s.pool.origins ∨
      exists ep, ep ∈ s.pool.endpoints ∧ (∀ x ∈ s.pool.endpoints, s.pool.count ep ≤ s.pool.count x) ∧
        s'.pool.conns = s.pool.conns ++ [(ep, (makeConnection s.pool.host).connect)] ∧
        ((e.isSyncGetConnection = true ∧
            s'.pool.endpoints = sort.sort s.pool.count s.pool.endpoints ∧
            (sort.sort s.pool.count s.pool.endpoints).head? = some ep) ∨
          exists k, e = .connectDone k none ∧
            s.callers[k]? = some (.getConnection (.connecting ep (makeConnection s.pool.host))) ∧
            s.pool.endpoints.head? = some ep)) ∧
    (e.assignsEndpoints = false → s'.pool.endpoints.Perm s.pool.endpoints) := by
  cases e with
  | spawnGetConnection => cases h; exact ⟨.inl rfl, fun _ => .refl _⟩
  | spawnLookup av => cases h; exact ⟨.inl rfl, fun _ => .refl _⟩
  | tryLock k =>
      obtain ⟨c, -, -, ⟨-, rfl⟩ | ⟨-, rfl⟩⟩ := step_tryLock h
      · exact ⟨.inl rfl, fun _ => .refl _⟩
      · obtain ⟨-, -, hconns, hperm⟩ := enter_pool s k c
        exact ⟨.inl (by simp only [Pool.origins, hconns]), fun _ => hperm⟩
  | lockGranted k =>
      obtain ⟨c, -, -, -, rfl⟩ := step_lockGranted h
      obtain ⟨-, -, hconns, hperm⟩ := enter_pool s k c
      exact ⟨.inl (by simp only [Pool.origins, hconns]), fun _ => hperm⟩
  | lockFailed k err =>
      obtain ⟨c, -, -, rfl⟩ := step_lockFailed h
      exact ⟨.inl rfl, fun _ => .refl _⟩
  | connectDone k connectEc =>
      obtain ⟨ep, nconn, hc, rfl⟩ := step_connectDone h
      obtain ⟨hep, hmin, rfl, hhead⟩ := hg ep nconn (List.getElem?_mem hc)
      cases connectEc with
      | none => exact ⟨.inr ⟨ep, hep, hmin, rfl, .inr ⟨k, rfl, hc, hhead⟩⟩, fun _ => .refl _⟩
      | some err => exact ⟨.inl rfl, fun _ => .refl _⟩
  | resolveDone k resolve =>
      obtain ⟨av, -, rfl⟩ := step_resolveDone h
      exact ⟨.inl (by simp [Pool.origins]), fun he => by simp [Event.assignsEndpoints] at he⟩
  | updateConnection i w o =>
      obtain ⟨-, rfl⟩ := step_updateConnection h
      exact ⟨.inl (Pool.origins_updateConnection _ _ _ _), fun _ => .refl _⟩
  | getConnection lockEc connectEc =>
      obtain ⟨-, rfl⟩ := step_getConnection h
      cases lockEc with
      | some err => exact ⟨.inl rfl, fun _ => .refl _⟩
      | none =>
          rcases Pool.getConnection_cases sort connectEc s.pool with
            ⟨_, -, hr⟩ | ⟨-, -, -, hr⟩ | ⟨-, -, ep, nconn, p', hprep, hr⟩ | ⟨-, -, -, hr⟩ |
              ⟨-, -, _, -, hr⟩ <;>
            rw [hr]
          · exact ⟨.inl rfl, fun _ => .refl _⟩
          · exact ⟨.inl rfl, fun _ => .refl _⟩
          · have hhead := Pool.prepareConnect_head hprep
            obtain ⟨rfl, rfl, hep, hmin⟩ := Pool.prepareConnect_spec hprep
            refine ⟨?_, fun _ => by simpa using sort.perm _ _⟩
            cases connectEc with
            | none => exact .inr ⟨ep, hep, hmin, rfl, .inl ⟨rfl, rfl, hhead⟩⟩
            | some err => exact .inl rfl
          · exact ⟨.inl rfl, fun _ => .refl _⟩
          · exact ⟨.inl rfl, fun _ => .refl _⟩
  | lookup av lockEc resolve =>
      obtain ⟨-, rfl⟩ := step_lookup h
      exact ⟨.inl (by simp [Pool.origins]), fun he => by simp [Event.assignsEndpoints] at he⟩

/-!
# Where growth steps insert
-/

omit [DecidableEq Endpoint] in
private theorem eq_of_getElem?_set_of_ne {α : Type} {l : List α} {j k : Nat} {a x : α}
    (h : (l.set j a)[k]? = some x) (hne : l[k]? ≠ (l.set j a)[k]?) : x = a := by
  rw [List.getElem?_set] at h hne
  split_ifs at h hne
  · exact (Option.some.inj h).symm
  · exact absurd rfl hne

omit [DecidableEq Endpoint] in
private theorem eq_of_getElem?_append_of_ne {α : Type} {l : List α} {k : Nat} {a x : α}
    (h : (l ++ [a])[k]? = some x) (hne : l[k]? ≠ (l ++ [a])[k]?) : x = a := by
  rw [List.getElem?_append] at h hne
  split_ifs at h hne
  · exact absurd rfl hne
  · rw [List.getElem?_cons] at h
    split_ifs at h
    · exact (Option.some.inj h).symm
    · simp at h

omit [DecidableEq Endpoint] in
private theorem eq_of_perm_insert {α : Type} {l : List α} {x y : α}
    (h : (l ++ [y]).Perm (x :: l)) : y = x :=
  List.singleton_perm_singleton.mp
    ((List.perm_append_left_iff l).mp (h.trans (List.perm_append_singleton x l).symm))

theorem resumeLocked_of_connecting {s s' : System Endpoint} {e : Event Endpoint}
    (h : step sort ssl s e = some s') {k : Nat} {ep : Endpoint} {nconn : Connection}
    (hk : s'.callers[k]? = some (.getConnection (.connecting ep nconn)))
    (hne : s.callers[k]? ≠ s'.callers[k]?) :
    Pool.AsyncGetConnectionOp.resumeLocked sort s.pool = (.connecting ep nconn, s'.pool) := by
  have hset : ∀ j (a : Caller Endpoint), s'.callers = s.callers.set j a → a.inSection = false →
      False := by
    intro j a heq ha
    rw [heq] at hk hne
    rw [← eq_of_getElem?_set_of_ne hk hne] at ha
    cases ha
  have happ : ∀ a : Caller Endpoint, s'.callers = s.callers ++ [a] → a.inSection = false →
      False := by
    intro a heq ha
    rw [heq] at hk hne
    rw [← eq_of_getElem?_append_of_ne hk hne] at ha
    cases ha
  have henter : ∀ j c, s' = s.enter sort j c →
      Pool.AsyncGetConnectionOp.resumeLocked sort s.pool = (.connecting ep nconn, s'.pool) := by
    rintro j (_ | ⟨av, _⟩) rfl
    · rcases hr : Pool.AsyncGetConnectionOp.resumeLocked sort s.pool with ⟨susp, P'⟩
      simp only [enter, hr] at hk hne ⊢
      cases susp with
      | returned r => cases eq_of_getElem?_set_of_ne hk hne
      | connecting ep' nconn' => cases eq_of_getElem?_set_of_ne hk hne; rfl
    · cases eq_of_getElem?_set_of_ne hk hne
  cases e with
  | spawnGetConnection => cases h; exact (happ _ rfl rfl).elim
  | spawnLookup av => cases h; exact (happ _ rfl rfl).elim
  | tryLock j =>
      obtain ⟨c, -, -, ⟨-, rfl⟩ | ⟨-, rfl⟩⟩ := step_tryLock h
      · exact (hset j _ rfl (Caller.inSection_wait c)).elim
      · exact henter j c rfl
  | lockGranted j =>
      obtain ⟨c, -, -, -, rfl⟩ := step_lockGranted h
      exact henter j c rfl
  | lockFailed j err =>
      obtain ⟨c, -, -, rfl⟩ := step_lockFailed h
      exact (hset j _ rfl (Caller.inSection_fail err c)).elim
  | connectDone j connectEc =>
      obtain ⟨_, _, -, rfl⟩ := step_connectDone h
      exact (hset j _ rfl rfl).elim
  | resolveDone j resolve =>
      obtain ⟨_, -, rfl⟩ := step_resolveDone h
      exact (hset j _ rfl rfl).elim
  | updateConnection i w o =>
      obtain ⟨-, rfl⟩ := step_updateConnection h
      exact absurd rfl hne
  | getConnection lockEc connectEc =>
      obtain ⟨-, rfl⟩ := step_getConnection h
      exact (happ _ rfl rfl).elim
  | lookup av lockEc resolve =>
      obtain ⟨-, rfl⟩ := step_lookup h
      exact (happ _ rfl rfl).elim

/-- A call that creates a connection takes the front of `std::sort`'s output on the current
`endpoints_`, and every insertion into `conns_` is under such an endpoint, of least count. -/
theorem growth_uses_least_used_endpoint (p : Pool Endpoint) (tr : List (Event Endpoint))
    (s s' : System Endpoint) (e : Event Endpoint) (h : run sort ssl (idle p) tr = some s)
    (hstep : step sort ssl s e = some s') :
    (∀ (k : Nat) (ep : Endpoint) (nconn : Connection),
        s'.callers[k]? = some (.getConnection (.connecting ep nconn)) →
        s.callers[k]? ≠ s'.callers[k]? →
        s'.pool.endpoints = sort.sort s.pool.count s.pool.endpoints ∧
          (sort.sort s.pool.count s.pool.endpoints).head? = some ep) ∧
      ∀ (ep : Endpoint) (c : Connection), s'.pool.conns.Perm ((ep, c) :: s.pool.conns) →
        ep ∈ s.pool.endpoints ∧ (∀ x ∈ s.pool.endpoints, s.pool.count ep ≤ s.pool.count x) ∧
        ((e.isSyncGetConnection = true ∧
            s'.pool.endpoints = sort.sort s.pool.count s.pool.endpoints ∧
            (sort.sort s.pool.count s.pool.endpoints).head? = some ep) ∨
          exists k, e = .connectDone k none ∧
            s.callers[k]? = some (.getConnection (.connecting ep (makeConnection s.pool.host))) ∧
            s.pool.endpoints.head? = some ep) := by
  refine ⟨fun k ep nconn hk hne => ?_, fun ep c hins => ?_⟩
  · have hprep := (Pool.AsyncGetConnectionOp.resumeLocked_connecting
      (resumeLocked_of_connecting hstep hk hne)).2.2
    have hhead := Pool.prepareConnect_head hprep
    obtain ⟨hpool, -⟩ := Pool.prepareConnect_spec hprep
    rw [hpool] at hhead ⊢
    exact ⟨rfl, hhead⟩
  · rcases (pool_step (reachable_inv h).2 hstep).1 with hsame | ⟨ep', hep, hmin, hins', how⟩
    · have hlen := congrArg List.length hsame
      simp only [Pool.origins, List.length_map, hins.length_eq, List.length_cons] at hlen
      omega
    · rw [hins'] at hins
      obtain ⟨rfl, -⟩ := Prod.mk.inj (eq_of_perm_insert hins)
      exact ⟨hep, hmin, how⟩

/-- Modelled from the spec: the endpoint a stable sort by count would put first, the first
endpoint in the resolver's order with the least count. -/
def resolverPreferred (order : List Endpoint) (p : Pool Endpoint) : Option Endpoint :=
  order.find? fun e => order.all fun x => p.count e ≤ p.count x

theorem growth_tie_break_follows_current_order :
    let p : Pool Nat := ((Pool.fresh 3).lookup false
      (fun _ _ => .results [⟨"h", 1⟩, ⟨"h", 2⟩]) ⟨"h", none⟩ none).2
    ¬ ∀ (tr : List (Event Nat)) (s s' : System Nat) (e : Event Nat) (ep : Nat) (c : Connection),
      run (SortRoutine.insertion Nat) false (idle p) tr = some s →
      step (SortRoutine.insertion Nat) false s e = some s' →
      s'.pool.conns = s.pool.conns ++ [(ep, c)] →
      resolverPreferred [1, 2] s.pool = some ep := by
  intro p hall
  have hthird := hall
    [.getConnection none none, .updateConnection 0 1 true,
      .getConnection none none, .updateConnection 1 1 true]
    _ _ (.getConnection none none) 2 ⟨"h", true, 0⟩ rfl rfl rfl
  exact absurd hthird (by decide)

theorem growth_uses_least_used_endpoint_third :
    let p : Pool Nat := ((Pool.fresh 3).lookup false
      (fun _ _ => .results [⟨"h", 1⟩, ⟨"h", 2⟩]) ⟨"h", none⟩ none).2
    let tr : List (Event Nat) :=
      [.getConnection none none, .updateConnection 0 1 true,
        .getConnection none none, .updateConnection 1 1 true]
    exists s s', run (SortRoutine.insertion Nat) false (idle p) tr = some s ∧
      step (SortRoutine.insertion Nat) false s (.getConnection none none) = some s' ∧
      s.pool.endpoints = [2, 1] ∧ s.pool.count 1 = s.pool.count 2 ∧
      s'.pool.conns.Perm ((2, ⟨"h", true, 0⟩) :: s.pool.conns) ∧
      s'.pool.endpoints = (SortRoutine.insertion Nat).sort s.pool.count s.pool.endpoints ∧
      ((SortRoutine.insertion Nat).sort s.pool.count s.pool.endpoints).head? = some 2 := by
  intro p tr
  obtain ⟨s, hs⟩ : exists s, run (SortRoutine.insertion Nat) false (idle p) tr = some s :=
    ⟨_, rfl⟩
  obtain ⟨s', hs', hends, hcount, hins⟩ : exists s',
      step (SortRoutine.insertion Nat) false s (.getConnection none none) = some s' ∧
      s.pool.endpoints = [2, 1] ∧ s.pool.count 1 = s.pool.count 2 ∧
      s'.pool.conns = s.pool.conns ++ [(2, ⟨"h", true, 0⟩)] := by
    cases hs
    exact ⟨_, rfl, rfl, rfl, rfl⟩
  have hperm : s'.pool.conns.Perm ((2, ⟨"h", true, 0⟩) :: s.pool.conns) :=
    hins ▸ List.perm_append_singleton _ _
  obtain ⟨-, -, ⟨-, hsorted, hhead⟩ | ⟨k, hk, -⟩⟩ :=
    (growth_uses_least_used_endpoint p tr s s' _ hs hs').2 2 _ hperm
  · exact ⟨s, s', hs, hs', hends, hcount, hperm, hsorted, hhead⟩
  · cases hk

/-!
# Connections stay spread evenly
-/

theorem spread_step {s s' : System Endpoint} {e : Event Endpoint} (hg : PendingGrowth s)
    (hsp : s.pool.Spread) (he : e.assignsEndpoints = false) (h : step sort ssl s e = some s') :
    s'.pool.Spread := by
  obtain ⟨hconns, hperm⟩ := pool_step hg h
  rcases hconns with hsame | ⟨ep, -, hmin, hins, -⟩
  · exact Pool.spread_of_keys hsp (hperm he) (Pool.keys_eq_of_origins hsame)
  · exact Pool.spread_of_insert hsp (hperm he) hins hmin

/-- After one lookup on a fresh pool, connections stay spread evenly over `endpoints_`. -/
theorem connections_spread_evenly (limit : Nat)
    (resolve : String → String → ResolveOutcome Endpoint) (av : Authority)
    (lockEc : Option Error) (p : Pool Endpoint)
    (hlookup : p = ((Pool.fresh limit).lookup ssl resolve av lockEc).2 ∨
      p = ((Pool.fresh limit).asyncLookup ssl resolve av lockEc).2)
    (tr : List (Event Endpoint)) (htr : ∀ e ∈ tr, e.assignsEndpoints = false)
    (s : System Endpoint) (h : run sort ssl (idle p) tr = some s) :
    ∀ a ∈ s.pool.endpoints, ∀ b ∈ s.pool.endpoints, s.pool.count a ≤ s.pool.count b + 1 := by
  have hp : p.conns = [] := by
    rcases hlookup with rfl | rfl
    · simp [Pool.fresh]
    · cases lockEc <;> simp [Pool.asyncLookup, Pool.fresh]
  have hsp : p.Spread := fun a _ b _ => by simp [Pool.count, Pool.keys, hp]
  exact (run_preserves sort ssl (fun s => MutexInv s ∧ PendingGrowth s ∧ s.pool.Spread)
    (fun e => e.assignsEndpoints = false)
    (fun _ _ _ ⟨hinv, hg, hsp⟩ he hstep =>
      ⟨mutexInv_step hinv hstep, pendingGrowth_step hinv hg hstep, spread_step hg hsp he hstep⟩)
    tr _ _ ⟨mutexInv_idle p, pendingGrowth_idle p, hsp⟩ htr h).2.2

theorem connections_spread_evenly_two :
    let resolve : String → String → ResolveOutcome Nat :=
      fun _ _ => .results [⟨"h", 1⟩, ⟨"h", 2⟩]
    let p : Pool Nat := ((Pool.fresh 3).lookup false resolve ⟨"h", none⟩ none).2
    let tr : List (Event Nat) :=
      [.spawnGetConnection, .tryLock 0, .connectDone 0 none, .updateConnection 0 1 true,
        .getConnection none none]
    (∀ e ∈ tr, e.assignsEndpoints = false) ∧
      exists s, run (SortRoutine.insertion Nat) false (idle p) tr = some s ∧
        ∀ a ∈ s.pool.endpoints, ∀ b ∈ s.pool.endpoints, s.pool.count a ≤ s.pool.count b + 1 := by
  intro resolve p tr
  have htr : ∀ e ∈ tr, e.assignsEndpoints = false := by decide
  obtain ⟨s, hs⟩ : exists s, run (SortRoutine.insertion Nat) false (idle p) tr = some s :=
    ⟨_, rfl⟩
  exact ⟨htr, s, hs,
    connections_spread_evenly 3 resolve ⟨"h", none⟩ none p (.inl rfl) tr htr s hs⟩

end System

end Requests
