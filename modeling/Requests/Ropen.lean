import Requests.System

/-!
# Null connections

`get_connection` and `async_get_connection` complete with an error code and a
`std::shared_ptr` to a connection.  `conns_` only ever receives the connection that
`make_connection_` has just made, so a pooled connection is never null, and every return
point that returns `nullptr` sets the error code first.  A completion therefore carries a
null connection exactly when it carries an error, in every interleaving, and the
`!ec && conn == nullptr` fallback of `ropen`, `async_ropen_op` and `async_ropen_op_1`
never fires.
-/

namespace Requests

/-- The completion has a null connection exactly when it reports an error. -/
def Completion.NullIffError (r : Completion) : Prop :=
  r.conn = none ↔ r.ec ≠ none

namespace Completion

@[simp] theorem nullIffError_failure (e : Error) : (failure e).NullIffError := by
  simp [NullIffError, failure]

@[simp] theorem nullIffError_success (c : Connection) : (success c).NullIffError := by
  simp [NullIffError, success]

/-- `!ec && conn == nullptr`. -/
def nullWithoutError (r : Completion) : Bool :=
  r.ec.isNone && r.conn.isNone

theorem NullIffError.nullWithoutError_eq_false {r : Completion} (h : r.NullIffError) :
    r.nullWithoutError = false := by
  rcases r with ⟨_ | e, _ | c⟩ <;> simp_all [NullIffError, nullWithoutError]

end Completion

/-- What `ropen`, `async_ropen_op` and `async_ropen_op_1` do with the completion `r` of the
pool before they hand the request to a connection: `!ec && conn == nullptr` sets
`not_found`, an error completes with a stream that has no connection, and otherwise the
request goes to `conn`, which the synchronous overloads `assert(conn != nullptr)`.  `none`
is a null `conn` at that point. -/
def ropenWith (r : Completion) : Option (Except Error Connection) :=
  match (if r.nullWithoutError then some Error.notFound else r.ec) with
  | some e => some (.error e)
  | none => r.conn.map .ok

theorem ropenWith_ne_none (r : Completion) : ropenWith r ≠ none := by
  rcases r with ⟨_ | e, _ | c⟩ <;> simp [ropenWith, Completion.nullWithoutError]

/-- A caller that has completed a `get_connection` of either kind has a null connection
exactly when it has an error. -/
def Caller.NullIffError {Endpoint : Type} : Caller Endpoint → Prop
  | .getConnection (.done r) => r.NullIffError
  | _ => True

namespace Caller

variable {Endpoint : Type}

theorem nullIffError_wait (c : Caller Endpoint) : c.wait.NullIffError := by
  cases c <;> trivial

theorem nullIffError_fail (e : Error) (c : Caller Endpoint) : (c.fail e).NullIffError := by
  cases c
  · exact Completion.nullIffError_failure e
  · trivial

theorem eq_of_outcome_getConnection {c : Caller Endpoint} {r : Completion}
    (h : c.outcome = some (.getConnection r)) : c = .getConnection (.done r) := by
  rcases c with (_ | _ | _ | _) | ⟨av, _ | _ | _ | _⟩ <;> simp_all [outcome]

end Caller

namespace Pool

variable {Endpoint : Type}

@[simp] theorem finishConnect_nullIffError (p : Pool Endpoint) (ep : Endpoint) (nconn : Connection)
    (connectEc : Option Error) : (p.finishConnect ep nconn connectEc).1.NullIffError := by
  cases connectEc <;> simp

variable [DecidableEq Endpoint]

/-- `ropen(method, path, body, req, ec)` and `ropen(req, opt, jar, ec)` up to
`conn->ropen`: `get_connection(ec)`, then `ropenWith`. -/
def ropen (sort : SortRoutine Endpoint) (lockEc connectEc : Option Error) (p : Pool Endpoint) :
    Option (Except Error Connection) × Pool Endpoint :=
  let r := p.getConnection sort lockEc connectEc
  (ropenWith r.1, r.2)

theorem getConnection_nullIffError (sort : SortRoutine Endpoint)
    (lockEc connectEc : Option Error) (p : Pool Endpoint) :
    (p.getConnection sort lockEc connectEc).1.NullIffError := by
  cases lockEc with
  | some e => exact Completion.nullIffError_failure e
  | none =>
      rcases getConnection_cases sort connectEc p with
        ⟨_, -, hr⟩ | ⟨-, -, -, hr⟩ | ⟨-, -, _, _, _, -, hr⟩ | ⟨-, -, -, hr⟩ | ⟨-, -, _, -, hr⟩ <;>
        rw [hr] <;> simp

theorem resumeLocked_nullIffError {sort : SortRoutine Endpoint} {p p' : Pool Endpoint}
    {r : Completion} (h : AsyncGetConnectionOp.resumeLocked sort p = (.returned r, p')) :
    r.NullIffError := by
  rcases AsyncGetConnectionOp.resumeLocked_cases sort p with
    ⟨_, -, hr⟩ | ⟨-, -, -, hr⟩ | ⟨-, -, _, _, _, -, hr⟩ | ⟨-, -, -, hr⟩ | ⟨-, -, _, -, hr⟩ <;>
    rw [hr, Prod.mk.injEq] at h <;> obtain ⟨h, -⟩ := h <;> cases h <;> simp

theorem asyncGetConnection_nullIffError (sort : SortRoutine Endpoint)
    (lockEc connectEc : Option Error) (p : Pool Endpoint) :
    (p.asyncGetConnection sort lockEc connectEc).1.NullIffError := by
  cases lockEc with
  | some e => exact Completion.nullIffError_failure e
  | none =>
      rcases hr : AsyncGetConnectionOp.resumeLocked sort p with ⟨_ | ⟨ep, nconn⟩, p'⟩
      · simp only [asyncGetConnection, hr]
        exact resumeLocked_nullIffError hr
      · simp only [asyncGetConnection, hr]
        exact finishConnect_nullIffError p' ep nconn connectEc

end Pool

namespace System

variable {Endpoint : Type} [DecidableEq Endpoint] {sort : SortRoutine Endpoint} {ssl : Bool}

/-!
# Every interleaving
-/

omit [DecidableEq Endpoint] in
theorem nullIffError_set {l : List (Caller Endpoint)} (hl : ∀ c ∈ l, c.NullIffError) (k : Nat)
    {a : Caller Endpoint} (ha : a.NullIffError) : ∀ c ∈ l.set k a, c.NullIffError :=
  fun c hc => (List.mem_or_eq_of_mem_set hc).elim (hl c) fun h => h ▸ ha

omit [DecidableEq Endpoint] in
theorem nullIffError_append {l : List (Caller Endpoint)} (hl : ∀ c ∈ l, c.NullIffError)
    {a : Caller Endpoint} (ha : a.NullIffError) : ∀ c ∈ l ++ [a], c.NullIffError :=
  fun c hc => (List.mem_append.mp hc).elim (hl c) fun h => List.mem_singleton.mp h ▸ ha

theorem nullIffError_enter {s : System Endpoint} (hs : ∀ c ∈ s.callers, c.NullIffError)
    (k : Nat) (c : Caller Endpoint) : ∀ x ∈ (s.enter sort k c).callers, x.NullIffError := by
  cases c with
  | getConnection stage =>
      rcases hr : Pool.AsyncGetConnectionOp.resumeLocked sort s.pool with ⟨_ | ⟨ep, nconn⟩, p'⟩
      · simp only [enter, hr]
        exact nullIffError_set hs k (Pool.resumeLocked_nullIffError hr)
      · simp only [enter, hr]
        exact nullIffError_set hs k trivial
  | lookup av stage => exact nullIffError_set hs k trivial

theorem nullIffError_step {s s' : System Endpoint} {e : Event Endpoint}
    (hs : ∀ c ∈ s.callers, c.NullIffError) (h : step sort ssl s e = some s') :
    ∀ c ∈ s'.callers, c.NullIffError := by
  cases e with
  | spawnGetConnection => cases h; exact nullIffError_append hs trivial
  | spawnLookup av => cases h; exact nullIffError_append hs trivial
  | tryLock k =>
      obtain ⟨c, -, -, ⟨-, rfl⟩ | ⟨-, rfl⟩⟩ := step_tryLock h
      · exact nullIffError_set hs k (Caller.nullIffError_wait c)
      · exact nullIffError_enter hs k c
  | lockGranted k =>
      obtain ⟨c, -, -, -, rfl⟩ := step_lockGranted h
      exact nullIffError_enter hs k c
  | lockFailed k err =>
      obtain ⟨c, -, -, rfl⟩ := step_lockFailed h
      exact nullIffError_set hs k (Caller.nullIffError_fail err c)
  | connectDone k connectEc =>
      obtain ⟨ep, nconn, -, rfl⟩ := step_connectDone h
      exact nullIffError_set hs k (Pool.finishConnect_nullIffError _ _ _ _)
  | resolveDone k resolve =>
      obtain ⟨av, -, rfl⟩ := step_resolveDone h
      exact nullIffError_set hs k trivial
  | updateConnection i w o =>
      obtain ⟨-, rfl⟩ := step_updateConnection h
      exact hs
  | getConnection lockEc connectEc =>
      obtain ⟨-, rfl⟩ := step_getConnection h
      exact nullIffError_append hs (Pool.getConnection_nullIffError _ _ _ _)
  | lookup av lockEc resolve =>
      obtain ⟨-, rfl⟩ := step_lookup h
      exact nullIffError_append hs trivial

theorem completion_nullIffError {p : Pool Endpoint} {tr : List (Event Endpoint)}
    {s : System Endpoint} (h : run sort ssl (idle p) tr = some s) {k : Nat} {r : Completion}
    (hk : s.completion k = some (.getConnection r)) : r.NullIffError := by
  have hall := run_preserves sort ssl (fun s => ∀ c ∈ s.callers, c.NullIffError) (fun _ => True)
    (fun _ _ _ hs _ hstep => nullIffError_step hs hstep) tr _ _ (fun _ h => by cases h)
    (fun _ _ => trivial) h
  obtain ⟨c, hc, hout⟩ := Option.bind_eq_some.mp hk
  rw [Caller.eq_of_outcome_getConnection hout] at hc
  exact hall _ (List.getElem?_mem hc)

/-- A `get_connection` of either kind completes with a null connection exactly when it
reports an error, so the `!ec && conn == nullptr` fallback never fires. -/
theorem null_connection_iff_error (sort : SortRoutine Endpoint) (ssl : Bool) :
    (∀ (p : Pool Endpoint) (lockEc connectEc : Option Error),
      (p.getConnection sort lockEc connectEc).1.NullIffError ∧
      (p.asyncGetConnection sort lockEc connectEc).1.NullIffError ∧
      (p.getConnection sort lockEc connectEc).1.nullWithoutError = false ∧
      (p.asyncGetConnection sort lockEc connectEc).1.nullWithoutError = false ∧
      (p.ropen sort lockEc connectEc).1 ≠ none) ∧
    ∀ (p : Pool Endpoint) (tr : List (Event Endpoint)) (s : System Endpoint) (k : Nat)
      (r : Completion), run sort ssl (idle p) tr = some s →
      s.completion k = some (.getConnection r) →
      r.NullIffError ∧ r.nullWithoutError = false ∧ ropenWith r ≠ none := by
  refine ⟨fun p lockEc connectEc => ?_, fun p tr s k r h hk => ?_⟩
  · have hsync := Pool.getConnection_nullIffError sort lockEc connectEc p
    have hasync := Pool.asyncGetConnection_nullIffError sort lockEc connectEc p
    exact ⟨hsync, hasync, hsync.nullWithoutError_eq_false, hasync.nullWithoutError_eq_false,
      ropenWith_ne_none _⟩
  · have hr := completion_nullIffError h hk
    exact ⟨hr, hr.nullWithoutError_eq_false, ropenWith_ne_none r⟩

theorem null_connection_iff_error_refused :
    let p : Pool Nat := ((Pool.fresh 1).lookup false
      (fun _ _ => .results [⟨"h", 1⟩]) ⟨"h", none⟩ none).2
    let tr : List (Event Nat) :=
      [.spawnGetConnection, .tryLock 0, .connectDone 0 (some (.other 111))]
    exists s, run (SortRoutine.insertion Nat) false (idle p) tr = some s ∧
      s.completion 0 = some (.getConnection (.failure (.other 111))) ∧
      (Completion.failure (.other 111)).NullIffError ∧
      (Completion.failure (.other 111)).nullWithoutError = false ∧
      ropenWith (.failure (.other 111)) ≠ none := by
  intro p tr
  obtain ⟨s, hs⟩ : exists s, run (SortRoutine.insertion Nat) false (idle p) tr = some s :=
    ⟨_, rfl⟩
  have hk : s.completion 0 = some (.getConnection (.failure (.other 111))) := by
    cases hs
    rfl
  exact ⟨s, hs, hk, (null_connection_iff_error (SortRoutine.insertion Nat) false).2 p tr s 0 _ hs hk⟩

end System

end Requests
