import Requests.Lookup
import Requests.Selection

/-!
# The pool under concurrent callers

The pool's callers run as coroutines on one executor.  An `async_get_connection_op`
tries the mutex, waits for it if it is taken, runs its pass up to `async_connect` and
suspends there with the mutex held; an `async_lookup_op` suspends in `async_resolve`
the same way.  A synchronous `get_connection` or `lookup` runs start to finish without
a suspension, so it needs the mutex free (or fails acquiring it).  Between any two
steps the environment may start or finish requests on a pooled connection, or close
its transport.

`System` is the pool with its mutex and every caller so far, `step` one of those moves
(`none` when it is not enabled), and `run` a whole interleaving.  The std::sort routine
and whether the stream has SSL are parameters of the model.
-/

namespace Requests

/-- Where an `async_get_connection_op` stands. -/
inductive GetStage (Endpoint : Type) where
  | start
  | waitLock
  | connecting (ep : Endpoint) (nconn : Connection)
  | done (r : Completion)
  deriving DecidableEq, Repr

/-- Where an `async_lookup_op` stands. -/
inductive LookupStage where
  | start
  | waitLock
  | resolving
  | done (ec : Option Error)
  deriving DecidableEq, Repr

/-- A caller of the pool: a coroutine of either kind, or a synchronous call, recorded
once it has returned. -/
inductive Caller (Endpoint : Type) where
  | getConnection (stage : GetStage Endpoint)
  | lookup (av : Authority) (stage : LookupStage)
  deriving DecidableEq, Repr

/-- What a caller completed with. -/
inductive Outcome where
  | getConnection (r : Completion)
  | lookup (ec : Option Error)
  deriving DecidableEq, Repr

namespace Caller

variable {Endpoint : Type}

/-- Not yet at `try_lock`. -/
def isStart : Caller Endpoint → Bool
  | .getConnection .start => true
  | .lookup _ .start => true
  | _ => false

/-- Suspended in `mutex_.async_lock`. -/
def isWaiting : Caller Endpoint → Bool
  | .getConnection .waitLock => true
  | .lookup _ .waitLock => true
  | _ => false

/-- Suspended while holding the mutex: in `async_connect` or in `async_resolve`. -/
def inSection : Caller Endpoint → Bool
  | .getConnection (.connecting _ _) => true
  | .lookup _ .resolving => true
  | _ => false

/-- `try_lock` failed: wait in `async_lock`. -/
def wait : Caller Endpoint → Caller Endpoint
  | .getConnection _ => .getConnection .waitLock
  | .lookup av _ => .lookup av .waitLock

/-- `async_lock` completed with an error: `if (ec) return`. -/
def fail (e : Error) : Caller Endpoint → Caller Endpoint
  | .getConnection _ => .getConnection (.done (.failure e))
  | .lookup av _ => .lookup av (.done (some e))

def outcome : Caller Endpoint → Option Outcome
  | .getConnection (.done r) => some (.getConnection r)
  | .lookup _ (.done ec) => some (.lookup ec)
  | _ => none

@[simp] theorem inSection_wait (c : Caller Endpoint) : c.wait.inSection = false := by
  cases c <;> rfl

@[simp] theorem inSection_fail (e : Error) (c : Caller Endpoint) :
    (c.fail e).inSection = false := by
  cases c <;> rfl

theorem not_inSection_of_isStart {c : Caller Endpoint} (h : c.isStart = true) :
    c.inSection = false := by
  rcases c with (_ | _ | _ | _) | ⟨av, _ | _ | _ | _⟩ <;> simp_all [isStart, inSection]

theorem not_inSection_of_isWaiting {c : Caller Endpoint} (h : c.isWaiting = true) :
    c.inSection = false := by
  rcases c with (_ | _ | _ | _) | ⟨av, _ | _ | _ | _⟩ <;> simp_all [isWaiting, inSection]

theorem outcome_eq_none_of_isStart {c : Caller Endpoint} (h : c.isStart = true) :
    c.outcome = none := by
  rcases c with (_ | _ | _ | _) | ⟨av, _ | _ | _ | _⟩ <;> simp_all [isStart, outcome]

theorem outcome_eq_none_of_isWaiting {c : Caller Endpoint} (h : c.isWaiting = true) :
    c.outcome = none := by
  rcases c with (_ | _ | _ | _) | ⟨av, _ | _ | _ | _⟩ <;> simp_all [isWaiting, outcome]

@[simp] theorem outcome_wait (c : Caller Endpoint) : c.wait.outcome = none := by
  cases c <;> rfl

end Caller

namespace Pool.Suspension

variable {Endpoint : Type}

/-- The caller a suspension leaves behind. -/
def toCaller : Pool.Suspension Endpoint → Caller Endpoint
  | .returned r => .getConnection (.done r)
  | .connecting ep nconn => .getConnection (.connecting ep nconn)

/-- Whether the coroutine still holds the mutex. -/
def holdsLock : Pool.Suspension Endpoint → Bool
  | .returned _ => false
  | .connecting _ _ => true

@[simp] theorem inSection_toCaller (susp : Pool.Suspension Endpoint) :
    susp.toCaller.inSection = susp.holdsLock := by
  cases susp <;> rfl

end Pool.Suspension

/-- One interleaving step. -/
inductive Event (Endpoint : Type) where
  | spawnGetConnection
  | spawnLookup (av : Authority)
  | tryLock (k : Nat)
  | lockGranted (k : Nat)
  | lockFailed (k : Nat) (e : Error)
  | connectDone (k : Nat) (connectEc : Option Error)
  | resolveDone (k : Nat) (resolve : String → String → ResolveOutcome Endpoint)
  | updateConnection (i : Nat) (workingRequests : UInt64) (isOpen : Bool)
  | getConnection (lockEc connectEc : Option Error)
  | lookup (av : Authority) (lockEc : Option Error)
      (resolve : String → String → ResolveOutcome Endpoint)

/-- A synchronous `get_connection`, the one caller that can grow the pool past its
limit. -/
def Event.isSyncGetConnection {Endpoint : Type} : Event Endpoint → Bool
  | .getConnection _ _ => true
  | _ => false

/-- The pool, whether its mutex is held, and the callers in the order they started. -/
structure System (Endpoint : Type) where
  pool : Pool Endpoint
  locked : Bool
  callers : List (Caller Endpoint)

namespace System

variable {Endpoint : Type}

/-- A pool with no caller yet. -/
def idle (p : Pool Endpoint) : System Endpoint :=
  { pool := p, locked := false, callers := [] }

/-- What caller `k` has completed with, if it has. -/
def completion (s : System Endpoint) (k : Nat) : Option Outcome :=
  s.callers[k]?.bind Caller.outcome

/-!
# Completions

`completion` reads only the callers: a caller that changes stage changes its own entry, and
a new caller adds an entry past the end.
-/

theorem completion_set {s : System Endpoint} {k : Nat} {c : Caller Endpoint}
    (hc : s.callers[k]? = some c) (a : Caller Endpoint) (p : Pool Endpoint) (b : Bool) :
    completion ⟨p, b, s.callers.set k a⟩ = Function.update s.completion k a.outcome := by
  funext j
  by_cases hj : k = j
  · subst hj
    simp [completion, List.getElem?_set_self (List.getElem?_eq_some.mp hc).1]
  · simp [completion, List.getElem?_set_ne hj, Function.update_noteq (Ne.symm hj)]

theorem completion_set_of_outcome {s : System Endpoint} {k : Nat} {c : Caller Endpoint}
    (hc : s.callers[k]? = some c) (a : Caller Endpoint) (ha : a.outcome = c.outcome) (p : Pool Endpoint) (b : Bool) :
    completion ⟨p, b, s.callers.set k a⟩ = s.completion := by
  rw [completion_set hc, Function.update_eq_self_iff, ha]
  simp [completion, hc]

theorem completion_append (s : System Endpoint) (a : Caller Endpoint) (p : Pool Endpoint)
    (b : Bool) :
    completion ⟨p, b, s.callers ++ [a]⟩ = Function.update s.completion s.callers.length a.outcome := by
  funext j
  rcases Nat.lt_or_ge j s.callers.length with hj | hj
  · simp [completion, List.getElem?_append_left hj, Function.update_noteq (Nat.ne_of_lt hj)]
  · rcases Nat.eq_or_lt_of_le hj with rfl | hj
    · simp [completion]
    · simp [completion, List.getElem?_eq_none, Nat.le_of_lt hj, Nat.succ_le_of_lt hj,
        Function.update_noteq (Nat.ne_of_gt hj)]

theorem completion_append_of_outcome (s : System Endpoint) (a : Caller Endpoint)
    (ha : a.outcome = none) (p : Pool Endpoint) (b : Bool) :
    completion ⟨p, b, s.callers ++ [a]⟩ = s.completion := by
  rw [completion_append, Function.update_eq_self_iff, ha]
  simp [completion]

theorem completion_set_eq_some {s : System Endpoint} {k j : Nat} {c : Caller Endpoint}
    (hc : s.callers[k]? = some c) {a : Caller Endpoint} {p : Pool Endpoint} {b : Bool}
    {o : Outcome} (hj : s.completion j = none)
    (h : completion ⟨p, b, s.callers.set k a⟩ j = some o) : j = k ∧ a.outcome = some o := by
  rw [completion_set hc] at h
  by_cases hjk : j = k
  · subst hjk
    simpa using h
  · rw [Function.update_noteq hjk, hj] at h
    cases h

theorem completion_append_eq_some {s : System Endpoint} {j : Nat} {a : Caller Endpoint}
    {p : Pool Endpoint} {b : Bool} {o : Outcome} (hj : s.completion j = none)
    (h : completion ⟨p, b, s.callers ++ [a]⟩ j = some o) : a.outcome = some o := by
  rw [completion_append] at h
  by_cases hjk : j = s.callers.length
  · subst hjk
    simpa using h
  · rw [Function.update_noteq hjk, hj] at h
    cases h

theorem getElem?_set_of_inSection {l : List (Caller Endpoint)} {j k : Nat}
    {b c : Caller Endpoint} (a : Caller Endpoint) (hb : l[j]? = some b) (hb' : b.inSection = false)
    (hc : l[k]? = some c) (hc' : c.inSection = true) : (l.set j a)[k]? = some c := by
  have hjk : j ≠ k := by
    rintro rfl
    rw [hb, Option.some.injEq] at hc
    rw [← hc, hb'] at hc'
    cases hc'
  rw [List.getElem?_set_ne hjk, hc]

theorem getElem?_append_of_eq_some {l : List (Caller Endpoint)} {k : Nat} {c : Caller Endpoint}
    (a : Caller Endpoint) (hc : l[k]? = some c) : (l ++ [a])[k]? = some c := by
  rw [List.getElem?_append_left (List.getElem?_eq_some.mp hc).1, hc]

section Step

variable [DecidableEq Endpoint] (sort : SortRoutine Endpoint) (ssl : Bool)

/-- Caller `k` takes the mutex and runs until it returns or suspends. -/
def enter (s : System Endpoint) (k : Nat) : Caller Endpoint → System Endpoint
  | .getConnection _ =>
      let susp := Pool.AsyncGetConnectionOp.resumeLocked sort s.pool
      { pool := susp.2, locked := susp.1.holdsLock, callers := s.callers.set k susp.1.toCaller }
  | .lookup av _ => { s with locked := true, callers := s.callers.set k (.lookup av .resolving) }

/-- One step of the interleaving, `none` when the event is not enabled. -/
def step (s : System Endpoint) : Event Endpoint → Option (System Endpoint)
  | .spawnGetConnection => some { s with callers := s.callers ++ [.getConnection .start] }
  | .spawnLookup av => some { s with callers := s.callers ++ [.lookup av .start] }
  | .tryLock k =>
      match s.callers[k]? with
      | some c =>
          if c.isStart then
            if s.locked then some { s with callers := s.callers.set k c.wait }
            else some (s.enter sort k c)
          else none
      | none => none
  | .lockGranted k =>
      match s.callers[k]? with
      | some c => if c.isWaiting && !s.locked then some (s.enter sort k c) else none
      | none => none
  | .lockFailed k e =>
      match s.callers[k]? with
      | some c => if c.isWaiting then some { s with callers := s.callers.set k (c.fail e) } else none
      | none => none
  | .connectDone k connectEc =>
      match s.callers[k]? with
      | some (.getConnection (.connecting ep nconn)) =>
          let r := s.pool.finishConnect ep nconn connectEc
          some { pool := r.2, locked := false,
                 callers := s.callers.set k (.getConnection (.done r.1)) }
      | _ => none
  | .resolveDone k resolve =>
      match s.callers[k]? with
      | some (.lookup av .resolving) =>
          let r := Pool.AsyncLookupOp.resumeResolved (resolve av.host (service ssl av)) s.pool
          some { pool := r.2, locked := false, callers := s.callers.set k (.lookup av (.done r.1)) }
      | _ => none
  | .updateConnection i w o =>
      if i < s.pool.conns.length then some { s with pool := s.pool.updateConnection i w o }
      else none
  | .getConnection lockEc connectEc =>
      if lockEc.isNone && s.locked then none
      else
        let r := s.pool.getConnection sort lockEc connectEc
        some { s with pool := r.2, callers := s.callers ++ [.getConnection (.done r.1)] }
  | .lookup av lockEc resolve =>
      if lockEc.isNone && s.locked then none
      else
        let r := s.pool.lookup ssl resolve av lockEc
        some { s with pool := r.2, callers := s.callers ++ [.lookup av (.done r.1)] }

/-- A whole interleaving, `none` if some event of it is not enabled when it comes. -/
def run (s : System Endpoint) : List (Event Endpoint) → Option (System Endpoint)
  | [] => some s
  | e :: es =>
      match step sort ssl s e with
      | none => none
      | some s' => run s' es

theorem run_cons_eq_some {s s'' : System Endpoint} {e : Event Endpoint}
    {es : List (Event Endpoint)} :
    run sort ssl s (e :: es) = some s'' ↔
      exists s', step sort ssl s e = some s' ∧ run sort ssl s' es = some s'' := by
  simp only [run]
  cases step sort ssl s e <;> simp

/-- A property of states that every enabled step of a kind preserves holds at the end
of every run made of steps of that kind. -/
theorem run_preserves (P : System Endpoint → Prop) (Q : Event Endpoint → Prop)
    (hstep : ∀ s e s', P s → Q e → step sort ssl s e = some s' → P s') :
    ∀ (tr : List (Event Endpoint)) (s s' : System Endpoint),
      P s → (∀ e ∈ tr, Q e) → run sort ssl s tr = some s' → P s'
  | [], s, s', hs, _, h => by
      cases h
      exact hs
  | e :: es, s, s', hs, hq, h => by
      obtain ⟨s₁, h₁, h₂⟩ := (run_cons_eq_some sort ssl).mp h
      exact run_preserves P Q hstep es s₁ s' (hstep s e s₁ hs (hq e (by simp)) h₁)
        (fun e' he' => hq e' (by simp [he'])) h₂

theorem run_append_singleton (s : System Endpoint) (tr : List (Event Endpoint))
    (e : Event Endpoint) :
    run sort ssl s (tr ++ [e]) = (run sort ssl s tr).bind fun s' => step sort ssl s' e := by
  induction tr generalizing s with
  | nil =>
      show (match step sort ssl s e with | none => none | some s' => some s') = step sort ssl s e
      cases step sort ssl s e <;> rfl
  | cons e' es ih =>
      simp only [List.cons_append, run]
      cases step sort ssl s e' <;> simp [ih]

/-!
# What one step can do

One lemma per event kind, so that invariant proofs never unfold `step`.
-/

variable {sort ssl} {s s' : System Endpoint}

theorem enter_pool (s : System Endpoint) (k : Nat) (c : Caller Endpoint) :
    (s.enter sort k c).pool.host = s.pool.host ∧ (s.enter sort k c).pool.limit = s.pool.limit ∧
      (s.enter sort k c).pool.conns = s.pool.conns ∧
      (s.enter sort k c).pool.endpoints.Perm s.pool.endpoints := by
  cases c with
  | getConnection _ => exact Pool.AsyncGetConnectionOp.resumeLocked_frame sort s.pool
  | lookup _ _ => exact ⟨rfl, rfl, rfl, List.Perm.refl _⟩

theorem step_tryLock {k : Nat} (h : step sort ssl s (.tryLock k) = some s') :
    exists c, s.callers[k]? = some c ∧ c.isStart = true ∧
      (s.locked = true ∧ s' = { s with callers := s.callers.set k c.wait } ∨
        s.locked = false ∧ s' = s.enter sort k c) := by
  simp only [step] at h
  split at h
  · rename_i c hc
    split at h
    · rename_i hstart
      split at h
      · cases h
        exact ⟨c, hc, hstart, .inl ⟨‹_›, rfl⟩⟩
      · rename_i hfree
        cases h
        exact ⟨c, hc, hstart, .inr ⟨Bool.eq_false_iff.mpr hfree, rfl⟩⟩
    · cases h
  · cases h

theorem step_lockGranted {k : Nat} (h : step sort ssl s (.lockGranted k) = some s') :
    exists c, s.callers[k]? = some c ∧ c.isWaiting = true ∧ s.locked = false ∧
      s' = s.enter sort k c := by
  simp only [step] at h
  split at h
  · rename_i c hc
    split at h
    · rename_i hw
      cases h
      simp only [Bool.and_eq_true, Bool.not_eq_true'] at hw
      exact ⟨c, hc, hw.1, hw.2, rfl⟩
    · cases h
  · cases h

theorem step_lockFailed {k : Nat} {e : Error} (h : step sort ssl s (.lockFailed k e) = some s') :
    exists c, s.callers[k]? = some c ∧ c.isWaiting = true ∧
      s' = { s with callers := s.callers.set k (c.fail e) } := by
  simp only [step] at h
  split at h
  · rename_i c hc
    split at h
    · cases h
      exact ⟨c, hc, ‹_›, rfl⟩
    · cases h
  · cases h

theorem step_connectDone {k : Nat} {connectEc : Option Error}
    (h : step sort ssl s (.connectDone k connectEc) = some s') :
    exists ep nconn, s.callers[k]? = some (.getConnection (.connecting ep nconn)) ∧
      s' = { pool := (s.pool.finishConnect ep nconn connectEc).2, locked := false,
             callers := s.callers.set k
               (.getConnection (.done (s.pool.finishConnect ep nconn connectEc).1)) } := by
  simp only [step] at h
  split at h
  · cases h
    exact ⟨_, _, ‹_›, rfl⟩
  · cases h

theorem step_resolveDone {k : Nat} {resolve : String → String → ResolveOutcome Endpoint}
    (h : step sort ssl s (.resolveDone k resolve) = some s') :
    exists av, s.callers[k]? = some (.lookup av .resolving) ∧
      s' = { pool := (Pool.AsyncLookupOp.resumeResolved (resolve av.host (service ssl av))
                s.pool).2,
             locked := false,
             callers := s.callers.set k (.lookup av (.done
               (Pool.AsyncLookupOp.resumeResolved (resolve av.host (service ssl av))
                 s.pool).1)) } := by
  simp only [step] at h
  split at h
  · cases h
    exact ⟨_, ‹_›, rfl⟩
  · cases h

theorem step_updateConnection {i : Nat} {w : UInt64} {o : Bool}
    (h : step sort ssl s (.updateConnection i w o) = some s') :
    i < s.pool.conns.length ∧ s' = { s with pool := s.pool.updateConnection i w o } := by
  simp only [step] at h
  split at h
  · cases h
    exact ⟨‹_›, rfl⟩
  · cases h

theorem step_getConnection {lockEc connectEc : Option Error}
    (h : step sort ssl s (.getConnection lockEc connectEc) = some s') :
    (lockEc = none → s.locked = false) ∧
      s' = { s with pool := (s.pool.getConnection sort lockEc connectEc).2,
                    callers := s.callers ++
                      [.getConnection (.done (s.pool.getConnection sort lockEc connectEc).1)] } := by
  simp only [step] at h
  split at h
  · cases h
  · rename_i hfree
    cases h
    refine ⟨fun hnone => ?_, rfl⟩
    subst hnone
    simpa using hfree

theorem step_lookup {av : Authority} {lockEc : Option Error}
    {resolve : String → String → ResolveOutcome Endpoint}
    (h : step sort ssl s (.lookup av lockEc resolve) = some s') :
    (lockEc = none → s.locked = false) ∧
      s' = { s with pool := (s.pool.lookup ssl resolve av lockEc).2,
                    callers := s.callers ++
                      [.lookup av (.done (s.pool.lookup ssl resolve av lockEc).1)] } := by
  simp only [step] at h
  split at h
  · cases h
  · rename_i hfree
    cases h
    refine ⟨fun hnone => ?_, rfl⟩
    subst hnone
    simpa using hfree

end Step

end System

end Requests
