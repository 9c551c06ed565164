import Requests.System

/-!
# Mutual exclusion and the connection limit

The pool mutex is held exactly while one coroutine is suspended inside its critical
section, in `async_connect` or in `async_resolve`.  The capacity check of
`async_get_connection_op` and its `emplace` sit in one such section ("don't unlock
here"), so however the coroutines interleave, `conns_` never outgrows `limit_`: a
coroutine suspended in `async_connect` has seen `conns_.size() < limit_`, and nobody
else can insert before it resumes.
-/

namespace Requests

namespace System

variable {Endpoint : Type}

/-!
## List helpers
-/

private theorem countP_set_add {α : Type} (p : α → Bool) {l : List α} {k : Nat} {c : α}
    (a : α) (h : l[k]? = some c) :
    (l.set k a).countP p + (if p c then 1 else 0) = l.countP p + (if p a then 1 else 0) := by
  obtain ⟨hk, hc⟩ := List.getElem?_eq_some.mp h
  have hle := List.boole_getElem_le_countP p l k hk
  rw [List.countP_set p l k a hk]
  rw [hc] at hle ⊢
  omega

private theorem eq_of_countP_le_one {α : Type} {p : α → Bool} {l : List α}
    (hle : l.countP p ≤ 1) :
    ∀ {j k : Nat} {a b : α}, l[j]? = some a → l[k]? = some b → p a = true → p b = true →
      j = k := by
  induction l with
  | nil => intro j k a b hj; simp at hj
  | cons x xs ih =>
      intro j k a b hj hk pa pb
      rw [List.countP_cons] at hle
      cases j with
      | zero =>
          cases k with
          | zero => rfl
          | succ k =>
              simp only [List.getElem?_cons_zero, Option.some.injEq,
                List.getElem?_cons_succ] at hj hk
              subst hj
              have := List.countP_pos_iff.mpr ⟨b, List.getElem?_mem hk, pb⟩
              simp only [pa, if_true] at hle
              omega
      | succ j =>
          cases k with
          | zero =>
              simp only [List.getElem?_cons_zero, Option.some.injEq,
                List.getElem?_cons_succ] at hj hk
              subst hk
              have := List.countP_pos_iff.mpr ⟨a, List.getElem?_mem hj, pa⟩
              simp only [pb, if_true] at hle
              omega
          | succ k =>
              simp only [List.getElem?_cons_succ] at hj hk
              rw [ih (Nat.le_trans (Nat.le_add_right _ _) hle) hj hk pa pb]

/-!
# The mutex
-/

/-- The mutex is held exactly when one caller is suspended inside its critical section. -/
def MutexInv (s : System Endpoint) : Prop :=
  s.callers.countP Caller.inSection = if s.locked then 1 else 0

theorem mutexInv_idle (p : Pool Endpoint) : MutexInv (idle p) := rfl

theorem MutexInv.not_inSection {s : System Endpoint} (hinv : MutexInv s)
    (hfree : s.locked = false) {c : Caller Endpoint} (hc : c ∈ s.callers) :
    c.inSection = false := by
  rw [MutexInv, hfree, if_neg Bool.false_ne_true, List.countP_eq_zero] at hinv
  simpa using hinv c hc

theorem MutexInv.locked_of_inSection {s : System Endpoint} (hinv : MutexInv s)
    {c : Caller Endpoint} (hc : c ∈ s.callers) (hin : c.inSection = true) : s.locked = true := by
  cases hl : s.locked
  · rw [hinv.not_inSection hl hc] at hin
    cases hin
  · rfl

theorem MutexInv.unique {s : System Endpoint} (hinv : MutexInv s) {j k : Nat}
    {a b : Caller Endpoint} (hj : s.callers[j]? = some a) (hk : s.callers[k]? = some b)
    (ha : a.inSection = true) (hb : b.inSection = true) : j = k := by
  have hle : s.callers.countP Caller.inSection ≤ 1 := by
    rw [hinv]
    split <;> omega
  exact eq_of_countP_le_one hle hj hk ha hb

theorem mutexInv_set {s : System Endpoint} (hinv : MutexInv s) {k : Nat}
    {c a : Caller Endpoint} (hc : s.callers[k]? = some c) (hc' : c.inSection = false)
    (ha : a.inSection = false) : MutexInv { s with callers := s.callers.set k a } := by
  have := countP_set_add Caller.inSection a hc
  simp only [hc', ha] at this
  simpa [MutexInv] using this.trans hinv

theorem mutexInv_append {s : System Endpoint} (hinv : MutexInv s) (a : Caller Endpoint)
    (ha : a.inSection = false) (p : Pool Endpoint) :
    MutexInv { s with pool := p, callers := s.callers ++ [a] } := by
  simpa [MutexInv, List.countP_append, ha] using hinv

section Step

variable [DecidableEq Endpoint] {sort : SortRoutine Endpoint} {ssl : Bool}

theorem mutexInv_enter {s : System Endpoint} (hinv : MutexInv s) (hfree : s.locked = false)
    {k : Nat} {c : Caller Endpoint} (hc : s.callers[k]? = some c) (hc' : c.inSection = false) :
    MutexInv (s.enter sort k c) := by
  have hzero : s.callers.countP Caller.inSection = 0 := by simpa [MutexInv, hfree] using hinv
  cases c with
  | getConnection stage =>
      have := countP_set_add Caller.inSection
        (Pool.AsyncGetConnectionOp.resumeLocked sort s.pool).1.toCaller hc
      simp only [hc', hzero, Pool.Suspension.inSection_toCaller] at this
      simp only [MutexInv, enter]
      split <;> simp_all
  | lookup av stage =>
      have := countP_set_add Caller.inSection (.lookup av .resolving) hc
      rw [hc', hzero] at this
      simpa [MutexInv, enter, Caller.inSection] using this

omit [DecidableEq Endpoint] in
theorem mutexInv_release {s : System Endpoint} (hinv : MutexInv s) {k : Nat}
    {c : Caller Endpoint} (hc : s.callers[k]? = some c) (hin : c.inSection = true)
    (a : Caller Endpoint) (ha : a.inSection = false) (p : Pool Endpoint) :
    MutexInv { pool := p, locked := false, callers := s.callers.set k a } := by
  have hlocked := hinv.locked_of_inSection (List.getElem?_mem hc) hin
  have := countP_set_add Caller.inSection a hc
  simp only [hin, ha, if_true, Bool.false_eq_true, if_false] at this
  simp only [MutexInv, hlocked, if_true] at hinv
  simp only [MutexInv, Bool.false_eq_true, if_false]
  omega

theorem mutexInv_step {s s' : System Endpoint} {e : Event Endpoint} (hinv : MutexInv s)
    (h : step sort ssl s e = some s') : MutexInv s' := by
  cases e with
  | spawnGetConnection =>
      cases h
      exact mutexInv_append hinv (.getConnection .start) rfl s.pool
  | spawnLookup av =>
      cases h
      exact mutexInv_append hinv (.lookup av .start) rfl s.pool
  | tryLock k =>
      obtain ⟨c, hc, hstart, ⟨-, rfl⟩ | ⟨hfree, rfl⟩⟩ := step_tryLock h
      · exact mutexInv_set hinv hc (Caller.not_inSection_of_isStart hstart) (Caller.inSection_wait c)
      · exact mutexInv_enter hinv hfree hc (Caller.not_inSection_of_isStart hstart)
  | lockGranted k =>
      obtain ⟨c, hc, hwait, hfree, rfl⟩ := step_lockGranted h
      exact mutexInv_enter hinv hfree hc (Caller.not_inSection_of_isWaiting hwait)
  | lockFailed k err =>
      obtain ⟨c, hc, hwait, rfl⟩ := step_lockFailed h
      exact mutexInv_set hinv hc (Caller.not_inSection_of_isWaiting hwait) (Caller.inSection_fail _ c)
  | connectDone k connectEc =>
      obtain ⟨ep, nconn, hc, rfl⟩ := step_connectDone h
      exact mutexInv_release hinv hc rfl (.getConnection (.done _)) rfl _
  | resolveDone k resolve =>
      obtain ⟨av, hc, rfl⟩ := step_resolveDone h
      exact mutexInv_release hinv hc rfl (.lookup av (.done _)) rfl _
  | updateConnection i w o =>
      obtain ⟨-, rfl⟩ := step_updateConnection h
      exact hinv
  | getConnection lockEc connectEc =>
      obtain ⟨-, rfl⟩ := step_getConnection h
      exact mutexInv_append hinv (.getConnection (.done _)) rfl _
  | lookup av lockEc resolve =>
      obtain ⟨-, rfl⟩ := step_lookup h
      exact mutexInv_append hinv (.lookup av (.done _)) rfl _

theorem mutexInv_run {s s' : System Endpoint} {tr : List (Event Endpoint)} (hinv : MutexInv s)
    (h : run sort ssl s tr = some s') : MutexInv s' :=
  run_preserves sort ssl MutexInv (fun _ => True) (fun _ _ _ hs _ hstep => mutexInv_step hs hstep)
    tr s s' hinv (fun _ _ => trivial) h

/-!
# The limit

`Capacity slack` bounds `conns_` by `limit_ + slack`, and strictly by `limit_` while a
coroutine is suspended in `async_connect`.  Every coroutine step keeps it for any slack;
a synchronous `get_connection` needs a slack of one.
-/

omit [DecidableEq Endpoint] in
theorem mem_of_inSection {l : List (Caller Endpoint)} {x a : Caller Endpoint}
    (hx : x.inSection = true) (ha : a.inSection = false) :
    (∀ k, x ∈ l.set k a → x ∈ l) ∧ (x ∈ l ++ [a] → x ∈ l) := by
  have hne : x ≠ a := fun hxa => by rw [hxa, ha] at hx; cases hx
  refine ⟨fun k hmem => (List.mem_or_eq_of_mem_set hmem).resolve_right hne, fun hmem => ?_⟩
  rcases List.mem_append.mp hmem with hmem | hmem
  · exact hmem
  · exact absurd (List.mem_singleton.mp hmem) hne

theorem limit_step {s s' : System Endpoint} {e : Event Endpoint}
    (h : step sort ssl s e = some s') : s'.pool.limit = s.pool.limit := by
  cases e with
  | spawnGetConnection => cases h; rfl
  | spawnLookup av => cases h; rfl
  | tryLock k =>
      obtain ⟨c, -, -, ⟨-, rfl⟩ | ⟨-, rfl⟩⟩ := step_tryLock h
      · rfl
      · exact (enter_pool s k c).2.1
  | lockGranted k =>
      obtain ⟨c, -, -, -, rfl⟩ := step_lockGranted h
      exact (enter_pool s k c).2.1
  | lockFailed k err => obtain ⟨c, -, -, rfl⟩ := step_lockFailed h; rfl
  | connectDone k connectEc =>
      obtain ⟨ep, nconn, -, rfl⟩ := step_connectDone h
      exact Pool.finishConnect_limit _ _ _ _
  | resolveDone k resolve =>
      obtain ⟨av, -, rfl⟩ := step_resolveDone h
      exact Pool.AsyncLookupOp.resumeResolved_limit _ _
  | updateConnection i w o => obtain ⟨-, rfl⟩ := step_updateConnection h; rfl
  | getConnection lockEc connectEc =>
      obtain ⟨-, rfl⟩ := step_getConnection h
      exact Pool.getConnection_limit _ _ _ _
  | lookup av lockEc resolve =>
      obtain ⟨-, rfl⟩ := step_lookup h
      exact Pool.lookup_limit _ _ _ _ _

/-- `conns_` is at most `slack` past the limit, and strictly below the limit while a
coroutine is suspended in `async_connect`. -/
def Capacity (slack : Nat) (s : System Endpoint) : Prop :=
  s.pool.conns.length ≤ s.pool.limit + slack ∧
    ∀ ep nconn, Caller.getConnection (.connecting ep nconn) ∈ s.callers →
      s.pool.conns.length < s.pool.limit

omit [DecidableEq Endpoint] in
theorem capacity_of_frame {slack : Nat} {s s' : System Endpoint} (hcap : Capacity slack s)
    (hlen : s'.pool.conns.length = s.pool.conns.length) (hlim : s'.pool.limit = s.pool.limit)
    (hcallers : ∀ ep nconn, Caller.getConnection (.connecting ep nconn) ∈ s'.callers →
      Caller.getConnection (.connecting ep nconn) ∈ s.callers) : Capacity slack s' := by
  rw [Capacity, hlen, hlim]
  exact ⟨hcap.1, fun ep nconn hmem => hcap.2 ep nconn (hcallers ep nconn hmem)⟩

theorem capacity_enter {slack : Nat} {s : System Endpoint} (hcap : Capacity slack s) (k : Nat)
    (c : Caller Endpoint) : Capacity slack (s.enter sort k c) := by
  obtain ⟨-, hlim, hconns, -⟩ := @enter_pool _ _ sort s k c
  refine ⟨by simpa only [hconns, hlim] using hcap.1, fun ep nconn hmem => ?_⟩
  rw [hconns, hlim]
  cases c with
  | getConnection stage =>
      rcases hr : Pool.AsyncGetConnectionOp.resumeLocked sort s.pool with ⟨susp, p'⟩
      simp only [enter, hr] at hmem
      rcases List.mem_or_eq_of_mem_set hmem with hmem | heq
      · exact hcap.2 ep nconn hmem
      · cases susp with
        | returned r => cases heq
        | connecting ep' nconn' =>
            exact (Pool.AsyncGetConnectionOp.resumeLocked_connecting hr).2.1
  | lookup av stage =>
      exact hcap.2 ep nconn ((List.mem_or_eq_of_mem_set hmem).resolve_right (by simp))

theorem capacity_step {slack : Nat} {s s' : System Endpoint} {e : Event Endpoint}
    (hcap : Capacity slack s) (hinv : MutexInv s)
    (hslack : e.isSyncGetConnection = true → 1 ≤ slack) (h : step sort ssl s e = some s') :
    Capacity slack s' := by
  have hinv' := mutexInv_step hinv h
  cases e with
  | spawnGetConnection =>
      cases h
      exact capacity_of_frame hcap rfl rfl fun _ _ hx => (mem_of_inSection (by rfl) (by rfl)).2 hx
  | spawnLookup av =>
      cases h
      exact capacity_of_frame hcap rfl rfl fun _ _ hx => (mem_of_inSection (by rfl) (by rfl)).2 hx
  | tryLock k =>
      obtain ⟨c, -, -, ⟨-, rfl⟩ | ⟨-, rfl⟩⟩ := step_tryLock h
      · exact capacity_of_frame hcap rfl rfl fun _ _ hx =>
          (mem_of_inSection (by rfl) (Caller.inSection_wait c)).1 k hx
      · exact capacity_enter hcap k c
  | lockGranted k =>
      obtain ⟨c, -, -, -, rfl⟩ := step_lockGranted h
      exact capacity_enter hcap k c
  | lockFailed k err =>
      obtain ⟨c, -, -, rfl⟩ := step_lockFailed h
      exact capacity_of_frame hcap rfl rfl fun _ _ hx =>
        (mem_of_inSection (by rfl) (Caller.inSection_fail err c)).1 k hx
  | connectDone k connectEc =>
      obtain ⟨ep, nconn, hc, rfl⟩ := step_connectDone h
      have hlt := hcap.2 ep nconn (List.getElem?_mem hc)
      refine ⟨?_, fun ep' nconn' hmem => ?_⟩
      · have := s.pool.finishConnect_length_le ep nconn connectEc
        simp only [Pool.finishConnect_limit]
        omega
      · cases hinv'.not_inSection rfl hmem
  | resolveDone k resolve =>
      obtain ⟨av, -, rfl⟩ := step_resolveDone h
      exact capacity_of_frame hcap (by simp) (by simp) fun _ _ hx =>
        (mem_of_inSection (by rfl) (by rfl)).1 k hx
  | updateConnection i w o =>
      obtain ⟨-, rfl⟩ := step_updateConnection h
      exact capacity_of_frame hcap (by simp) rfl fun _ _ hx => hx
  | getConnection lockEc connectEc =>
      obtain ⟨hfree, rfl⟩ := step_getConnection h
      refine ⟨?_, fun ep nconn hmem => ?_⟩
      · have hgrow := Pool.getConnection_length_le sort lockEc connectEc s.pool
        have hone := hslack rfl
        have hold := hcap.1
        simp only [Pool.getConnection_limit]
        omega
      · have hold : Caller.getConnection (.connecting ep nconn) ∈ s.callers :=
          (mem_of_inSection (by rfl) (by rfl)).2 hmem
        cases lockEc with
        | none => cases hinv.not_inSection (hfree rfl) hold
        | some err => exact hcap.2 ep nconn hold
  | lookup av lockEc resolve =>
      obtain ⟨-, rfl⟩ := step_lookup h
      exact capacity_of_frame hcap (by simp) (by simp) fun _ _ hx =>
        (mem_of_inSection (by rfl) (by rfl)).2 hx

/-- Coroutines alone never take a pool built with `limit` past `limit` connections. -/
theorem active_le_limit (limit : Nat) (tr : List (Event Endpoint)) (s : System Endpoint)
    (hasync : ∀ e ∈ tr, e.isSyncGetConnection = false)
    (h : run sort ssl (idle (Pool.fresh limit)) tr = some s) :
    s.pool.limit = limit ∧ s.pool.conns.length ≤ limit := by
  have hall := run_preserves sort ssl
    (fun s => MutexInv s ∧ Capacity 0 s ∧ s.pool.limit = limit)
    (fun e => e.isSyncGetConnection = false)
    (fun s e s' ⟨hinv, hcap, hlim⟩ hsync hstep =>
      ⟨mutexInv_step hinv hstep,
        capacity_step hcap hinv (fun h => Bool.noConfusion (hsync.symm.trans h)) hstep,
        (limit_step hstep).trans hlim⟩)
    tr (idle (Pool.fresh limit)) s ⟨mutexInv_idle _, ⟨Nat.zero_le _, fun _ _ h => by cases h⟩, rfl⟩ hasync h
  exact ⟨hall.2.2, hall.2.2 ▸ hall.2.1.1⟩

/-!
# With synchronous calls

`get_connection` checks `conns_.size() <= limit_` where the coroutine checks `<`, so a
synchronous call can take the pool one past its limit.  It cannot take it further: a call
on a pool already past the limit reuses a connection, and a coroutine inside
`async_connect`, the only other way to grow, has seen `conns_` below the limit and keeps
the mutex until it has inserted.
-/

/-- With synchronous calls, the pool stays at most one past its limit. -/
theorem active_le_limit_succ (p : Pool Endpoint) (hp : p.conns.length ≤ p.limit + 1)
    (tr : List (Event Endpoint)) (s : System Endpoint)
    (h : run sort ssl (idle p) tr = some s) :
    s.pool.limit = p.limit ∧ s.pool.conns.length ≤ p.limit + 1 := by
  have hall := run_preserves sort ssl
    (fun s => MutexInv s ∧ Capacity 1 s ∧ s.pool.limit = p.limit) (fun _ => True)
    (fun s e s' ⟨hinv, hcap, hlim⟩ _ hstep =>
      ⟨mutexInv_step hinv hstep, capacity_step hcap hinv (fun _ => Nat.le_refl 1) hstep,
        (limit_step hstep).trans hlim⟩)
    tr (idle p) s ⟨mutexInv_idle p, ⟨hp, fun _ _ h => by cases h⟩, rfl⟩ (fun _ _ => trivial) h
  exact ⟨hall.2.2, hall.2.2 ▸ hall.2.1.1⟩

end Step

theorem active_le_limit_race :
    let tr : List (Event Nat) :=
      [.spawnLookup ⟨"example.com", none⟩, .tryLock 0,
        .resolveDone 0 (fun _ _ => .results [⟨"example.com", 1⟩]),
        .spawnGetConnection, .spawnGetConnection, .tryLock 1, .tryLock 2,
        .connectDone 1 none, .updateConnection 0 1 true, .lockGranted 2]
    (∀ e ∈ tr, e.isSyncGetConnection = false) ∧
      exists s, run (SortRoutine.insertion Nat) false (idle (Pool.fresh 1)) tr = some s ∧
        s.pool.limit = 1 ∧ s.pool.conns.length ≤ 1 := by
  intro tr
  have hasync : ∀ e ∈ tr, e.isSyncGetConnection = false := by decide
  obtain ⟨s, hs⟩ : exists s, run (SortRoutine.insertion Nat) false (idle (Pool.fresh 1)) tr =
      some s := ⟨_, rfl⟩
  exact ⟨hasync, s, hs, active_le_limit 1 tr s hasync hs⟩

theorem active_le_limit_succ_sync :
    let p : Pool Nat := ((Pool.fresh 1).lookup false
      (fun _ _ => .results [⟨"h", 1⟩]) ⟨"h", none⟩ none).2
    let tr : List (Event Nat) :=
      [.getConnection none none, .updateConnection 0 1 true, .getConnection none none]
    p.conns.length ≤ p.limit + 1 ∧
      exists s, run (SortRoutine.insertion Nat) false (idle p) tr = some s ∧
        s.pool.conns.length = 2 ∧ s.pool.limit = p.limit ∧ s.pool.conns.length ≤ p.limit + 1 := by
  intro p tr
  have hp : p.conns.length ≤ p.limit + 1 := by decide
  obtain ⟨s, hs, hlen⟩ : exists s, run (SortRoutine.insertion Nat) false (idle p) tr = some s ∧
      s.pool.conns.length = 2 := ⟨_, rfl, rfl⟩
  exact ⟨hp, s, hs, hlen, active_le_limit_succ p hp tr s hs⟩

end System

end Requests
