import Requests.Exclusion
import Requests.SelectionSpec

/-!
# Serializability

The pool mutex makes each caller's critical section atomic: an interleaved run ends with
the same pool and the same completions as the serial run in which every caller's whole
operation runs at once.  The two runs are compared by what their steps show (`Label`):
which caller takes the mutex, as a synchronous call or as a coroutine, and which
environment step is made on a pooled connection.  A coroutine's section is replayed as
`async_get_connection` or `async_lookup`, a synchronous call's as `get_connection` or
`lookup`, and sections and environment steps come in the interleaving's order, a section
stamped where its caller took the mutex: an environment step made while a coroutine was
suspended in its section comes right after that section.  This works because the rest of
a section, once it resumes, reads nothing the environment can change: `finishConnect`
only appends to `conns_`, and the tail of a lookup only writes `host_` and `endpoints_`.
-/

namespace Requests

namespace Pool

variable {Endpoint : Type}

/-- The environment steps `B` on pooled connections, in order. -/
def applyUpdates (p : Pool Endpoint) (B : List (Nat × UInt64 × Bool)) : Pool Endpoint :=
  B.foldl (fun p u => p.updateConnection u.1 u.2.1 u.2.2) p

@[simp] theorem applyUpdates_nil (p : Pool Endpoint) : p.applyUpdates [] = p := rfl

theorem applyUpdates_append (p : Pool Endpoint) (B B' : List (Nat × UInt64 × Bool)) :
    p.applyUpdates (B ++ B') = (p.applyUpdates B).applyUpdates B' := by
  simp [applyUpdates, List.foldl_append]

@[simp] theorem length_applyUpdates (p : Pool Endpoint) (B : List (Nat × UInt64 × Bool)) :
    (p.applyUpdates B).conns.length = p.conns.length := by
  induction B generalizing p with
  | nil => rfl
  | cons u B ih => exact (ih _).trans (length_updateConnection _ _ _ _)

private theorem modify_append_of_lt {α : Type} (f : α → α) (x : α) :
    ∀ {l : List α} {i : Nat}, i < l.length → (l ++ [x]).modify f i = l.modify f i ++ [x]
  | [], _, h => absurd h (Nat.not_lt_zero _)
  | _ :: _, 0, _ => rfl
  | y :: _, _ + 1, h => congrArg (y :: ·) (modify_append_of_lt f x (Nat.lt_of_succ_lt_succ h))

theorem applyUpdates_emplace (p : Pool Endpoint) (ep : Endpoint) (c : Connection)
    (B : List (Nat × UInt64 × Bool)) (hB : ∀ u ∈ B, u.1 < p.conns.length) :
    (p.emplace ep c).applyUpdates B = (p.applyUpdates B).emplace ep c := by
  induction B generalizing p with
  | nil => rfl
  | cons u B ih =>
      have hu : u.1 < p.conns.length := hB u (by simp)
      have hstep : (p.emplace ep c).updateConnection u.1 u.2.1 u.2.2 =
          (p.updateConnection u.1 u.2.1 u.2.2).emplace ep c := by
        simp only [updateConnection, emplace]
        rw [modify_append_of_lt _ _ hu]
      show ((p.emplace ep c).updateConnection u.1 u.2.1 u.2.2).applyUpdates B = _
      rw [hstep, ih _ (fun v hv => by simpa using hB v (by simp [hv]))]
      rfl

theorem finishConnect_applyUpdates (p : Pool Endpoint) (ep : Endpoint) (nconn : Connection)
    (connectEc : Option Error) (B : List (Nat × UInt64 × Bool))
    (hB : ∀ u ∈ B, u.1 < p.conns.length) :
    (p.applyUpdates B).finishConnect ep nconn connectEc =
      ((p.finishConnect ep nconn connectEc).1,
        (p.finishConnect ep nconn connectEc).2.applyUpdates B) := by
  cases connectEc with
  | none => simp [applyUpdates_emplace p ep _ B hB]
  | some e => rfl

theorem resumeResolved_applyUpdates (outcome : ResolveOutcome Endpoint) (p : Pool Endpoint)
    (B : List (Nat × UInt64 × Bool)) :
    AsyncLookupOp.resumeResolved outcome (p.applyUpdates B) =
      ((AsyncLookupOp.resumeResolved outcome p).1,
        (AsyncLookupOp.resumeResolved outcome p).2.applyUpdates B) := by
  induction B generalizing p with
  | nil => rfl
  | cons u B ih =>
      have hstep : AsyncLookupOp.resumeResolved outcome (p.updateConnection u.1 u.2.1 u.2.2) =
          ((AsyncLookupOp.resumeResolved outcome p).1,
            (AsyncLookupOp.resumeResolved outcome p).2.updateConnection u.1 u.2.1 u.2.2) := by
        rcases outcome with e | _ | ⟨first, rest⟩ <;> rfl
      exact (ih _).trans (by rw [hstep]; rfl)

end Pool

namespace System

variable {Endpoint : Type}

/-!
# Serial runs
-/

/-- A step of a serial run: caller `k`'s whole operation, synchronous or not, or an
environment step. -/
inductive SerialEvent (Endpoint : Type) where
  | getConnection (k : Nat) (sync : Bool) (lockEc connectEc : Option Error)
  | lookup (k : Nat) (sync : Bool) (av : Authority) (lockEc : Option Error)
      (resolve : String → String → ResolveOutcome Endpoint)
  | updateConnection (i : Nat) (workingRequests : UInt64) (isOpen : Bool)

/-- The pool of a serial run and what each caller completed with. -/
structure SerialState (Endpoint : Type) where
  pool : Pool Endpoint
  completions : Nat → Option Outcome

/-- What both runs show of a step that takes the mutex or touches a pooled connection:
caller `k` takes the mutex, as a synchronous call or as a coroutine, or the environment
changes a pooled connection. -/
inductive Label where
  | acquire (k : Nat) (sync : Bool)
  | update (u : Nat × UInt64 × Bool)
  deriving DecidableEq, Repr

namespace SerialEvent

/-- The section a serial step runs, with its kind, or the environment step it makes. -/
def label? : SerialEvent Endpoint → Option Label
  | .getConnection k sync none _ => some (.acquire k sync)
  | .lookup k sync _ none _ => some (.acquire k sync)
  | .updateConnection i w o => some (.update (i, w, o))
  | _ => none

/-- The caller whose `lock` or `async_lock` failed, its kind and the error. -/
def refusal? : SerialEvent Endpoint → Option (Nat × Bool × Error)
  | .getConnection k sync (some e) _ => some (k, sync, e)
  | .lookup k sync _ (some e) _ => some (k, sync, e)
  | _ => none

end SerialEvent

section Serial

variable [DecidableEq Endpoint] (sort : SortRoutine Endpoint) (ssl : Bool)

def serialStep (S : SerialState Endpoint) : SerialEvent Endpoint → SerialState Endpoint
  | .getConnection k sync lockEc connectEc =>
      let r := if sync then S.pool.getConnection sort lockEc connectEc
        else S.pool.asyncGetConnection sort lockEc connectEc
      { pool := r.2, completions := Function.update S.completions k (some (.getConnection r.1)) }
  | .lookup k sync av lockEc resolve =>
      let r := if sync then S.pool.lookup ssl resolve av lockEc
        else S.pool.asyncLookup ssl resolve av lockEc
      { pool := r.2, completions := Function.update S.completions k (some (.lookup r.1)) }
  | .updateConnection i w o => { S with pool := S.pool.updateConnection i w o }

def serialRun (S : SerialState Endpoint) (str : List (SerialEvent Endpoint)) :
    SerialState Endpoint :=
  str.foldl (serialStep sort ssl) S

theorem serialRun_append (S : SerialState Endpoint) (str str' : List (SerialEvent Endpoint)) :
    serialRun sort ssl S (str ++ str') = serialRun sort ssl (serialRun sort ssl S str) str' := by
  simp [serialRun, List.foldl_append]

theorem serialRun_updates (S : SerialState Endpoint) (B : List (Nat × UInt64 × Bool)) :
    serialRun sort ssl S (B.map fun u => .updateConnection u.1 u.2.1 u.2.2) =
      { S with pool := S.pool.applyUpdates B } := by
  induction B generalizing S with
  | nil => rfl
  | cons u B ih => exact ih _

/-- What a step of the interleaving shows: the caller that takes the mutex in it, a
coroutine by `try_lock` or by the grant of `async_lock`, a synchronous call by `lock`, or
the environment step it makes. -/
def label? (s : System Endpoint) : Event Endpoint → Option Label
  | .tryLock k => if s.locked then none else some (.acquire k false)
  | .lockGranted k => some (.acquire k false)
  | .getConnection none _ => some (.acquire s.callers.length true)
  | .lookup _ none _ => some (.acquire s.callers.length true)
  | .updateConnection i w o => some (.update (i, w, o))
  | _ => none

/-- A step in which a caller's `lock` or `async_lock` fails. -/
def refusal? (s : System Endpoint) : Event Endpoint → Option (Nat × Bool × Error)
  | .lockFailed k e => some (k, false, e)
  | .getConnection (some e) _ => some (s.callers.length, true, e)
  | .lookup _ (some e) _ => some (s.callers.length, true, e)
  | _ => none

/-- The caller that takes the mutex in a step. -/
def acquirer (s : System Endpoint) (e : Event Endpoint) : Option Nat :=
  match label? s e with
  | some (.acquire k _) => some k
  | _ => none

/-- What the steps of a run show, in the order they are taken. -/
def trace {α : Type} (f : System Endpoint → Event Endpoint → Option α) (s : System Endpoint) :
    List (Event Endpoint) → List α
  | [] => []
  | e :: es =>
      match step sort ssl s e with
      | none => []
      | some s' => (f s e).toList ++ trace f s' es

/-- What a serial run still owes while `holder` is suspended in its section: that section,
then the environment steps `B` made since it began. -/
def pendingLabels (B : List (Nat × UInt64 × Bool)) (holder : Option Nat) : List Label :=
  (holder.map fun k => Label.acquire k false).toList ++ B.map Label.update

/-!
# The simulation

While the mutex is free, the serial run has reached the interleaved run's pool.  While a
caller is suspended in its section, the serial run stands just before that section, and
the environment steps made since the caller entered wait in a buffer `B`, to be replayed
right after the section.
-/

/-- What the suspended holder of the mutex has still to do, from the pool `S` it found when
it entered, given the pool `q` it sees now and the environment steps `B` since then. -/
inductive PendingSection (S q : Pool Endpoint) (B : List (Nat × UInt64 × Bool)) :
    Caller Endpoint → Prop
  | connecting {ep : Endpoint} {nconn : Connection} {P' : Pool Endpoint} :
      Pool.AsyncGetConnectionOp.resumeLocked sort S = (.connecting ep nconn, P') →
      (∀ u ∈ B, u.1 < P'.conns.length) → q = P'.applyUpdates B →
      PendingSection S q B (.getConnection (.connecting ep nconn))
  | resolving (av : Authority) : q = S.applyUpdates B → PendingSection S q B (.lookup av .resolving)

/-- The serial state `S` stands for the system `s`: the same completions, and the same pool
once the buffered steps `B` have been replayed after the section of `holder`. -/
inductive Simulates (S : SerialState Endpoint) (s : System Endpoint) :
    List (Nat × UInt64 × Bool) → Option Nat → Prop
  | free : S.completions = s.completion → s.locked = false → S.pool = s.pool →
      Simulates S s [] none
  | held {k : Nat} {c : Caller Endpoint} {B : List (Nat × UInt64 × Bool)} :
      S.completions = s.completion → s.locked = true → s.callers[k]? = some c →
      PendingSection sort S.pool s.pool B c → Simulates S s B (some k)

variable {sort ssl}

theorem serialRun_cons (S : SerialState Endpoint) (ev : SerialEvent Endpoint)
    (str : List (SerialEvent Endpoint)) :
    serialRun sort ssl S (ev :: str) = serialRun sort ssl (serialStep sort ssl S ev) str := rfl

@[simp] theorem serialStep_getConnection_failure (S : SerialState Endpoint) (k : Nat) (sync : Bool)
    (e : Error) (connectEc : Option Error) :
    serialStep sort ssl S (.getConnection k sync (some e) connectEc) =
      { pool := S.pool,
        completions := Function.update S.completions k (some (.getConnection (.failure e))) } := by
  cases sync <;> rfl

@[simp] theorem serialStep_lookup_failure (S : SerialState Endpoint) (k : Nat) (sync : Bool)
    (av : Authority) (e : Error) (resolve : String → String → ResolveOutcome Endpoint) :
    serialStep sort ssl S (.lookup k sync av (some e) resolve) =
      { pool := S.pool, completions := Function.update S.completions k (some (.lookup (some e))) } := by
  cases sync <;> rfl

omit [DecidableEq Endpoint] in
theorem filterMap_replay (B : List (Nat × UInt64 × Bool)) :
    (B.map fun u => (SerialEvent.updateConnection u.1 u.2.1 u.2.2 : SerialEvent Endpoint)).filterMap
        SerialEvent.label? = B.map Label.update ∧
      (B.map fun u => (SerialEvent.updateConnection u.1 u.2.1 u.2.2 : SerialEvent Endpoint)).filterMap
        SerialEvent.refusal? = [] := by
  induction B with
  | nil => exact ⟨rfl, rfl⟩
  | cons u B ih => exact ⟨congrArg (Label.update u :: ·) ih.1, ih.2⟩

theorem PendingSection.inSection {S q : Pool Endpoint} {B : List (Nat × UInt64 × Bool)}
    {c : Caller Endpoint} (h : PendingSection sort S q B c) : c.inSection = true := by
  cases h <;> rfl

theorem PendingSection.update {S q : Pool Endpoint} {B : List (Nat × UInt64 × Bool)}
    {c : Caller Endpoint} (h : PendingSection sort S q B c) {i : Nat} (w : UInt64) (o : Bool)
    (hi : i < q.conns.length) :
    PendingSection sort S (q.updateConnection i w o) (B ++ [(i, w, o)]) c := by
  cases h with
  | connecting hr hB hq =>
      subst hq
      refine .connecting hr (fun u hu => ?_) (by rw [Pool.applyUpdates_append]; rfl)
      rcases List.mem_append.mp hu with hu | hu
      · exact hB u hu
      · rw [List.mem_singleton.mp hu]
        simpa using hi
  | resolving av hq =>
      subst hq
      exact .resolving av (by rw [Pool.applyUpdates_append]; rfl)

section Simulation

variable {S : SerialState Endpoint} {s : System Endpoint} {B : List (Nat × UInt64 × Bool)}
  {holder : Option Nat}

theorem Simulates.completions_eq (hsim : Simulates sort S s B holder) :
    S.completions = s.completion := by
  cases hsim <;> assumption

theorem Simulates.free_of_unlocked (hsim : Simulates sort S s B holder)
    (hfree : s.locked = false) : B = [] ∧ holder = none ∧ S.pool = s.pool := by
  cases hsim with
  | free _ _ hpool => exact ⟨rfl, rfl, hpool⟩
  | held _ hlocked =>
      rw [hfree] at hlocked
      cases hlocked

theorem Simulates.pending_of_inSection (hinv : MutexInv s) (hsim : Simulates sort S s B holder)
    {k : Nat} {c : Caller Endpoint} (hc : s.callers[k]? = some c) (hin : c.inSection = true) :
    holder = some k ∧ PendingSection sort S.pool s.pool B c := by
  cases hsim with
  | free _ hfree _ =>
      rw [hinv.not_inSection hfree (List.getElem?_mem hc)] at hin
      cases hin
  | held _ _ hk hpend =>
      obtain rfl := hinv.unique hc hk hin hpend.inSection
      rw [hc, Option.some.injEq] at hk
      subst hk
      exact ⟨rfl, hpend⟩

theorem Simulates.frame {S' : SerialState Endpoint} {s' : System Endpoint}
    (hsim : Simulates sort S s B holder) (hpool : S'.pool = S.pool)
    (hcomp : S'.completions = s'.completion) (hpool' : s'.pool = s.pool)
    (hlocked : s'.locked = s.locked)
    (hcallers : ∀ (k : Nat) (c : Caller Endpoint), s.callers[k]? = some c → c.inSection = true →
      s'.callers[k]? = some c) :
    Simulates sort S' s' B holder := by
  cases hsim with
  | free _ hfree hsame => exact .free hcomp (hlocked.trans hfree) (hpool.trans (hsame.trans hpool'.symm))
  | held _ hheld hc hpend =>
      exact .held hcomp (hlocked.trans hheld) (hcallers _ _ hc hpend.inSection)
        (by rw [hpool, hpool']; exact hpend)

theorem Simulates.unheld (hsim : Simulates sort S s [] none) :
    S.completions = s.completion ∧ s.locked = false ∧ S.pool = s.pool := by
  cases hsim
  exact ⟨‹_›, ‹_›, ‹_›⟩

theorem Simulates.spawn (hsim : Simulates sort S s B holder) (a : Caller Endpoint)
    (ha : a.outcome = none) : Simulates sort S { s with callers := s.callers ++ [a] } B holder :=
  hsim.frame rfl (hsim.completions_eq.trans (completion_append_of_outcome s a ha _ _).symm) rfl rfl
    fun _ _ hx _ => getElem?_append_of_eq_some _ hx

theorem Simulates.record {S' : SerialState Endpoint} {s' : System Endpoint}
    (hsim : Simulates sort S s B holder) {k : Nat} {o : Outcome}
    (hS' : S' = { pool := S.pool, completions := Function.update S.completions k (some o) })
    (hcomp : s'.completion = Function.update s.completion k (some o))
    (hpool' : s'.pool = s.pool) (hlocked : s'.locked = s.locked)
    (hcallers : ∀ (k : Nat) (c : Caller Endpoint), s.callers[k]? = some c → c.inSection = true →
      s'.callers[k]? = some c) :
    Simulates sort S' s' B holder :=
  hsim.frame (by rw [hS']) (by rw [hS', hcomp, hsim.completions_eq]) hpool' hlocked hcallers

theorem Simulates.call {S' : SerialState Endpoint} (hsim : Simulates sort S s [] none)
    (a : Caller Endpoint) {o : Outcome} (ha : a.outcome = some o) (q : Pool Endpoint)
    (hS' : S' =
      { pool := q, completions := Function.update S.completions s.callers.length (some o) }) :
    Simulates sort S' { s with pool := q, callers := s.callers ++ [a] } [] none := by
  obtain ⟨hcomp, hfree, -⟩ := hsim.unheld
  subst hS'
  exact .free (by rw [completion_append, ha, hcomp]) hfree rfl

theorem Simulates.finish {k : Nat} (hsim : Simulates sort S s B (some k)) {c : Caller Endpoint}
    (hc : s.callers[k]? = some c) (a : Caller Endpoint) {o : Outcome} (ha : a.outcome = some o)
    (P : Pool Endpoint) :
    Simulates sort (serialRun sort ssl
        { pool := P, completions := Function.update S.completions k (some o) }
        (B.map fun u => .updateConnection u.1 u.2.1 u.2.2))
      ⟨P.applyUpdates B, false, s.callers.set k a⟩ [] none := by
  rw [serialRun_updates]
  exact .free (by rw [completion_set hc, ha, hsim.completions_eq]) rfl rfl

theorem simulates_enter (hsim : Simulates sort S s [] none) {k : Nat} {c : Caller Endpoint}
    (hc : s.callers[k]? = some c) (hnone : c.outcome = none) :
    exists str B' holder', Simulates sort (serialRun sort ssl S str) (s.enter sort k c) B' holder' ∧
      str.filterMap SerialEvent.label? ++ pendingLabels B' holder' = [.acquire k false] ∧
      str.filterMap SerialEvent.refusal? = [] := by
  obtain ⟨hcomp, hfree, hpool⟩ := hsim.unheld
  have hk : k < s.callers.length := (List.getElem?_eq_some.mp hc).1
  cases c with
  | getConnection stage =>
      rcases hr : Pool.AsyncGetConnectionOp.resumeLocked sort s.pool with
        ⟨_ | ⟨ep, nconn⟩, P'⟩
      · rename_i r
        refine ⟨[.getConnection k false none none], [], none, .free ?_ ?_ ?_, rfl, rfl⟩
        · simp only [serialRun_cons, serialRun, List.foldl, serialStep, Bool.false_eq_true,
            if_false, Pool.asyncGetConnection, hpool, hr, hcomp, enter]
          exact (completion_set hc (Pool.Suspension.returned r).toCaller _ _).symm
        · simp [enter, hr, Pool.Suspension.holdsLock]
        · simp [serialRun_cons, serialRun, serialStep, Pool.asyncGetConnection, hpool, hr, enter]
      · refine ⟨[], [], some k, .held ?_ ?_ ?_ (.connecting (hpool ▸ hr) (by simp) ?_), rfl, rfl⟩
        · simp only [serialRun, List.foldl, hcomp, enter, hr]
          exact (completion_set_of_outcome hc (Pool.Suspension.connecting ep nconn).toCaller
            hnone.symm _ _).symm
        · simp [enter, hr, Pool.Suspension.holdsLock]
        · simp [enter, hr, Pool.Suspension.toCaller, List.getElem?_set_self hk]
        · simp [enter, hr]
  | lookup av stage =>
      refine ⟨[], [], some k, .held ?_ rfl ?_ (.resolving av ?_), rfl, rfl⟩
      · exact hcomp.trans (completion_set_of_outcome hc (.lookup av .resolving) hnone.symm _ _).symm
      · exact List.getElem?_set_self hk
      · exact hpool.symm

/-- One step of the interleaving is matched by serial steps that show what it shows, once the
holder's section and the steps buffered behind it are counted. -/
theorem simulates_step (hinv : MutexInv s) (hsim : Simulates sort S s B holder)
    {e : Event Endpoint} {s' : System Endpoint} (hstep : step sort ssl s e = some s') :
    exists str B' holder', Simulates sort (serialRun sort ssl S str) s' B' holder' ∧
      str.filterMap SerialEvent.label? ++ pendingLabels B' holder' =
        pendingLabels B holder ++ (label? s e).toList ∧
      str.filterMap SerialEvent.refusal? = (refusal? s e).toList := by
  cases e with
  | spawnGetConnection =>
      cases hstep
      exact ⟨[], B, holder, hsim.spawn _ rfl, by simp [label?], rfl⟩
  | spawnLookup av =>
      cases hstep
      exact ⟨[], B, holder, hsim.spawn _ rfl, by simp [label?], rfl⟩
  | tryLock k =>
      obtain ⟨c, hc, hstart, ⟨hlocked, rfl⟩ | ⟨hfree, rfl⟩⟩ := step_tryLock hstep
      · have hnone := Caller.outcome_eq_none_of_isStart hstart
        refine ⟨[], B, holder, hsim.frame rfl ?_ rfl rfl fun _ _ hx hin =>
          getElem?_set_of_inSection _ hc (Caller.not_inSection_of_isStart hstart) hx hin,
          by simp [label?, hlocked], rfl⟩
        exact hsim.completions_eq.trans
          (completion_set_of_outcome hc c.wait (by rw [Caller.outcome_wait, hnone]) _ _).symm
      · obtain ⟨rfl, rfl, -⟩ := hsim.free_of_unlocked hfree
        obtain ⟨str, B', holder', hsim', hlab, href⟩ :=
          simulates_enter hsim hc (Caller.outcome_eq_none_of_isStart hstart)
        exact ⟨str, B', holder', hsim', by rw [hlab]; simp [label?, hfree, pendingLabels], href⟩
  | lockGranted k =>
      obtain ⟨c, hc, hwait, hfree, rfl⟩ := step_lockGranted hstep
      obtain ⟨rfl, rfl, -⟩ := hsim.free_of_unlocked hfree
      obtain ⟨str, B', holder', hsim', hlab, href⟩ :=
        simulates_enter hsim hc (Caller.outcome_eq_none_of_isWaiting hwait)
      exact ⟨str, B', holder', hsim', by rw [hlab]; simp [label?, pendingLabels], href⟩
  | lockFailed k err =>
      obtain ⟨c, hc, hwait, rfl⟩ := step_lockFailed hstep
      have hframe := fun k' c' (hx : s.callers[k']? = some c') (hin : c'.inSection = true) =>
        getElem?_set_of_inSection (c.fail err) hc (Caller.not_inSection_of_isWaiting hwait) hx hin
      cases c with
      | getConnection stage =>
          exact ⟨[.getConnection k false (some err) none], B, holder,
            hsim.record (@serialStep_getConnection_failure _ _ sort ssl S k false err none)
              (completion_set hc _ _ _) rfl rfl hframe,
            by simp [label?, SerialEvent.label?], rfl⟩
      | lookup av stage =>
          exact ⟨[.lookup k false av (some err) fun _ _ => .results []], B, holder,
            hsim.record (@serialStep_lookup_failure _ _ sort ssl S k false av err _)
              (completion_set hc _ _ _) rfl rfl hframe,
            by simp [label?, SerialEvent.label?], rfl⟩
  | connectDone k connectEc =>
      obtain ⟨ep, nconn, hc, rfl⟩ := step_connectDone hstep
      obtain ⟨rfl, hpend⟩ := hsim.pending_of_inSection hinv hc rfl
      cases hpend with
      | @connecting _ _ P' hr hB hq =>
          have hfin : s.pool.finishConnect ep nconn connectEc =
              ((P'.finishConnect ep nconn connectEc).1,
                (P'.finishConnect ep nconn connectEc).2.applyUpdates B) := by
            rw [hq]
            exact Pool.finishConnect_applyUpdates P' ep nconn connectEc B hB
          refine ⟨.getConnection k false none connectEc ::
              B.map (fun u => .updateConnection u.1 u.2.1 u.2.2), [], none, ?_,
            by simp [SerialEvent.label?, (filterMap_replay B).1, pendingLabels, label?,
              -List.filterMap_map],
            by simp [SerialEvent.refusal?, filterMap_replay, refusal?]⟩
          simp only [serialRun_cons, serialStep, Bool.false_eq_true, if_false,
            Pool.asyncGetConnection, hr, hfin]
          exact hsim.finish hc (.getConnection (.done _)) rfl _
  | resolveDone k resolve =>
      obtain ⟨av, hc, rfl⟩ := step_resolveDone hstep
      obtain ⟨rfl, hpend⟩ := hsim.pending_of_inSection hinv hc rfl
      cases hpend with
      | resolving _ hq =>
          have hfin : Pool.AsyncLookupOp.resumeResolved (resolve av.host (service ssl av)) s.pool =
              ((Pool.AsyncLookupOp.resumeResolved (resolve av.host (service ssl av)) S.pool).1,
                (Pool.AsyncLookupOp.resumeResolved (resolve av.host (service ssl av))
                  S.pool).2.applyUpdates B) := by
            rw [hq]
            exact Pool.resumeResolved_applyUpdates _ _ _
          refine ⟨.lookup k false av none resolve ::
              B.map (fun u => .updateConnection u.1 u.2.1 u.2.2), [], none, ?_,
            by simp [SerialEvent.label?, (filterMap_replay B).1, pendingLabels, label?,
              -List.filterMap_map],
            by simp [SerialEvent.refusal?, filterMap_replay, refusal?]⟩
          simp only [serialRun_cons, serialStep, Bool.false_eq_true, if_false, Pool.asyncLookup,
            hfin]
          exact hsim.finish hc (.lookup av (.done _)) rfl _
  | updateConnection i w o =>
      obtain ⟨hi, rfl⟩ := step_updateConnection hstep
      cases hsim with
      | free hcomp hfree hpool =>
          exact ⟨[.updateConnection i w o], [], none,
            .free hcomp hfree (by simp [serialRun_cons, serialRun, serialStep, hpool]), rfl, rfl⟩
      | held hcomp hlocked hk hpend =>
          exact ⟨[], B ++ [(i, w, o)], _, .held hcomp hlocked hk (hpend.update w o hi),
            by simp [pendingLabels, label?], rfl⟩
  | getConnection lockEc connectEc =>
      obtain ⟨hfree, rfl⟩ := step_getConnection hstep
      cases lockEc with
      | none =>
          obtain ⟨rfl, rfl, hpool⟩ := hsim.free_of_unlocked (hfree rfl)
          exact ⟨[.getConnection s.callers.length true none connectEc], [], none,
            hsim.call (.getConnection (.done _)) rfl _ (by rw [← hpool]; rfl), rfl, rfl⟩
      | some err =>
          exact ⟨[.getConnection s.callers.length true (some err) connectEc], B, holder,
            hsim.record (@serialStep_getConnection_failure _ _ sort ssl S _ true err connectEc)
              (completion_append s _ _ _) rfl rfl fun _ _ hx _ => getElem?_append_of_eq_some _ hx,
            by simp [label?, SerialEvent.label?], rfl⟩
  | lookup av lockEc resolve =>
      obtain ⟨hfree, rfl⟩ := step_lookup hstep
      cases lockEc with
      | none =>
          obtain ⟨rfl, rfl, hpool⟩ := hsim.free_of_unlocked (hfree rfl)
          exact ⟨[.lookup s.callers.length true av none resolve], [], none,
            hsim.call (.lookup av (.done _)) rfl _ (by rw [← hpool]; rfl), rfl, rfl⟩
      | some err =>
          exact ⟨[.lookup s.callers.length true av (some err) resolve], B, holder,
            hsim.record (@serialStep_lookup_failure _ _ sort ssl S _ true av err resolve)
              (completion_append s _ _ _) rfl rfl fun _ _ hx _ => getElem?_append_of_eq_some _ hx,
            by simp [label?, SerialEvent.label?], rfl⟩

theorem simulates_run (hinv : MutexInv s) (hsim : Simulates sort S s B holder)
    {tr : List (Event Endpoint)} {s' : System Endpoint} (h : run sort ssl s tr = some s') :
    exists str B' holder', Simulates sort (serialRun sort ssl S str) s' B' holder' ∧
      str.filterMap SerialEvent.label? ++ pendingLabels B' holder' =
        pendingLabels B holder ++ trace sort ssl label? s tr ∧
      str.filterMap SerialEvent.refusal? = trace sort ssl refusal? s tr := by
  induction tr generalizing S s B holder with
  | nil =>
      cases h
      exact ⟨[], B, holder, hsim, by simp [trace], rfl⟩
  | cons e es ih =>
      obtain ⟨s₁, h₁, h₂⟩ := (run_cons_eq_some sort ssl).mp h
      obtain ⟨str₁, B₁, holder₁, hsim₁, hlab₁, href₁⟩ := simulates_step hinv hsim h₁
      obtain ⟨str₂, B₂, holder₂, hsim₂, hlab₂, href₂⟩ := ih (mutexInv_step hinv h₁) hsim₁ h₂
      have htrace : ∀ {α : Type} (f : System Endpoint → Event Endpoint → Option α),
          trace sort ssl f s (e :: es) = (f s e).toList ++ trace sort ssl f s₁ es := by
        intro α f
        simp [trace, h₁]
      refine ⟨str₁ ++ str₂, B₂, holder₂, by rwa [serialRun_append], ?_, ?_⟩
      · rw [htrace, List.filterMap_append, List.append_assoc, hlab₂, ← List.append_assoc, hlab₁,
          List.append_assoc]
      · rw [htrace, List.filterMap_append, href₁, href₂]

end Simulation

theorem unlocked_of_acquirer {s s' : System Endpoint} {e : Event Endpoint}
    (h : step sort ssl s e = some s') (hacq : acquirer s e ≠ none) : s.locked = false := by
  cases e with
  | tryLock k =>
      cases hl : s.locked
      · rfl
      · simp [acquirer, label?, hl] at hacq
  | lockGranted k => exact (step_lockGranted h).choose_spec.2.2.1
  | getConnection lockEc connectEc =>
      cases lockEc with
      | none => exact (step_getConnection h).1 rfl
      | some e => simp [acquirer, label?] at hacq
  | lookup av lockEc resolve =>
      cases lockEc with
      | none => exact (step_lookup h).1 rfl
      | some e => simp [acquirer, label?] at hacq
  | _ => simp [acquirer, label?] at hacq

/-- Every interleaving is matched by a serial run from the same pool that shows the same
sections, of the same kind, environment steps and failed locks in the same order: the same
completions, and the same pool once the mutex is free. -/
theorem serializable (p : Pool Endpoint) (tr : List (Event Endpoint)) (s : System Endpoint)
    (h : run sort ssl (idle p) tr = some s) :
    (exists str : List (SerialEvent Endpoint),
      (serialRun sort ssl ⟨p, fun _ => none⟩ str).completions = s.completion ∧
      str.filterMap SerialEvent.refusal? = trace sort ssl refusal? (idle p) tr ∧
      str.filterMap SerialEvent.label? <+: trace sort ssl label? (idle p) tr ∧
      (s.locked = false →
        (serialRun sort ssl ⟨p, fun _ => none⟩ str).pool = s.pool ∧
        str.filterMap SerialEvent.label? = trace sort ssl label? (idle p) tr)) ∧
    ∀ e s', step sort ssl s e = some s' → acquirer s e ≠ none →
      ∀ c ∈ s.callers, c.inSection = false := by
  have hinv := mutexInv_run (mutexInv_idle p) h
  obtain ⟨str, B, holder, hsim, hlab, href⟩ :=
    simulates_run (mutexInv_idle p)
      (.free (funext fun _ => rfl) rfl rfl : Simulates sort ⟨p, fun _ => none⟩ (idle p) [] none) h
  simp only [pendingLabels, Option.map_none', Option.toList_none, List.map_nil, List.nil_append]
    at hlab
  refine ⟨⟨str, hsim.completions_eq, href, by rw [← hlab]; exact List.prefix_append _ _,
    fun hfree => ?_⟩,
    fun e s' hstep hacq c hc => hinv.not_inSection (unlocked_of_acquirer hstep hacq) hc⟩
  obtain ⟨rfl, rfl, hpool⟩ := hsim.free_of_unlocked hfree
  exact ⟨hpool, by simpa [pendingLabels] using hlab⟩

end Serial

theorem serializable_race :
    let tr : List (Event Nat) :=
      [.spawnLookup ⟨"example.com", none⟩, .tryLock 0,
        .resolveDone 0 (fun _ _ => .results [⟨"example.com", 1⟩]),
        .spawnGetConnection, .tryLock 1, .connectDone 1 none, .updateConnection 0 1 true,
        .spawnGetConnection, .spawnGetConnection, .tryLock 2, .tryLock 3,
        .updateConnection 0 0 true, .connectDone 2 none, .lockGranted 3]
    exists s, run (SortRoutine.insertion Nat) false (idle (Pool.fresh 2)) tr = some s ∧
      trace (SortRoutine.insertion Nat) false label? (idle (Pool.fresh 2)) tr =
        [.acquire 0 false, .acquire 1 false, .update (0, 1, true), .acquire 2 false,
          .update (0, 0, true), .acquire 3 false] ∧
      (exists str : List (SerialEvent Nat),
        (serialRun (SortRoutine.insertion Nat) false ⟨Pool.fresh 2, fun _ => none⟩ str).completions =
          s.completion ∧
        str.filterMap SerialEvent.refusal? =
          trace (SortRoutine.insertion Nat) false refusal? (idle (Pool.fresh 2)) tr ∧
        str.filterMap SerialEvent.label? <+:
          trace (SortRoutine.insertion Nat) false label? (idle (Pool.fresh 2)) tr ∧
        (s.locked = false →
          (serialRun (SortRoutine.insertion Nat) false ⟨Pool.fresh 2, fun _ => none⟩ str).pool =
            s.pool ∧
          str.filterMap SerialEvent.label? =
            trace (SortRoutine.insertion Nat) false label? (idle (Pool.fresh 2)) tr)) ∧
      ∀ e s', step (SortRoutine.insertion Nat) false s e = some s' → acquirer s e ≠ none →
        ∀ c ∈ s.callers, c.inSection = false := by
  intro tr
  obtain ⟨s, hs⟩ : exists s, run (SortRoutine.insertion Nat) false (idle (Pool.fresh 2)) tr =
      some s := ⟨_, rfl⟩
  have htr : trace (SortRoutine.insertion Nat) false label? (idle (Pool.fresh 2)) tr =
      [.acquire 0 false, .acquire 1 false, .update (0, 1, true), .acquire 2 false,
        .update (0, 0, true), .acquire 3 false] := rfl
  exact ⟨s, hs, htr, serializable (Pool.fresh 2) tr s hs⟩

/-!
# A synchronous call is a coroutine run whole

A synchronous `get_connection` runs start to finish on the free mutex.  Except where
`conns_.size() == limit_`, the one pool state where its `<=` and the coroutine's `<`
disagree, it is the coroutine run with nothing in between.
-/

section Sync

variable [DecidableEq Endpoint] (sort : SortRoutine Endpoint) (ssl : Bool)

/-- Off `conns_.size() == limit_`, a synchronous `get_connection` on the free mutex is a
coroutine that starts, takes the mutex and completes its connect with nothing in between. -/
theorem sync_getConnection_runs_as_coroutine (s : System Endpoint) (hfree : s.locked = false)
    (hlim : s.pool.conns.length ≠ s.pool.limit) (connectEc : Option Error) :
    run sort ssl s [.spawnGetConnection, .tryLock s.callers.length] =
        step sort ssl s (.getConnection none connectEc) ∨
      run sort ssl s [.spawnGetConnection, .tryLock s.callers.length,
          .connectDone s.callers.length connectEc] =
        step sort ssl s (.getConnection none connectEc) := by
  have hsync : step sort ssl s (.getConnection none connectEc) =
      some ⟨(s.pool.asyncGetConnection sort none connectEc).2, s.locked,
        s.callers ++ [.getConnection (.done (s.pool.asyncGetConnection sort none connectEc).1)]⟩ := by
    rw [← Pool.getConnection_eq_asyncGetConnection sort none connectEc s.pool hlim]
    simp [step, hfree]
  rw [hsync]
  rcases hr : Pool.AsyncGetConnectionOp.resumeLocked sort s.pool with ⟨_ | ⟨ep, nconn⟩, p'⟩ <;>
    [left; right] <;>
    simp [run, step, enter, hr, Pool.asyncGetConnection, hfree, Caller.isStart,
      Pool.Suspension.toCaller, Pool.Suspension.holdsLock]

end Sync

theorem sync_getConnection_runs_as_coroutine_fresh :
    let p : Pool Nat := ((Pool.fresh 3).lookup false
      (fun _ _ => .results [⟨"h", 1⟩]) ⟨"h", none⟩ none).2
    (idle p).locked = false ∧ (idle p).pool.conns.length ≠ (idle p).pool.limit ∧
      (run (SortRoutine.insertion Nat) false (idle p) [.spawnGetConnection, .tryLock 0] =
          step (SortRoutine.insertion Nat) false (idle p) (.getConnection none none) ∨
        run (SortRoutine.insertion Nat) false (idle p)
            [.spawnGetConnection, .tryLock 0, .connectDone 0 none] =
          step (SortRoutine.insertion Nat) false (idle p) (.getConnection none none)) := by
  intro p
  have hlim : (idle p).pool.conns.length ≠ (idle p).pool.limit := by decide
  exact ⟨rfl, hlim,
    sync_getConnection_runs_as_coroutine (SortRoutine.insertion Nat) false (idle p) rfl hlim none⟩

end System

end Requests
