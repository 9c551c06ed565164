import Requests.Basic

/-!
# Selection: `get_connection` and `async_get_connection`

Both entry points take the pool mutex and run the same selection pass: hand out the
first idle connection; below the limit, sort `endpoints_` by how many connections use
each endpoint and connect a new connection to the front one; at the limit, hand out the
connection of least cost.  The synchronous copy grows while `conns_.size() <= limit_`,
the coroutine while `conns_.size() < limit_`.  The coroutine suspends in
`async_connect` with the mutex still held ("don't unlock here"), so its pass is split
at that `yield` into `resumeLocked` and `finishConnect`.
-/

namespace Requests

namespace Pool

variable {Endpoint : Type}

/-!
# The pieces of the selection pass

The idle scan, the at-limit pick and the insertion after a connect read only `conns_`.
-/

/-- The idle scan: `std::find_if` over `conns_` for `working_requests() == 0u`. -/
def findIdle (p : Pool Endpoint) : Option (Endpoint × Connection) :=
  p.conns.find? (fun x => x.2.workingRequests == 0)

/-- The at-limit pick: `std::min_element` over `conns_` by `cost`. -/
def leastUsed (p : Pool Endpoint) : Option (Endpoint × Connection) :=
  minElement (fun x => cost x.2) p.conns

/-- The growth step after the connect: an error returns `nullptr`, a connected
connection is inserted under its endpoint and returned. -/
def finishConnect (p : Pool Endpoint) (ep : Endpoint) (nconn : Connection)
    (connectEc : Option Error) : Completion × Pool Endpoint :=
  match connectEc with
  | some e => (.failure e, p)
  | none => (.success nconn.connect, p.emplace ep nconn.connect)

/-- `r` is the first connection of `conns` with no ongoing request. -/
def FirstIdle (conns : List (Endpoint × Connection)) (r : Endpoint × Connection) : Prop :=
  exists pre post, conns = pre ++ r :: post ∧ r.2.workingRequests = 0 ∧
    ∀ y ∈ pre, y.2.workingRequests ≠ 0

theorem findIdle_eq_some {p : Pool Endpoint} {r : Endpoint × Connection} :
    p.findIdle = some r ↔ FirstIdle p.conns r := by
  simp only [findIdle, List.find?_eq_some, beq_iff_eq, Bool.not_eq_true', beq_eq_false_iff_ne,
    FirstIdle]
  constructor
  · rintro ⟨h0, pre, post, hconns, hpre⟩
    exact ⟨pre, post, hconns, h0, hpre⟩
  · rintro ⟨pre, post, hconns, h0, hpre⟩
    exact ⟨h0, pre, post, hconns, hpre⟩

theorem findIdle_eq_none {p : Pool Endpoint} :
    p.findIdle = none ↔ ∀ y ∈ p.conns, y.2.workingRequests ≠ 0 := by
  simp [findIdle]

theorem FirstIdle.mem {conns : List (Endpoint × Connection)} {r : Endpoint × Connection}
    (h : FirstIdle conns r) : r ∈ conns := by
  obtain ⟨pre, post, rfl, -, -⟩ := h
  simp

theorem leastUsed_mem {p : Pool Endpoint} {r : Endpoint × Connection}
    (h : p.leastUsed = some r) : r ∈ p.conns :=
  (minElement_firstMinimal _ h).mem

theorem leastUsed_eq_none {p : Pool Endpoint} : p.leastUsed = none ↔ p.conns = [] :=
  minElement_eq_none _ _

@[simp] theorem finishConnect_none (p : Pool Endpoint) (ep : Endpoint) (nconn : Connection) :
    p.finishConnect ep nconn none = (.success nconn.connect, p.emplace ep nconn.connect) := rfl

@[simp] theorem finishConnect_some (p : Pool Endpoint) (ep : Endpoint) (nconn : Connection)
    (e : Error) : p.finishConnect ep nconn (some e) = (.failure e, p) := rfl

@[simp] theorem finishConnect_limit (p : Pool Endpoint) (ep : Endpoint) (nconn : Connection)
    (connectEc : Option Error) : (p.finishConnect ep nconn connectEc).2.limit = p.limit := by
  cases connectEc <;> rfl

@[simp] theorem finishConnect_endpoints (p : Pool Endpoint) (ep : Endpoint) (nconn : Connection)
    (connectEc : Option Error) :
    (p.finishConnect ep nconn connectEc).2.endpoints = p.endpoints := by
  cases connectEc <;> rfl

theorem finishConnect_length_le (p : Pool Endpoint) (ep : Endpoint) (nconn : Connection)
    (connectEc : Option Error) :
    (p.finishConnect ep nconn connectEc).2.conns.length ≤ p.conns.length + 1 := by
  cases connectEc <;> simp

variable [DecidableEq Endpoint]

/-!
# The growth step
-/

/-- The growth step up to the connect: `std::sort` of `endpoints_` by `conns_.count`,
its front, and a new connection to `host_`; `none` when `endpoints_` is empty. -/
def prepareConnect (sort : SortRoutine Endpoint) (p : Pool Endpoint) :
    Option (Endpoint × Connection × Pool Endpoint) :=
  match p.endpoints with
  | [] => none
  | e :: es =>
      let sorted := sort.sort p.count (e :: es)
      -- `endpoints_.front()`: `sorted` is a permutation of `e :: es`, so the default
      -- is never taken
      some (sorted.headD e, makeConnection p.host, { p with endpoints := sorted })

theorem prepareConnect_eq_none {sort : SortRoutine Endpoint} {p : Pool Endpoint} :
    p.prepareConnect sort = none ↔ p.endpoints = [] := by
  unfold prepareConnect
  split <;> simp_all

theorem prepareConnect_spec {sort : SortRoutine Endpoint} {p p' : Pool Endpoint}
    {ep : Endpoint} {nconn : Connection}
    (h : p.prepareConnect sort = some (ep, nconn, p')) :
    p' = { p with endpoints := sort.sort p.count p.endpoints } ∧
      nconn = makeConnection p.host ∧ ep ∈ p.endpoints ∧
      ∀ x ∈ p.endpoints, p.count ep ≤ p.count x := by
  unfold prepareConnect at h
  split at h
  · cases h
  · rename_i e es hps
    simp only [Option.some.injEq, Prod.mk.injEq] at h
    obtain ⟨rfl, rfl, rfl⟩ := h
    rw [hps]
    exact ⟨rfl, rfl, sort.headD_mem _ (List.cons_ne_nil e es) e,
      fun x hx => sort.key_headD_le _ _ e x hx⟩

theorem prepareConnect_head {sort : SortRoutine Endpoint} {p p' : Pool Endpoint}
    {ep : Endpoint} {nconn : Connection}
    (h : p.prepareConnect sort = some (ep, nconn, p')) : p'.endpoints.head? = some ep := by
  unfold prepareConnect at h
  split at h
  · cases h
  · simp only [Option.some.injEq, Prod.mk.injEq] at h
    obtain ⟨rfl, -, rfl⟩ := h
    exact sort.head?_eq_headD _ (List.cons_ne_nil _ _) _

theorem prepareConnect_frame {sort : SortRoutine Endpoint} {p p' : Pool Endpoint}
    {ep : Endpoint} {nconn : Connection}
    (h : p.prepareConnect sort = some (ep, nconn, p')) :
    p'.host = p.host ∧ p'.limit = p.limit ∧ p'.conns = p.conns ∧
      p'.endpoints.Perm p.endpoints := by
  obtain ⟨rfl, -⟩ := prepareConnect_spec h
  exact ⟨rfl, rfl, rfl, sort.perm _ _⟩

/-!
# The two entry points
-/

/-- `basic_connection_pool::get_connection(ec)`.  `lockEc` is what
`asem::lock(mutex_, ec)` reports, `connectEc` what `nconn->connect(ep, ec)` reports. -/
def getConnection (sort : SortRoutine Endpoint) (lockEc connectEc : Option Error)
    (p : Pool Endpoint) : Completion × Pool Endpoint :=
  match lockEc with
  | some e => (.failure e, p)
  | none =>
      match p.findIdle with
      | some (_, c) => (.success c, p)
      | none =>
          if p.conns.length ≤ p.limit then
            match p.prepareConnect sort with
            | none => (.failure .notFound, p)
            | some (ep, nconn, p) => p.finishConnect ep nconn connectEc
          else
            match p.leastUsed with
            | none => (.failure .notFound, p)
            | some (_, c) => (.success c, p)

theorem getConnection_cases (sort : SortRoutine Endpoint) (connectEc : Option Error)
    (p : Pool Endpoint) :
    (exists x, p.findIdle = some x ∧ p.getConnection sort none connectEc = (.success x.2, p)) ∨
    (p.findIdle = none ∧ p.conns.length ≤ p.limit ∧ p.endpoints = [] ∧
      p.getConnection sort none connectEc = (.failure .notFound, p)) ∨
    (p.findIdle = none ∧ p.conns.length ≤ p.limit ∧
      exists ep nconn p', p.prepareConnect sort = some (ep, nconn, p') ∧
        p.getConnection sort none connectEc = p'.finishConnect ep nconn connectEc) ∨
    (p.findIdle = none ∧ p.limit < p.conns.length ∧ p.conns = [] ∧
      p.getConnection sort none connectEc = (.failure .notFound, p)) ∨
    (p.findIdle = none ∧ p.limit < p.conns.length ∧
      exists x, p.leastUsed = some x ∧ p.getConnection sort none connectEc = (.success x.2, p)) := by
  unfold getConnection
  rcases hidle : p.findIdle with _ | x
  · by_cases hle : p.conns.length ≤ p.limit
    · rcases hprep : p.prepareConnect sort with _ | ⟨ep, nconn, p'⟩
      · exact .inr (.inl ⟨rfl, hle, prepareConnect_eq_none.mp hprep, by simp [hle]⟩)
      · exact .inr (.inr (.inl ⟨rfl, hle, ep, nconn, p', rfl, by simp [hle]⟩))
    · have hlt := Nat.lt_of_not_le hle
      rcases hleast : p.leastUsed with _ | x
      · exact .inr (.inr (.inr (.inl ⟨rfl, hlt, leastUsed_eq_none.mp hleast, by simp [hle]⟩)))
      · exact .inr (.inr (.inr (.inr ⟨rfl, hlt, x, rfl, by simp [hle]⟩)))
  · exact .inl ⟨x, rfl, rfl⟩

@[simp] theorem getConnection_limit (sort : SortRoutine Endpoint) (lockEc connectEc : Option Error)
    (p : Pool Endpoint) : (p.getConnection sort lockEc connectEc).2.limit = p.limit := by
  cases lockEc with
  | some e => rfl
  | none =>
      rcases getConnection_cases sort connectEc p with
        ⟨_, -, hr⟩ | ⟨-, -, -, hr⟩ | ⟨-, -, ep, nconn, p', hprep, hr⟩ | ⟨-, -, -, hr⟩ |
          ⟨-, -, _, -, hr⟩ <;>
        rw [hr]
      rw [finishConnect_limit]
      exact (prepareConnect_frame hprep).2.1

theorem getConnection_length_le (sort : SortRoutine Endpoint) (lockEc connectEc : Option Error)
    (p : Pool Endpoint) :
    (p.getConnection sort lockEc connectEc).2.conns.length ≤ max p.conns.length (p.limit + 1) := by
  cases lockEc with
  | some e => exact Nat.le_max_left _ _
  | none =>
      rcases getConnection_cases sort connectEc p with
        ⟨_, -, hr⟩ | ⟨-, -, -, hr⟩ | ⟨-, hle, ep, nconn, p', hprep, hr⟩ | ⟨-, -, -, hr⟩ |
          ⟨-, -, _, -, hr⟩ <;>
        rw [hr]
      all_goals try exact Nat.le_max_left _ _
      have hgrow := finishConnect_length_le p' ep nconn connectEc
      rw [(prepareConnect_frame hprep).2.2.1] at hgrow
      exact Nat.le_trans (by omega) (Nat.le_max_right _ _)

/-- Where `async_get_connection_op::resume` stands once it holds the mutex: it
returned, or it is suspended in `async_connect`, still holding the mutex, with the
endpoint and the new connection. -/
inductive Suspension (Endpoint : Type) where
  | returned (r : Completion)
  | connecting (ep : Endpoint) (nconn : Connection)
  deriving DecidableEq, Repr

namespace AsyncGetConnectionOp

/-- `async_get_connection_op::resume` from `lock = {this_->mutex_, std::adopt_lock}` to
its first `return` or to the `yield` on `async_connect`. -/
def resumeLocked (sort : SortRoutine Endpoint) (p : Pool Endpoint) :
    Suspension Endpoint × Pool Endpoint :=
  match p.findIdle with
  | some (_, c) => (.returned (.success c), p)
  | none =>
      if p.conns.length < p.limit then
        match p.prepareConnect sort with
        | none => (.returned (.failure .notFound), p)
        | some (ep, nconn, p) => (.connecting ep nconn, p)
      else
        match p.leastUsed with
        | none => (.returned (.failure .notFound), p)
        | some (_, c) => (.returned (.success c), p)

end AsyncGetConnectionOp

/-- `async_get_connection` when nothing else runs until it completes: the mutex
acquisition (`lockEc`), the pass up to `async_connect`, and the connect. -/
def asyncGetConnection (sort : SortRoutine Endpoint) (lockEc connectEc : Option Error)
    (p : Pool Endpoint) : Completion × Pool Endpoint :=
  match lockEc with
  | some e => (.failure e, p)
  | none =>
      match AsyncGetConnectionOp.resumeLocked sort p with
      | (.returned r, p) => (r, p)
      | (.connecting ep nconn, p) => p.finishConnect ep nconn connectEc

namespace AsyncGetConnectionOp

theorem resumeLocked_returned {sort : SortRoutine Endpoint} {p p' : Pool Endpoint}
    {r : Completion} (h : resumeLocked sort p = (.returned r, p')) : p' = p := by
  unfold resumeLocked at h
  split at h
  · cases h; rfl
  · split at h
    · split at h
      · cases h; rfl
      · cases h
    · split at h <;> cases h <;> rfl

theorem resumeLocked_connecting {sort : SortRoutine Endpoint} {p p' : Pool Endpoint}
    {ep : Endpoint} {nconn : Connection}
    (h : resumeLocked sort p = (.connecting ep nconn, p')) :
    p.findIdle = none ∧ p.conns.length < p.limit ∧
      p.prepareConnect sort = some (ep, nconn, p') := by
  unfold resumeLocked at h
  split at h
  · cases h
  · rename_i hidle
    split at h
    · rename_i hlt
      split at h
      · cases h
      · rename_i q hq
        cases h
        exact ⟨hidle, hlt, hq⟩
    · split at h <;> cases h

theorem resumeLocked_frame (sort : SortRoutine Endpoint) (p : Pool Endpoint) :
    (resumeLocked sort p).2.host = p.host ∧ (resumeLocked sort p).2.limit = p.limit ∧
      (resumeLocked sort p).2.conns = p.conns ∧
      (resumeLocked sort p).2.endpoints.Perm p.endpoints := by
  rcases h : resumeLocked sort p with ⟨_ | ⟨ep, nconn⟩, p'⟩
  · obtain rfl := resumeLocked_returned h
    exact ⟨rfl, rfl, rfl, List.Perm.refl _⟩
  · exact prepareConnect_frame (resumeLocked_connecting h).2.2

theorem resumeLocked_cases (sort : SortRoutine Endpoint) (p : Pool Endpoint) :
    (exists x, p.findIdle = some x ∧ resumeLocked sort p = (.returned (.success x.2), p)) ∨
    (p.findIdle = none ∧ p.conns.length < p.limit ∧ p.endpoints = [] ∧
      resumeLocked sort p = (.returned (.failure .notFound), p)) ∨
    (p.findIdle = none ∧ p.conns.length < p.limit ∧
      exists ep nconn p', p.prepareConnect sort = some (ep, nconn, p') ∧
        resumeLocked sort p = (.connecting ep nconn, p')) ∨
    (p.findIdle = none ∧ p.limit ≤ p.conns.length ∧ p.conns = [] ∧
      resumeLocked sort p = (.returned (.failure .notFound), p)) ∨
    (p.findIdle = none ∧ p.limit ≤ p.conns.length ∧
      exists x, p.leastUsed = some x ∧ resumeLocked sort p = (.returned (.success x.2), p)) := by
  unfold resumeLocked
  rcases hidle : p.findIdle with _ | x
  · by_cases hlt : p.conns.length < p.limit
    · rcases hprep : p.prepareConnect sort with _ | ⟨ep, nconn, p'⟩
      · exact .inr (.inl ⟨rfl, hlt, prepareConnect_eq_none.mp hprep, by simp [hlt]⟩)
      · exact .inr (.inr (.inl ⟨rfl, hlt, ep, nconn, p', rfl, by simp [hlt]⟩))
    · have hle := Nat.le_of_not_lt hlt
      rcases hleast : p.leastUsed with _ | x
      · exact .inr (.inr (.inr (.inl ⟨rfl, hle, leastUsed_eq_none.mp hleast, by simp [hlt]⟩)))
      · exact .inr (.inr (.inr (.inr ⟨rfl, hle, x, rfl, by simp [hlt]⟩)))
  · exact .inl ⟨x, rfl, rfl⟩

end AsyncGetConnectionOp

end Pool

end Requests
