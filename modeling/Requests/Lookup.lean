import Requests.Basic

/-!
# Resolution: `lookup` and `async_lookup`

Both entry points take the pool mutex, ask the resolver for the authority's host name
and service, and store the result: the first entry's host name in `host_` and the
entries' endpoints in `endpoints_`.  They share that tail, and differ in what they do
with a resolver error: the synchronous `resolve` reports it next to an empty result
list, which the tail turns into `not_found` and an empty `endpoints_`, while
`async_lookup_op` returns before the tail.
-/

namespace Requests

/-- The part of a `urls::authority_view` that `lookup` reads: `encoded_host_name()`, and
`port()` when `has_port()`. -/
structure Authority where
  host : String
  port : Option String
  deriving DecidableEq, Repr

/-- The service `lookup` resolves: the port when the authority has one, else the
protocol of the stream, `"https"` when `Stream` has SSL. -/
def service (ssl : Bool) (av : Authority) : String :=
  match av.port with
  | some port => port
  | none => if ssl then "https" else "http"

/-- One entry of `resolver_type::results_type`: `host_name()` and `endpoint()`. -/
structure ResolverEntry (Endpoint : Type) where
  hostName : String
  endpoint : Endpoint
  deriving DecidableEq, Repr

/-- What the resolver reports for a host name and a service: an error code, or a
possibly empty list of entries. -/
inductive ResolveOutcome (Endpoint : Type) where
  | error (e : Error)
  | results (entries : List (ResolverEntry Endpoint))
  deriving DecidableEq, Repr

namespace Pool

variable {Endpoint : Type}

/-- The tail `lookup` and `async_lookup` share: an empty result sets `not_found`, a
non-empty one sets `host_` from its first entry, and `endpoints_` is assigned the
result's endpoints either way. -/
def assignResults (p : Pool Endpoint) (ec : Option Error)
    (eps : List (ResolverEntry Endpoint)) : Option Error × Pool Endpoint :=
  let (ec, host) :=
    match eps with
    | [] => (some Error.notFound, p.host)
    | first :: _ => (ec, first.hostName)
  (ec, { p with host := host, endpoints := eps.map ResolverEntry.endpoint })

/-- `basic_connection_pool::lookup(sv, ec)`.  `lockEc` is what `asem::lock(mutex_, ec)`
reports; the synchronous `resolve` hands back an empty result with its error code. -/
def lookup (ssl : Bool) (resolve : String → String → ResolveOutcome Endpoint)
    (av : Authority) (lockEc : Option Error) (p : Pool Endpoint) :
    Option Error × Pool Endpoint :=
  match lockEc with
  | some e => (some e, p)
  | none =>
      match resolve av.host (service ssl av) with
      | .error e => p.assignResults (some e) []
      | .results eps => p.assignResults none eps

namespace AsyncLookupOp

/-- `async_lookup_op::resume` once `async_resolve` completes: an error code returns at
once, a result list goes through the shared tail. -/
def resumeResolved (outcome : ResolveOutcome Endpoint) (p : Pool Endpoint) :
    Option Error × Pool Endpoint :=
  match outcome with
  | .error e => (some e, p)
  | .results eps => p.assignResults none eps

end AsyncLookupOp

/-- `async_lookup` when nothing else runs until it completes: the mutex acquisition
(`lockEc`), then the resolve. -/
def asyncLookup (ssl : Bool) (resolve : String → String → ResolveOutcome Endpoint)
    (av : Authority) (lockEc : Option Error) (p : Pool Endpoint) :
    Option Error × Pool Endpoint :=
  match lockEc with
  | some e => (some e, p)
  | none => AsyncLookupOp.resumeResolved (resolve av.host (service ssl av)) p

/-!
# What a lookup changes

Every lookup leaves `limit_` and `conns_` alone; only a non-empty result changes
`host_`.
-/

@[simp] theorem assignResults_conns (p : Pool Endpoint) (ec : Option Error)
    (eps : List (ResolverEntry Endpoint)) : (p.assignResults ec eps).2.conns = p.conns := by
  cases eps <;> rfl

@[simp] theorem assignResults_limit (p : Pool Endpoint) (ec : Option Error)
    (eps : List (ResolverEntry Endpoint)) : (p.assignResults ec eps).2.limit = p.limit := by
  cases eps <;> rfl

@[simp] theorem assignResults_endpoints (p : Pool Endpoint) (ec : Option Error)
    (eps : List (ResolverEntry Endpoint)) :
    (p.assignResults ec eps).2.endpoints = eps.map ResolverEntry.endpoint := by
  cases eps <;> rfl

theorem assignResults_nil (p : Pool Endpoint) (ec : Option Error) :
    p.assignResults ec [] = (some Error.notFound, { p with endpoints := [] }) := rfl

theorem assignResults_cons (p : Pool Endpoint) (ec : Option Error)
    (first : ResolverEntry Endpoint) (rest : List (ResolverEntry Endpoint)) :
    p.assignResults ec (first :: rest) =
      (ec, { p with host := first.hostName,
                    endpoints := (first :: rest).map ResolverEntry.endpoint }) := rfl

namespace AsyncLookupOp

@[simp] theorem resumeResolved_conns (outcome : ResolveOutcome Endpoint) (p : Pool Endpoint) :
    (resumeResolved outcome p).2.conns = p.conns := by
  cases outcome <;> simp [resumeResolved]

@[simp] theorem resumeResolved_limit (outcome : ResolveOutcome Endpoint) (p : Pool Endpoint) :
    (resumeResolved outcome p).2.limit = p.limit := by
  cases outcome <;> simp [resumeResolved]

end AsyncLookupOp

@[simp] theorem lookup_conns (ssl : Bool) (resolve : String → String → ResolveOutcome Endpoint)
    (av : Authority) (lockEc : Option Error) (p : Pool Endpoint) :
    (p.lookup ssl resolve av lockEc).2.conns = p.conns := by
  unfold lookup
  split
  · rfl
  · split <;> simp

@[simp] theorem lookup_limit (ssl : Bool) (resolve : String → String → ResolveOutcome Endpoint)
    (av : Authority) (lockEc : Option Error) (p : Pool Endpoint) :
    (p.lookup ssl resolve av lockEc).2.limit = p.limit := by
  unfold lookup
  split
  · rfl
  · split <;> simp

/-!
# The two copies against each other

`async_lookup` returns on a resolver error before the shared tail; `lookup` has no such
return, so the error is overwritten by `not_found` and `endpoints_` is emptied.  On
every other outcome the two copies coincide.
-/

theorem lookup_eq_asyncLookup (ssl : Bool) (resolve : String → String → ResolveOutcome Endpoint)
    (av : Authority) (lockEc : Option Error) (p : Pool Endpoint)
    (h : ∀ e, resolve av.host (service ssl av) ≠ .error e) :
    p.lookup ssl resolve av lockEc = p.asyncLookup ssl resolve av lockEc := by
  cases lockEc with
  | some e => rfl
  | none =>
      cases hr : resolve av.host (service ssl av) with
      | error e => exact absurd hr (h e)
      | results eps => simp [lookup, asyncLookup, AsyncLookupOp.resumeResolved, hr]

/-- A resolver error: `lookup` completes with `not_found` and an empty endpoint list,
`async_lookup` with the resolver's error and the pool unchanged. -/
theorem lookup_resolver_error_diverges :
    let p : Pool Nat := ⟨"h", [0], 1, []⟩
    let resolve : String → String → ResolveOutcome Nat := fun _ _ => .error (.other 1)
    p.lookup false resolve ⟨"h", none⟩ none = (some .notFound, { p with endpoints := [] }) ∧
      p.asyncLookup false resolve ⟨"h", none⟩ none = (some (.other 1), p) := ⟨rfl, rfl⟩

/-!
# Failed lookups
-/

/-- What a failed lookup leaves of the pool: `host_`, `limit_` and `conns_`, and
`endpoints_` either as it was or empty. -/
def FailedLookupFrame (p p' : Pool Endpoint) : Prop :=
  p'.host = p.host ∧ p'.limit = p.limit ∧ p'.conns = p.conns ∧
    (p'.endpoints = p.endpoints ∨ p'.endpoints = [])

theorem failedLookupFrame_refl (p : Pool Endpoint) : FailedLookupFrame p p :=
  ⟨rfl, rfl, rfl, .inl rfl⟩

theorem failedLookupFrame_assignResults (p : Pool Endpoint) (ec : Option Error)
    (eps : List (ResolverEntry Endpoint)) {e : Error}
    (h : (p.assignResults ec eps).1 = some e) (hec : ec = none ∨ eps = []) :
    FailedLookupFrame p (p.assignResults ec eps).2 := by
  cases eps with
  | nil => exact ⟨rfl, rfl, rfl, .inr rfl⟩
  | cons first rest =>
      rcases hec with rfl | hnil
      · cases h
      · cases hnil

theorem lookup_failed_frame {ssl : Bool} {resolve : String → String → ResolveOutcome Endpoint}
    {av : Authority} {lockEc : Option Error} {p : Pool Endpoint} {e : Error}
    (h : (p.lookup ssl resolve av lockEc).1 = some e) :
    FailedLookupFrame p (p.lookup ssl resolve av lockEc).2 := by
  cases lockEc with
  | some _ => exact failedLookupFrame_refl p
  | none =>
      simp only [lookup] at h ⊢
      cases hr : resolve av.host (service ssl av) with
      | error _ =>
          simp only [hr] at h ⊢
          exact failedLookupFrame_assignResults p _ [] h (.inr rfl)
      | results eps =>
          simp only [hr] at h ⊢
          exact failedLookupFrame_assignResults p none eps h (.inl rfl)

theorem asyncLookup_failed_frame {ssl : Bool}
    {resolve : String → String → ResolveOutcome Endpoint} {av : Authority}
    {lockEc : Option Error} {p : Pool Endpoint} {e : Error}
    (h : (p.asyncLookup ssl resolve av lockEc).1 = some e) :
    FailedLookupFrame p (p.asyncLookup ssl resolve av lockEc).2 := by
  cases lockEc with
  | some _ => exact failedLookupFrame_refl p
  | none =>
      simp only [asyncLookup, AsyncLookupOp.resumeResolved] at h ⊢
      cases hr : resolve av.host (service ssl av) with
      | error _ =>
          simp only [hr]
          exact failedLookupFrame_refl p
      | results eps =>
          simp only [hr] at h ⊢
          exact failedLookupFrame_assignResults p none eps h (.inl rfl)

theorem asyncLookup_empty_result_discards_endpoints :
    ¬ ∀ (p : Pool Nat) (resolve : String → String → ResolveOutcome Nat) (av : Authority)
        (lockEc : Option Error),
      (p.asyncLookup false resolve av lockEc).1 ≠ none →
        (p.asyncLookup false resolve av lockEc).2 = p := by
  intro h
  have hkeep := h ⟨"h", [0], 1, []⟩ (fun _ _ => .results []) ⟨"h", none⟩ none (by decide)
  exact absurd hkeep (by decide)

/-- A failed `lookup` or `async_lookup` keeps `host_` and `conns_`, and keeps or empties
`endpoints_`. -/
theorem failed_lookup_keeps_host_and_conns (ssl : Bool)
    (resolve : String → String → ResolveOutcome Endpoint) (av : Authority)
    (lockEc : Option Error) (p : Pool Endpoint) :
    ((p.lookup ssl resolve av lockEc).1 ≠ none →
        FailedLookupFrame p (p.lookup ssl resolve av lockEc).2) ∧
      ((p.asyncLookup ssl resolve av lockEc).1 ≠ none →
        FailedLookupFrame p (p.asyncLookup ssl resolve av lockEc).2) ∧
      (lockEc ≠ none → (p.lookup ssl resolve av lockEc).2 = p ∧
        (p.asyncLookup ssl resolve av lockEc).2 = p) ∧
      (∀ e, resolve av.host (service ssl av) = .error e →
        p.asyncLookup ssl resolve av none = (some e, p)) ∧
      (resolve av.host (service ssl av) = .results [] →
        p.lookup ssl resolve av none = (some .notFound, { p with endpoints := [] }) ∧
          p.asyncLookup ssl resolve av none = (some .notFound, { p with endpoints := [] })) := by
  refine ⟨fun h => ?_, fun h => ?_, fun h => ?_, fun e he => ?_, fun he => ?_⟩
  · obtain ⟨e, he⟩ := Option.ne_none_iff_exists'.mp h
    exact lookup_failed_frame he
  · obtain ⟨e, he⟩ := Option.ne_none_iff_exists'.mp h
    exact asyncLookup_failed_frame he
  · obtain ⟨e, rfl⟩ := Option.ne_none_iff_exists'.mp h
    exact ⟨rfl, rfl⟩
  · simp [asyncLookup, AsyncLookupOp.resumeResolved, he]
  · simp [lookup, asyncLookup, AsyncLookupOp.resumeResolved, he, assignResults_nil]

end Pool

end Requests
