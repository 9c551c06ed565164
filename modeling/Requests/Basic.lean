import Mathlib.Data.List.Sort
import Mathlib.Algebra.Group.Nat.Basic

/-!
# The pool's data model

`basic_connection_pool` keeps a canonical host name, the resolved endpoint list, a limit
on the number of connections, and an unordered multimap from endpoints to shared
connections.  This module models those fields, the part of a pooled `basic_connection`
the pool reads, and the three standard algorithms its selection pass runs over them:
`std::find_if`, `std::sort` and `std::min_element`.

The multimap is a list in its iteration order.  Where `emplace` puts a new entry in that
order is up to `boost::unordered_multimap` (it keeps equal keys together and orders
buckets by hash), so the model's choice, the end of the list, is not the code's: what
follows states an insertion only up to a permutation of `conns_`, and reads positions only
in the order a call finds, as `find_if` and `min_element` do.
-/

namespace Requests

/-!
# Error codes and connections
-/

/-- The error codes a pool operation completes with; success is the absent code. -/
inductive Error where
  | notFound
  | other (code : Nat)
  deriving DecidableEq, Repr

/-- What the pool reads of a `basic_connection`: `host()`, `is_open()` and
`working_requests()`, a `std::size_t`. -/
structure Connection where
  host : String
  isOpen : Bool
  workingRequests : UInt64
  deriving DecidableEq, Repr

/-- `make_connection_` followed by `set_host`: a new `basic_connection`, with
`ongoing_requests_{0u}`.  Modelled from the spec: the body of `set_host` and what a fresh
stream's `is_open()` answers are not under src/; the new connection is closed and answers
`host()` with the host it was given. -/
def makeConnection (host : String) : Connection :=
  { host := host, isOpen := false, workingRequests := 0 }

/-- Modelled from the spec: a successful `connect` (its body is not under src/) leaves
the transport open. -/
def Connection.connect (c : Connection) : Connection :=
  { c with isOpen := true }

/-- The completion of `get_connection` and `async_get_connection`: the error code and the
`shared_ptr`, `none` standing for `nullptr`. -/
structure Completion where
  ec : Option Error
  conn : Option Connection
  deriving DecidableEq, Repr

namespace Completion

def failure (e : Error) : Completion := ⟨some e, none⟩

def success (c : Connection) : Completion := ⟨none, some c⟩

end Completion

/-- The at-limit cost `working_requests() + (is_open() ? 0 : 1)`, computed in
`std::size_t`. -/
def cost (c : Connection) : Nat :=
  (c.workingRequests + if c.isOpen then 0 else 1).toNat

theorem cost_eq_of_lt {c : Connection} (h : c.workingRequests.toNat < 2 ^ 64 - 1) :
    cost c = c.workingRequests.toNat + if c.isOpen then 0 else 1 := by
  cases hopen : c.isOpen <;>
    simp [cost, hopen, UInt64.toNat, UInt64.add_def, BitVec.toNat_add] at h ⊢
  omega

/-!
# The pool
-/

/-- The fields of `basic_connection_pool` its operations read and write: `host_`,
`endpoints_`, `limit_` and `conns_`. -/
structure Pool (Endpoint : Type) where
  host : String
  endpoints : List Endpoint
  limit : Nat
  conns : List (Endpoint × Connection)
  deriving DecidableEq, Repr

namespace Pool

variable {Endpoint : Type}

/-- A pool as its constructor leaves it: only `limit_` is set. -/
def fresh (limit : Nat) : Pool Endpoint :=
  { host := "", endpoints := [], limit := limit, conns := [] }

/-- The keys of `conns_`, in iteration order. -/
def keys (p : Pool Endpoint) : List Endpoint := p.conns.map Prod.fst

/-- `conns_.count(e)`. -/
def count [DecidableEq Endpoint] (p : Pool Endpoint) (e : Endpoint) : Nat := p.keys.count e

/-- `conns_.emplace(ep, nconn)`.  The model inserts at the end of the iteration order; the
code's position is the multimap's. -/
def emplace (p : Pool Endpoint) (ep : Endpoint) (c : Connection) : Pool Endpoint :=
  { p with conns := p.conns ++ [(ep, c)] }

/-- An environment step on the `i`-th pooled connection: requests start or finish on
it, or its transport closes. -/
def updateConnection (p : Pool Endpoint) (i : Nat) (workingRequests : UInt64)
    (isOpen : Bool) : Pool Endpoint :=
  { p with
    conns := p.conns.modify
      (fun x => (x.1, { x.2 with workingRequests := workingRequests, isOpen := isOpen })) i }

@[simp] theorem emplace_host (p : Pool Endpoint) (ep : Endpoint) (c : Connection) :
    (p.emplace ep c).host = p.host := rfl

@[simp] theorem emplace_endpoints (p : Pool Endpoint) (ep : Endpoint) (c : Connection) :
    (p.emplace ep c).endpoints = p.endpoints := rfl

@[simp] theorem emplace_limit (p : Pool Endpoint) (ep : Endpoint) (c : Connection) :
    (p.emplace ep c).limit = p.limit := rfl

@[simp] theorem emplace_conns (p : Pool Endpoint) (ep : Endpoint) (c : Connection) :
    (p.emplace ep c).conns = p.conns ++ [(ep, c)] := rfl

@[simp] theorem keys_emplace (p : Pool Endpoint) (ep : Endpoint) (c : Connection) :
    (p.emplace ep c).keys = p.keys ++ [ep] := by
  simp [keys]

theorem count_emplace [DecidableEq Endpoint] (p : Pool Endpoint) (ep e : Endpoint) (c : Connection) :
    (p.emplace ep c).count e = p.count e + if e = ep then 1 else 0 := by
  by_cases h : e = ep <;> simp [count, List.count_singleton', h]

@[simp] theorem updateConnection_host (p : Pool Endpoint) (i : Nat) (w : UInt64) (o : Bool) :
    (p.updateConnection i w o).host = p.host := rfl

@[simp] theorem updateConnection_endpoints (p : Pool Endpoint) (i : Nat) (w : UInt64)
    (o : Bool) : (p.updateConnection i w o).endpoints = p.endpoints := rfl

@[simp] theorem updateConnection_limit (p : Pool Endpoint) (i : Nat) (w : UInt64) (o : Bool) :
    (p.updateConnection i w o).limit = p.limit := rfl

@[simp] theorem keys_updateConnection (p : Pool Endpoint) (i : Nat) (w : UInt64) (o : Bool) :
    (p.updateConnection i w o).keys = p.keys := by
  apply List.ext_getElem?
  intro m
  simp only [keys, updateConnection, List.getElem?_map, List.getElem?_modify]
  cases p.conns[m]? <;> simp
  split <;> rfl

@[simp] theorem length_updateConnection (p : Pool Endpoint) (i : Nat) (w : UInt64)
    (o : Bool) : (p.updateConnection i w o).conns.length = p.conns.length := by
  simp [updateConnection]

@[simp] theorem count_updateConnection [DecidableEq Endpoint] (p : Pool Endpoint) (i : Nat) (w : UInt64) (o : Bool)
    (e : Endpoint) : (p.updateConnection i w o).count e = p.count e := by
  simp [count]

end Pool

/-!
# Standard algorithms

`std::sort` is taken as a parameter: the standard fixes that its result is a
permutation ordered by the comparator, and leaves the order of equal keys to the
implementation.
-/

/-- A routine meeting the contract of `std::sort` for a comparator `key a < key b`. -/
structure SortRoutine (Endpoint : Type) where
  sort : (Endpoint → Nat) → List Endpoint → List Endpoint
  perm : ∀ key l, (sort key l).Perm l
  sorted : ∀ key l, (sort key l).Sorted (fun a b => key a ≤ key b)

namespace SortRoutine

variable {Endpoint : Type}

/-- Insertion sort, which is what libstdc++'s `std::sort` runs on ranges of at most
sixteen elements; it keeps equal keys in their input order. -/
def insertion (Endpoint : Type) : SortRoutine Endpoint where
  sort key l := l.insertionSort (fun a b => key a ≤ key b)
  perm _ l := List.perm_insertionSort _ l
  sorted key l :=
    @List.sorted_insertionSort _ (fun a b => key a ≤ key b) _
      ⟨fun a b => Nat.le_total (key a) (key b)⟩ ⟨fun _ _ _ => Nat.le_trans⟩ l

theorem mem_sort (s : SortRoutine Endpoint) (key : Endpoint → Nat) (l : List Endpoint)
    (x : Endpoint) : x ∈ s.sort key l ↔ x ∈ l :=
  (s.perm key l).mem_iff

theorem sort_ne_nil (s : SortRoutine Endpoint) (key : Endpoint → Nat) {l : List Endpoint}
    (h : l ≠ []) : s.sort key l ≠ [] := by
  intro hnil
  have hlen := (s.perm key l).length_eq
  rw [hnil] at hlen
  exact h (List.length_eq_zero.mp hlen.symm)

theorem key_headD_le (s : SortRoutine Endpoint) (key : Endpoint → Nat) (l : List Endpoint)
    (d x : Endpoint) (hx : x ∈ l) : key ((s.sort key l).headD d) ≤ key x := by
  have hsorted := s.sorted key l
  have hmem := (s.mem_sort key l x).mpr hx
  cases hl : s.sort key l with
  | nil => simp [hl] at hmem
  | cons y ys =>
      rw [hl] at hsorted hmem
      rcases List.mem_cons.mp hmem with rfl | htail
      · exact Nat.le_refl _
      · exact List.rel_of_sorted_cons hsorted x htail

theorem head?_eq_headD (s : SortRoutine Endpoint) (key : Endpoint → Nat) {l : List Endpoint}
    (h : l ≠ []) (d : Endpoint) : (s.sort key l).head? = some ((s.sort key l).headD d) := by
  cases hl : s.sort key l with
  | nil => exact absurd hl (s.sort_ne_nil key h)
  | cons y ys => rfl

theorem headD_mem (s : SortRoutine Endpoint) (key : Endpoint → Nat) {l : List Endpoint}
    (h : l ≠ []) (d : Endpoint) : (s.sort key l).headD d ∈ l := by
  have hne := s.sort_ne_nil key h
  cases hl : s.sort key l with
  | nil => exact absurd hl hne
  | cons y ys => exact (s.mem_sort key l y).mp (by simp [hl])

end SortRoutine

section Algorithms

variable {α : Type}

/-- `std::min_element` with the comparator `key lhs < key rhs`: it keeps the first
element that no later element undercuts. -/
def minElement (key : α → Nat) : List α → Option α
  | [] => none
  | x :: xs => some (xs.foldl (fun smallest y => if key y < key smallest then y else smallest) x)

/-- `r` is the first element of `l` with the least key. -/
def FirstMinimal (key : α → Nat) (l : List α) (r : α) : Prop :=
  exists pre post, l = pre ++ r :: post ∧ (∀ y ∈ pre, key r < key y) ∧
    ∀ y ∈ post, key r ≤ key y

private theorem firstMinimal_foldl (key : α → Nat) :
    ∀ (xs done : List α) (s : α), FirstMinimal key done s ->
      FirstMinimal key (done ++ xs)
        (xs.foldl (fun smallest y => if key y < key smallest then y else smallest) s)
  | [], done, s, h => by simpa using h
  | y :: ys, done, s, ⟨pre, post, hdone, hpre, hpost⟩ => by
      rw [List.foldl_cons, show done ++ y :: ys = (done ++ [y]) ++ ys by simp]
      apply firstMinimal_foldl key ys
      by_cases hlt : key y < key s
      · rw [if_pos hlt]
        refine ⟨done, [], rfl, ?_, by simp⟩
        intro z hz
        rw [hdone] at hz
        rcases List.mem_append.mp hz with hz | hz
        · exact Nat.lt_trans hlt (hpre z hz)
        · rcases List.mem_cons.mp hz with rfl | hz
          · exact hlt
          · exact Nat.lt_of_lt_of_le hlt (hpost z hz)
      · rw [if_neg hlt]
        refine ⟨pre, post ++ [y], by simp [hdone], hpre, ?_⟩
        intro z hz
        rcases List.mem_append.mp hz with hz | hz
        · exact hpost z hz
        · rw [List.mem_singleton.mp hz]
          exact Nat.le_of_not_lt hlt

theorem minElement_firstMinimal (key : α → Nat) {l : List α} {r : α}
    (h : minElement key l = some r) : FirstMinimal key l r := by
  cases l with
  | nil => cases h
  | cons x xs =>
      simp only [minElement, Option.some.injEq] at h
      subst h
      simpa using firstMinimal_foldl key xs [x] x ⟨[], [], rfl, by simp, by simp⟩

@[simp] theorem minElement_eq_none (key : α → Nat) (l : List α) :
    minElement key l = none ↔ l = [] := by
  cases l <;> simp [minElement]

theorem FirstMinimal.mem {key : α → Nat} {l : List α} {r : α} (h : FirstMinimal key l r) :
    r ∈ l := by
  obtain ⟨pre, post, rfl, -, -⟩ := h
  simp

theorem FirstMinimal.le {key : α → Nat} {l : List α} {r : α} (h : FirstMinimal key l r)
    {y : α} (hy : y ∈ l) : key r ≤ key y := by
  obtain ⟨pre, post, rfl, hpre, hpost⟩ := h
  rcases List.mem_append.mp hy with hy | hy
  · exact Nat.le_of_lt (hpre y hy)
  · rcases List.mem_cons.mp hy with rfl | hy
    · exact Nat.le_refl _
    · exact hpost y hy

theorem FirstMinimal.congr {key key' : α → Nat} {l : List α} {r : α}
    (h : FirstMinimal key l r) (hkey : ∀ y ∈ l, key y = key' y) : FirstMinimal key' l r := by
  obtain ⟨pre, post, rfl, hpre, hpost⟩ := h
  have hr : key r = key' r := hkey r (by simp)
  refine ⟨pre, post, rfl, fun y hy => ?_, fun y hy => ?_⟩
  · rw [← hr, ← hkey y (by simp [hy])]
    exact hpre y hy
  · rw [← hr, ← hkey y (by simp [hy])]
    exact hpost y hy

end Algorithms

end Requests
