import ExternalDns.Go.Runtime

/-!
# The targets of a `Service` (`GetTargets`, lines 29-48)

The service source of the controller publishes DNS records for a `Service` of type
`LoadBalancer`: each ingress point of the load balancer contributes one target, its IP when it
has one and otherwise its hostname.  A service of another type has no targets; it is an error
only when DNS names were requested for it.

## Main Definitions

* `Service`, `LoadBalancerIngress` — what `GetTargets` reads of a service.
* `addIngress`, `getTargets` — the loop body and the function.
* `ingressTarget` — the one address an ingress point contributes.

## Main Statements

* `mem_getTargets` — the targets of a load balancer are exactly the addresses of its ingress
  points, without repetition, and none is empty.
* `getTargets_not_loadBalancer` — any other service has no target set, and fails exactly when
  names were requested.
-/

namespace ExternalDns

/-- `api.LoadBalancerIngress`: an IP, a hostname, or both (empty when unset). -/
structure LoadBalancerIngress where
  ip : GoString
  hostname : GoString
deriving DecidableEq

/-- What `GetTargets` reads of an `api.Service`: `Spec.Type` and
`Status.LoadBalancer.Ingress`. -/
structure Service where
  type : GoString
  ingress : List LoadBalancerIngress
deriving DecidableEq

/-- `api.ServiceTypeLoadBalancer`. -/
def serviceTypeLoadBalancer : GoString := "LoadBalancer".toList

/-- Lines 39-45: `set.Add` of the hostname of an ingress point with a hostname and no IP, and
of the IP of one with an IP. -/
def addIngress (set : List GoString) (i : LoadBalancerIngress) : List GoString :=
  if i.hostname ≠ [] ∧ i.ip = [] then set.insert i.hostname
  else if i.ip ≠ [] then set.insert i.ip
  else set

/-- `GetTargets(logger, obj, names)`: the target set (`none` is a nil set) or an error. -/
def getTargets (svc : Service) (names : List GoString) :
    Except GoString (Option (List GoString)) :=
  if svc.type ≠ serviceTypeLoadBalancer then
    if names = [] then .ok none else .error "service is not of type LoadBalancer".toList
  else .ok (some (svc.ingress.foldl addIngress []))

/-- The address an ingress point contributes: its IP, or its hostname when it has no IP. -/
def ingressTarget (i : LoadBalancerIngress) : Option GoString :=
  if i.ip ≠ [] then some i.ip
  else if i.hostname ≠ [] then some i.hostname
  else none

theorem ingressTarget_ne_nil {i : LoadBalancerIngress} {t : GoString}
    (h : ingressTarget i = some t) : t ≠ [] := by
  unfold ingressTarget at h
  split_ifs at h with hip hhost <;> cases h
  exacts [hip, hhost]

/-- One pass of the loop adds the address of the ingress point, if it has one. -/
theorem mem_addIngress (set : List GoString) (i : LoadBalancerIngress) (t : GoString) :
    t ∈ addIngress set i ↔ t ∈ set ∨ ingressTarget i = some t := by
  unfold addIngress ingressTarget
  by_cases hip : i.ip = [] <;> by_cases hhost : i.hostname = [] <;>
    simp [hip, hhost, List.mem_insert_iff, eq_comm, or_comm]

/-- `set.Add` keeps a set without repetition. -/
theorem nodup_insert {set : List GoString} (h : set.Nodup) (t : GoString) :
    (set.insert t).Nodup := by
  unfold List.insert
  split
  · exact h
  · rename_i ht
    exact List.nodup_cons.2 ⟨by simpa using ht, h⟩

theorem nodup_addIngress {set : List GoString} (h : set.Nodup) (i : LoadBalancerIngress) :
    (addIngress set i).Nodup := by
  unfold addIngress
  split_ifs
  · exact nodup_insert h _
  · exact nodup_insert h _
  · exact h

/-- The loop collects the addresses of the ingress points it reads. -/
theorem mem_foldl_addIngress (l : List LoadBalancerIngress) :
    ∀ (set : List GoString) (t : GoString),
      t ∈ l.foldl addIngress set ↔ t ∈ set ∨ ∃ i ∈ l, ingressTarget i = some t := by
  induction l with
  | nil => simp
  | cons i l ih =>
    intro set t
    rw [List.foldl_cons, ih, mem_addIngress]
    simp only [List.mem_cons, exists_eq_or_imp, or_assoc]

theorem nodup_foldl_addIngress (l : List LoadBalancerIngress) :
    ∀ {set : List GoString}, set.Nodup → (l.foldl addIngress set).Nodup := by
  induction l with
  | nil => exact id
  | cons i l ih => exact fun h => ih (nodup_addIngress h i)

/-- A load balancer with an IP-only, a hostname-only and a dual-stack ingress point. -/
def sampleLoadBalancer : Service :=
  ⟨serviceTypeLoadBalancer, [⟨"10.0.0.1".toList, []⟩, ⟨[], "lb.example.org".toList⟩,
    ⟨"10.0.0.2".toList, "dual.example.org".toList⟩]⟩

/-- **The targets of a load balancer are the addresses of its ingress points**: `GetTargets`
succeeds with a set holding, without repetition, exactly the IP of every ingress point with an
IP and the hostname of every one with only a hostname; no target is empty. -/
theorem mem_getTargets {svc : Service} (names : List GoString)
    (hlb : svc.type = serviceTypeLoadBalancer) :
    ∃ set, getTargets svc names = .ok (some set) ∧ set.Nodup ∧
      (∀ t, t ∈ set ↔ ∃ i ∈ svc.ingress, ingressTarget i = some t) ∧
        ∀ t ∈ set, t ≠ [] := by
  have hmem (t) :
      t ∈ svc.ingress.foldl addIngress [] ↔ ∃ i ∈ svc.ingress, ingressTarget i = some t :=
    (mem_foldl_addIngress svc.ingress [] t).trans (by simp)
  refine ⟨_, by simp [getTargets, hlb], nodup_foldl_addIngress _ List.nodup_nil, hmem,
    fun t ht => ?_⟩
  obtain ⟨i, -, hi⟩ := (hmem t).1 ht
  exact ingressTarget_ne_nil hi

/-- The sample load balancer contributes its two IPs and the hostname of its IP-less point. -/
theorem mem_getTargets_sample :
    sampleLoadBalancer.type = serviceTypeLoadBalancer ∧
      ∃ set, getTargets sampleLoadBalancer [] = .ok (some set) ∧ set.Nodup ∧
        (∀ t, t ∈ set ↔ ∃ i ∈ sampleLoadBalancer.ingress, ingressTarget i = some t) ∧
          ∀ t ∈ set, t ≠ [] :=
  ⟨rfl, mem_getTargets [] rfl⟩

example : getTargets sampleLoadBalancer [] =
    .ok (some ["10.0.0.2".toList, "lb.example.org".toList, "10.0.0.1".toList]) := rfl

/-- A service of another type has no target set; `GetTargets` fails exactly when DNS names were
requested for it. -/
theorem getTargets_not_loadBalancer {svc : Service} (names : List GoString)
    (hlb : svc.type ≠ serviceTypeLoadBalancer) :
    getTargets svc names =
      if names = [] then .ok none else .error "service is not of type LoadBalancer".toList := by
  simp [getTargets, hlb]

end ExternalDns
