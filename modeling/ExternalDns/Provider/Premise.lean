import ExternalDns.Provider.Entry

/-!
# The entry premise (`EntryPremise`, lines 394-422)

Every reconcile of an entry first resolves which provider, hosted zone and provider type the
entry belongs to.  The resolution itself — `lookupProvider`, which applies the domain
inclusion rules, and `getProviderZoneForName`, which searches a provider's zones — is declared
outside the source; what the source decides is how their answers combine: the zone of the
matching provider, else the zone hint of the object for an invalid provider, else the zone of a
fallback provider.

## Main Definitions

* `Provider`, `Zone` — what the handlers read of a provider and of a hosted zone.
* `ProviderLookup` — the answers of `lookupProvider` and `getProviderZoneForName`.
* `EntryPremise`, `entryPremise` — the premise and its computation.
* `EntryPremise.isMatch` — `Match`, the comparison that forces a repeat.
-/

namespace ExternalDns

/-- A `DNSProvider` as the handlers read it: object name, type code and validity. -/
structure Provider where
  name : GoString
  typeCode : GoString
  valid : Bool
deriving DecidableEq

/-- A hosted zone: id, domain and the provider type serving it. -/
structure Zone where
  id : GoString
  domain : GoString
  providerType : GoString
deriving DecidableEq

/-- What `lookupProvider(e)` answers (provider, fallback, error) and what
`getProviderZoneForName(e.GetDNSName(), p)` answers for each provider `p`; both are declared
outside the source. -/
structure ProviderLookup where
  provider : Option Provider
  fallback : Option Provider
  err : Option GoString
  zoneFor : Option Provider → Option Zone

/-- `EntryPremise`: the enabled provider types, the provider and fallback found, and the
provider type, zone id and zone domain resolved. -/
structure EntryPremise where
  ptypes : List GoString
  provider : Option Provider
  fallback : Option Provider
  ptype : GoString
  zoneid : GoString
  zonedomain : GoString
deriving DecidableEq

/-- `EntryPremise(e)`: the premise and the error of `lookupProvider`. -/
def entryPremise (enabled : List GoString) (lk : ProviderLookup) (e : Object) :
    EntryPremise × Option GoString :=
  let p : EntryPremise := ⟨enabled, lk.provider, lk.fallback, [], [], []⟩
  let withZone (zone : Zone) : EntryPremise :=
    { p with ptype := zone.providerType, zoneid := zone.id, zonedomain := zone.domain }
  let viaFallback : EntryPremise :=
    match lk.fallback with
    | some fb => ((lk.zoneFor (some fb)).map withZone).getD p
    | none => p
  match lk.zoneFor lk.provider with
  | some zone => (withZone zone, lk.err)
  | none =>
    match lk.provider, e.status.zone with
    | some prov, some zone =>
      if !prov.valid then ({ p with ptype := prov.typeCode, zoneid := zone }, lk.err)
      else (viaFallback, lk.err)
    | _, _ => (viaFallback, lk.err)

/-- Modelled from the spec: `p.Match(check)` (in `entry.go`, not in the source).  Two premises
match when provider type, zone id, provider object name and the presence of a fallback agree. -/
def EntryPremise.isMatch (p q : EntryPremise) : Bool :=
  p.ptype == q.ptype && p.zoneid == q.zoneid &&
    p.provider.map (·.name) == q.provider.map (·.name) && p.fallback.isSome == q.fallback.isSome

/-- The premise keeps the provider `lookupProvider` found: the zone resolution never replaces
it, so a premise without a provider comes from a lookup without one. -/
theorem entryPremise_provider (enabled : List GoString) (lk : ProviderLookup) (e : Object) :
    (entryPremise enabled lk e).1.provider = lk.provider := by
  unfold entryPremise
  repeat' split
  all_goals first
    | rfl
    | cases lk.zoneFor _ <;> rfl

end ExternalDns
