import ExternalDns.Go.Runtime
import ExternalDns.Direct.RecordSet
import ExternalDns.Provider.Entry
import ExternalDns.Provider.State
import ExternalDns.Provider.StateEntry
import ExternalDns.Provider.IndexInvariant
import ExternalDns.Provider.ExclusiveClaim
import ExternalDns.Provider.Promotion
import ExternalDns.Provider.Premise
import ExternalDns.Lock.Records
import ExternalDns.Lock.Update
import ExternalDns.Lock.Protocol
import ExternalDns.Lock.Refresh
import ExternalDns.Lock.LookupFailure
import ExternalDns.Lock.Lifecycle
import ExternalDns.Provider.Handler
import ExternalDns.Service.Targets
import ExternalDns.Resources.Modify
