import StProxy.Lib.TransitionSystem
import StProxy.Coordinator.Pending
import StProxy.Coordinator.Handoff
import StProxy.Coordinator.FailedCleanup
import StProxy.Coordinator.Accounting
import StProxy.Coordinator.Reported
import StProxy.Coordinator.Shutdown
import StProxy.Multi.Exclusive
import StProxy.Comfy.Agreement
import StProxy.Tabby.FailClosed
import StProxy.Strata.Confirmed
import StProxy.Chat.Lifecycle
import StProxy.Profiles.Agreement
import StProxy.Workflows.Exact
import StProxy.Media.Final
import StProxy.Tabby.Respects
import StProxy.Prism.Chunks
import StProxy.Tabby.LoadStream
import StProxy.Profiles.Order
import StProxy.Kobold.Confirmed
import StProxy.Comfy.Monitoring
import StProxy.Comfy.Cleanup
import StProxy.Workflows.Catalog
import StProxy.Workflows.Normalized
import StProxy.Media.AllOrNothing
import StProxy.Multi.Serialized
import StProxy.Http.Redirects
