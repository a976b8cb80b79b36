import LiveTabs.App
import LiveTabs.Blueprint
import LiveTabs.Blueprint.Written
import LiveTabs.ClientRequest
import LiveTabs.Config
import LiveTabs.Handler
import LiveTabs.Markup
import LiveTabs.Patch.Frame
import LiveTabs.Patch.Outbox
import LiveTabs.Scenario
import LiveTabs.StoreType.Coercion
import LiveTabs.Proofs.Building
import LiveTabs.Proofs.Flattening
import LiveTabs.Proofs.Deeds
import LiveTabs.Proofs.SignalAccount
import LiveTabs.Proofs.SignalExchange
import LiveTabs.Proofs.Changes
import LiveTabs.Proofs.Sessions
import LiveTabs.Proofs.ScopedStore
import LiveTabs.Proofs.SetCookie
import LiveTabs.Proofs.Logout
import LiveTabs.Proofs.Passages
import LiveTabs.Proofs.Channels
import LiveTabs.Proofs.Offers
import LiveTabs.Proofs.Containment
import LiveTabs.Proofs.Registry
import LiveTabs.Proofs.Expiry
import LiveTabs.Proofs.Isolation
import LiveTabs.Proofs.Atomicity
import LiveTabs.Proofs.Retention
import LiveTabs.Proofs.EventStream
import LiveTabs.Proofs.ClientPayload
import LiveTabs.Proofs.WholeNumbers
import LiveTabs.Proofs.WrittenValues
import LiveTabs.Proofs.EmbeddedComponents
import LiveTabs.Proofs.MarkupReading
import LiveTabs.Proofs.CookieReturn
import LiveTabs.Proofs.ActionRequests
import LiveTabs.Proofs.FailedRenders
import LiveTabs.Proofs.Coherence
import LiveTabs.Proofs.SignalKeys
import LiveTabs.Proofs.Settings
import LiveTabs.Proofs.Capacity
