import LiveTabs.Http.Router
import LiveTabs.Scenario.Direct
/-!
What may be done with an application that has been built, and what each such step answers. Pages
are loaded and actions asked for, directly or over HTTP; push channels are opened and polled; and
the process around the application creates, inspects, refreshes, closes and sweeps.
-/
namespace LiveTabs

/-- A connection is found under its id while it is registered, or by its number among those held,
which stay at hand after they were closed. -/
inductive Target where
  | registered (id : String)
  | held (number : Nat)

/-- Connections, push channels and sessions are named as in the answers to earlier steps. A poll
without a limit goes on as long as items are ready. -/
inductive Step where
  | render (route : String) (cookie : Option String)
  | runRequest (action payload : String)
  | runAction (connection action : String) (signals : KeyMap Json)
  | create (connection : String) (session : Option String) (page : Page)
  | subscribe (connection : String)
  | subscribeTo (target : Target)
  | poll (channel : Nat) (limit : Option Nat)
  | dropChannel (channel : Nat)
  | pop (target : Target)
  | drain (target : Target)
  | inspect (target : Target)
  | hold (target : Target)
  | direct (target : Target) (mode : Mode) (action : String) (body : List DirectStatement)
  | close (connection : String)
  | refresh (connection : String)
  | sweep (instant : Instant) (ttl : Duration)
  | sweepNow (ttl : Duration)
  | runSweeper (ttl : Option Duration)
  | stats
  | resolve (cookie : Option String)
  | session (session : String) (key : Option String)
  | setSession (session key : String) (value : Json)
  | refreshSession (session : String)
  | refuseSession (session : String)
  | application (key : String)
  | setApplication (key : String) (value : Json)
  | request (request : Http.Request)

/-- Why a poll took no more: it had enough, nothing else was ready, the channel is over, or it was
dropped before. -/
inductive Pause where
  | enough
  | pending
  | ended
  | dropped
  deriving DecidableEq

/-- An item of a push channel: the patch itself, or its frame on a channel opened over HTTP. -/
inductive Delivery where
  | patch (patch : Patch)
  | frame (text : String)

structure Stats where
  connections : Nat
  sessions : Nat
  application : Nat
  deriving DecidableEq

inductive Answer where
  | notFound
  | done
  | rendered (page : LoadedPage)
  | notRendered (error : LoadError)
  | outcome (outcome : ActionOutcome)
  | badPayload (error : RequestError)
  | created (connection : String) (session : Option String)
  | notCreated
  | channel (number : Option Nat)
  | polled (items : List Delivery) (pause : Pause)
  | patch (patch : Option Patch)
  | patches (patches : List Patch)
  | inspected (connection : Connection)
  | held (number : Option Nat)
  | direct (replies : List DirectReply)
  | closed (found : Bool)
  | refreshed (found : Bool)
  | swept (report : SweepCount)
  | sweeperStopped (connections : Nat)
  | stats (stats : Stats)
  | resolved (session : CookieSession)
  | session (contains refused : Bool) (value : Option Json)
  | stored (accepted : Bool)
  | value (value : Option Json)
  | response (response : Http.Response) (channel : Option Nat)

end LiveTabs
