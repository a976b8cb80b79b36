import LiveTabs.Clock
import LiveTabs.Json
import LiveTabs.KeyMap
import LiveTabs.Text.Blank
/-!
The values that the tabs of one session share, for all sessions. An invalidated session is refused:
its values are gone, its cookie is worth nothing, and nothing can be written to it until the
refusal itself expires.
-/
namespace LiveTabs

structure Session where
  values : KeyMap Json
  lastAccess : Instant

structure Sessions where
  live : KeyMap Session
  refused : KeyMap Instant

structure CookieSession where
  id : String
  minted : Bool
  deriving DecidableEq

namespace Sessions

def empty : Sessions := ⟨KeyMap.empty, KeyMap.empty⟩

def contains (sessions : Sessions) (id : String) : Bool := sessions.live.contains id

def isRefused (sessions : Sessions) (id : String) : Bool := sessions.refused.contains id

def get? (sessions : Sessions) (id key : String) : Option Json :=
  if sessions.isRefused id then none
  else (sessions.live.get? id).bind fun session => session.values.get? key

/-- A session that does not exist begins empty. One that exists is not refreshed by this. -/
def ensure (sessions : Sessions) (now : Instant) (id : String) : Sessions :=
  if sessions.contains id then sessions
  else { sessions with live := sessions.live.insert id ⟨KeyMap.empty, now⟩ }

/-- Time never runs backwards for a session. -/
def refresh (sessions : Sessions) (now : Instant) (id : String) : Sessions :=
  match sessions.live.get? id with
  | none => sessions
  | some session =>
    { sessions with
      live := sessions.live.insert id { session with lastAccess := max session.lastAccess now } }

def put (sessions : Sessions) (id key : String) (value : Json) : Sessions :=
  match sessions.live.get? id with
  | none => sessions
  | some session =>
    { sessions with
      live := sessions.live.insert id { session with values := session.values.insert key value } }

/-- Writes a value unless the session is refused; a session that was swept begins anew. -/
def set (sessions : Sessions) (now : Instant) (id key : String) (value : Json) :
    Sessions × Bool :=
  if sessions.isRefused id then (sessions, false)
  else ((sessions.ensure now id).put id key value, true)

def refuse (sessions : Sessions) (now : Instant) (id : String) : Sessions :=
  ⟨sessions.live.erase id, sessions.refused.insert id now⟩

/-- The session that a cookie names, or a new one where it names none or a refused one. -/
def resolve (sessions : Sessions) (now : Instant) (fresh : String) (cookie : Option String) :
    Sessions × CookieSession :=
  match (cookie.map Text.trim).filter fun id => !id.isEmpty && !sessions.isRefused id with
  | some id => ((sessions.ensure now id).refresh now id, ⟨id, false⟩)
  | none => (sessions.ensure now fresh, ⟨fresh, true⟩)

/-- Drops the sessions and the refusals that have expired. -/
def sweep (sessions : Sessions) (now : Instant) (ttl : Duration) : Sessions :=
  ⟨sessions.live.filter fun _ session => !expired now session.lastAccess ttl,
    sessions.refused.filter fun _ since => !expired now since ttl⟩

end Sessions

/-- What tabs share: the values of the application and those of each session. -/
structure Shared where
  application : KeyMap Json
  sessions : Sessions

def Shared.empty : Shared := ⟨KeyMap.empty, Sessions.empty⟩

end LiveTabs
