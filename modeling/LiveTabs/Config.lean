import LiveTabs.Decimal
import LiveTabs.Text.Blank
/-!
The configuration of an application. Each setting has a default, which a named variable may
replace; a variable that is unset or blank does not. The variables are read in a fixed order and the
first invalid one is reported.
-/
namespace LiveTabs

/-- The two durations are in whole seconds. -/
structure Config where
  connectionTtl : Nat
  sessionMaxAge : Nat
  patchQueueCapacity : Nat
  cookieName : String
  clientScript : Option String
  deriving DecidableEq

inductive Setting where
  | connectionTtl
  | sessionMaxAge
  | patchQueueCapacity
  | cookieName
  | clientScript
  deriving DecidableEq

def Setting.name : Setting → String
  | .connectionTtl => "TABSYNC_CONNECTION_TTL_SECS"
  | .sessionMaxAge => "TABSYNC_SESSION_MAX_AGE_SECS"
  | .patchQueueCapacity => "TABSYNC_PATCH_QUEUE_CAPACITY"
  | .cookieName => "TABSYNC_COOKIE_NAME"
  | .clientScript => "TABSYNC_CLIENT_SCRIPT"

inductive InvalidReason where
  | belowOne
  | notPositive
  | cookieCharacters
  deriving DecidableEq

def InvalidReason.message : InvalidReason → String
  | .belowOne => "must be at least 1"
  | .notPositive => "not a positive integer"
  | .cookieCharacters => "cookie names may only use letters, digits, '_' and '-'"

/-- The value is the one that was set, blanks and all. -/
structure InvalidSetting where
  setting : Setting
  value : String
  reason : InvalidReason
  deriving DecidableEq

def InvalidSetting.message (error : InvalidSetting) : String :=
  "invalid value '" ++ error.value ++ "' for " ++ error.setting.name ++ ": " ++
    error.reason.message

namespace Config

def defaults : Config where
  connectionTtl := 15 * 60
  sessionMaxAge := 24 * 60 * 60
  patchQueueCapacity := 64
  cookieName := "tabsync_session"
  clientScript := none

instance : Inhabited Config := ⟨defaults⟩

/-- The greatest number of 64 bits. -/
def greatestCount : Nat := 18446744073709551615

/-- An optional plus sign and digits, for a number of at most 64 bits. -/
def readCount? (text : List Char) : Option Nat :=
  let unsigned := if text.head? == some '+' then text.drop 1 else text
  (Decimal.readUnsigned? unsigned).filter (· ≤ greatestCount)

def count (setting : Setting) (raw : String) : Except InvalidSetting Nat :=
  match readCount? (Text.trimBy Text.isBlank raw.toList) with
  | none => .error ⟨setting, raw, .notPositive⟩
  | some 0 => .error ⟨setting, raw, .belowOne⟩
  | some n => .ok n

def isCookieChar (c : Char) : Bool := c.isAlphanum || c == '_' || c == '-'

def cookie (raw : String) : Except InvalidSetting String :=
  let name := Text.trim raw
  if name.toList.all isCookieChar then .ok name
  else .error ⟨.cookieName, raw, .cookieCharacters⟩

/-- A variable's value, unless it is unset or blank. -/
def valueOf (lookup : String → Option String) (setting : Setting) : Option String :=
  (lookup setting.name).filter fun raw => !Text.allBlank raw

def readSetting {α : Type} (lookup : String → Option String) (setting : Setting) (unset : α)
    (read : String → Except InvalidSetting α) : Except InvalidSetting α :=
  match valueOf lookup setting with
  | none => .ok unset
  | some raw => read raw

def ofVariables (lookup : String → Option String) : Except InvalidSetting Config := do
  let ttl ← readSetting lookup .connectionTtl defaults.connectionTtl (count .connectionTtl)
  let maxAge ← readSetting lookup .sessionMaxAge defaults.sessionMaxAge (count .sessionMaxAge)
  let capacity ← readSetting lookup .patchQueueCapacity defaults.patchQueueCapacity
    (count .patchQueueCapacity)
  let name ← readSetting lookup .cookieName defaults.cookieName cookie
  let script ← readSetting lookup .clientScript defaults.clientScript
    fun raw => .ok (some (Text.trim raw))
  return ⟨ttl, maxAge, capacity, name, script⟩

end Config
end LiveTabs
