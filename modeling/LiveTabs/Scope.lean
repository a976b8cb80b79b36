/-!
Where a state lives: with one tab, with one session, or with the whole application.
-/
namespace LiveTabs

inductive Scope where
  | connection
  | session
  | application
  deriving DecidableEq, Inhabited

namespace Scope

def name : Scope → String
  | .connection => "connection"
  | .session => "session"
  | .application => "application"

def ofName? (text : String) : Option Scope :=
  if text = "connection" then some .connection
  else if text = "session" then some .session
  else if text = "application" then some .application
  else none

theorem ofName?_name (scope : Scope) : ofName? scope.name = some scope := by
  cases scope <;> rfl

end Scope
end LiveTabs
