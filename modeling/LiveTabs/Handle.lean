import LiveTabs.StoreType
/-!
Handles to declared states and signals: a key together with the type and the initial value of its
declaration. Whoever holds one reads and writes at that type.
-/
namespace LiveTabs

structure State (type : StoreType) where
  key : String
  scope : Scope
  initial : type.Carrier

structure Signal (type : StoreType) where
  key : String
  initial : type.Carrier

abbrev AnyState := (type : StoreType) × State type

abbrev AnySignal := (type : StoreType) × Signal type

end LiveTabs
