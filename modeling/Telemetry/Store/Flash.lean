import Telemetry.Store.Basic

/-!
# Flash memory

A store held in memory, some of whose keys may be worn out: writing or removing them fails. Erasing
everything does not touch single keys and fails on its own.
-/

namespace Telemetry.Store

structure Flash where
  values : Dict Value := []
  /-- The keys that cannot be written. -/
  failing : List String := []
  eraseFails : Bool := false
  deriving DecidableEq, Repr

namespace Flash

def put (key : String) (value : Option Value) (f : Flash) : Except Error Unit × Flash :=
  if key ∈ f.failing then (.error (.io "flash write failed"), f)
  else (.ok (), { f with values := Dict.put key value f.values })

def clear (f : Flash) : Except Error Unit × Flash :=
  if f.eraseFails then (.error (.io "flash erase failed"), f)
  else (.ok (), { f with values := [] })

instance : Storage Flash where
  lookup key f := Dict.find? key f.values
  put := put
  clear := clear

end Flash
end Telemetry.Store
