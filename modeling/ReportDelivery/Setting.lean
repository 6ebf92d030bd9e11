import ReportDelivery.Value.Basic

/-! Settings that may have been emptied.

The command line can give an option no value at all. The setting is then neither its default nor
a text, and where settings are written it shows as a list without items. -/
namespace ReportDelivery

inductive Setting (α : Type) where
  | value (a : α)
  | emptied
deriving DecidableEq

namespace Setting

instance {α : Type} : Coe α (Setting α) := ⟨.value⟩

def value? {α : Type} : Setting α → Option α
  | .value a => some a
  | .emptied => none

def toValue : Setting Text → Value
  | .value t => .str t
  | .emptied => .list []

end Setting
end ReportDelivery
