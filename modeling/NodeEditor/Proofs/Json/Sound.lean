import NodeEditor.Proofs.Decimal.Finite
import NodeEditor.Proofs.Json.Rearrange

namespace NodeEditor

-- The numbers that there are outside: integers of 64 bits, signed or not, and finite doubles.
def Number.Stored : Number → Prop
  | .int n   => -0x8000000000000000 ≤ n ∧ n < 0x10000000000000000
  | .float f => f.isFinite

theorem Number.Stored.isFinite {n : Number} (h : n.Stored) : n.toFloat.isFinite := by
  cases n with
  | int n   => exact Decimal.isFinite_ofInt (by have ⟨_, _⟩ := h; omega)
  | float f => exact h

namespace Json

-- The values that there are outside: no key stands twice in an object, and keys have an order.
structure Sound (j : Json) : Prop where
  ordered : j.Ordered
  stored  : ∀ n ∈ j.numbers, n.Stored

theorem sound_hereditary : Hereditary Sound where
  items h j hj := {
    ordered := orderedItems_iff.mp h.ordered j hj
    stored  := forall_numbers_arr_iff.mp h.stored j hj }
  values h e he := {
    ordered := orderedEntries_iff.mp h.ordered.right e he
    stored  := forall_numbers_obj_iff.mp h.stored e he }

end Json

end NodeEditor
