import Mathlib

/-!
# Literals of finite types

A literal of `Fin n` needs that `n` is not zero.  All modules share these instances for the sizes
of a byte and of a list of three.
-/

namespace WbMqttDali

instance neZeroByte : NeZero (256 : ℕ) := ⟨by decide⟩

instance neZeroThree : NeZero (3 : ℕ) := ⟨by decide⟩

end WbMqttDali
