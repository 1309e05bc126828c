/-!
# `Wireframe.Power` — powers with natural exponents

Limits of words, fields of doubles and places of decimals are powers with natural exponents. Some
libraries bring operations of their own for them; here they are always those of the core library, in the
program as in the statements about it.
-/

namespace Wireframe

-- Above the operations of other libraries, which are tried at `high` where the exponent is a numeral.
@[default_instance 20000]
instance (priority := 2000) naturalPower {α : Type} [NatPow α] : Pow α Nat := instPowNat

end Wireframe
