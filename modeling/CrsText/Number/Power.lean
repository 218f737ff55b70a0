/-! The powers of two and of ten, on which binary and decimal numbers are scaled.
-/

set_option autoImplicit false

namespace CrsText

def twoTo (exponent : Nat) : Nat := Nat.pow 2 exponent

def tenTo (exponent : Nat) : Nat := Nat.pow 10 exponent

end CrsText
