/-!
Words: numbers that are kept in a fixed number of bits.
-/

namespace CompilerRelay
namespace Word

/-- How many values so many bits have. -/
def size (bits : Nat) : Nat :=
  Nat.pow 2 bits

end Word
end CompilerRelay
