/-!
# Reserving memory

Whether memory can be had is not for the program to say: an allocator may refuse any block, large or small. Two things
only are settled beforehand. Nothing is always to be had, and no block is longer than a signed offset reaches.
-/
namespace ScriptStreams

/-- Longest block of memory. -/
def Allocator.maxBlock : Nat := 0x7fffffffffffffff

/-- Which blocks of memory can be reserved (`try_reserve_exact`). -/
structure Allocator where
  reserves : Nat → Bool
  reserves_zero : reserves 0 = true
  addressable : ∀ {n}, reserves n = true → n ≤ Allocator.maxBlock

namespace Allocator

/-- All blocks up to this length that can be addressed. -/
def upTo (limit : Nat) : Allocator where
  reserves n := n ≤ min limit maxBlock
  reserves_zero := decide_eq_true (Nat.zero_le _)
  addressable h := Nat.le_trans (of_decide_eq_true h) (Nat.min_le_right _ _)

/-- Where memory is not scarce, every block of less than 2^60 bytes. -/
def ample : Allocator := upTo 0xfffffffffffffff

end Allocator
end ScriptStreams
