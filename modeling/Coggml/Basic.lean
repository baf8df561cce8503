import Mathlib.Algebra.Order.Field.Rat
import Mathlib.Algebra.BigOperators.Group.List
import Mathlib.Tactic.Linarith
/-!
# C conventions of the cognitive layers

Every C `float` of the repository is read as an exact rational: the theorems of this
development are statements over exact arithmetic, and each finite binary32 value is a
rational. A C string is the list of its bytes before the terminating NUL. The clamp
`fmaxf(lo, fminf(hi, x))` that the setters apply is `clampf`, with the three facts every
range proof uses.
-/

namespace Coggml

/-- A NUL-terminated C string: its bytes before the terminator. -/
abbrev CString := List UInt8

/-- The byte of an ASCII character. -/
def charByte (c : Char) : UInt8 := c.toNat.toUInt8

/-- The bytes of an ASCII string literal. -/
def cstr (s : String) : CString := s.toList.map charByte

/-- The decimal rendering of `%u` and `%lu`. -/
def decimalBytes (n : Nat) : CString := (Nat.toDigits 10 n).map charByte

/-- `RAND_MAX` of the C library. -/
def randMax : Nat := 2147483647

/-- `strncpy(dst, src, size - 1); dst[size - 1] = '\0'` into a buffer of `size` bytes. -/
def copyName (size : Nat) (src : CString) : CString := src.take (size - 1)

/-- A one-dimensional `GGML_TYPE_F32` tensor, read as its elements. -/
abbrev Tensor := List ℚ

/-- `ggml_new_tensor_1d(ctx, GGML_TYPE_F32, n)` followed by `ggml_set_zero`. -/
def zeroTensor (n : Nat) : Tensor := List.replicate n 0

/-- A write through the pointer a linear search returns: the first element satisfying `p` is
replaced by its image under `f`; with no match the table is unchanged. -/
def modifyFirst {α : Type} (p : α → Bool) (f : α → α) : List α → List α
  | [] => []
  | a :: rest => if p a then f a :: rest else a :: modifyFirst p f rest

/-- The write keeps the length of the table. -/
@[simp] theorem length_modifyFirst {α : Type} (p : α → Bool) (f : α → α) (l : List α) :
    (modifyFirst p f l).length = l.length := by
  induction l with
  | nil => rfl
  | cons a rest ih => by_cases h : p a <;> simp [modifyFirst, h, ih]

/-- A write through a search keeps any property its update keeps. -/
theorem forall_mem_modifyFirst {α : Type} {P : α → Prop} {p : α → Bool} {g : α → α}
    (keeps : ∀ a, P a → P (g a)) {l : List α} (all : ∀ a ∈ l, P a) :
    ∀ a ∈ modifyFirst p g l, P a := by
  induction l with
  | nil => simp [modifyFirst]
  | cons a rest ih =>
    simp only [List.mem_cons, forall_eq_or_imp] at all
    by_cases h : p a
    · simpa [modifyFirst, h] using And.intro (keeps a all.1) all.2
    · simpa [modifyFirst, h] using And.intro all.1 (ih all.2)

/-- `fmaxf(lo, fminf(hi, x))`. -/
def clampf (lo hi x : ℚ) : ℚ := max lo (min hi x)

section Clamp

variable {lo hi x : ℚ}

/-- A clamp never goes below its lower bound. -/
theorem le_clampf : lo ≤ clampf lo hi x := le_max_left _ _

/-- A clamp with ordered bounds never goes above its upper bound. -/
theorem clampf_le (ordered : lo ≤ hi) : clampf lo hi x ≤ hi :=
  max_le ordered (min_le_left _ _)

/-- A value already in range is left alone. -/
theorem clampf_of_mem (low : lo ≤ x) (high : x ≤ hi) : clampf lo hi x = x := by
  simp [clampf, low, high]

end Clamp

/-! ## `uint32_t` arithmetic -/

section Unsigned

/-- `uint32_t` addition wraps modulo `2^32`. -/
theorem uint32_toNat_add (a b : UInt32) : (a + b).toNat = (a.toNat + b.toNat) % 2 ^ 32 :=
  BitVec.toNat_add _ _

/-- A `uint32_t` counter incremented below `2^32 - 1` does not wrap. -/
theorem uint32_toNat_add_one {n : UInt32} (below : n.toNat + 1 < 2 ^ 32) :
    (n + 1).toNat = n.toNat + 1 :=
  (uint32_toNat_add n 1).trans (Nat.mod_eq_of_lt below)

/-- `uint32_t` multiplication wraps modulo `2^32`. -/
theorem uint32_toNat_mul (a b : UInt32) : (a * b).toNat = a.toNat * b.toNat % 2 ^ 32 :=
  BitVec.toNat_mul _ _

/-- A conversion to `uint32_t` keeps the number modulo `2^32`. -/
theorem uint32_toNat_ofNat (n : Nat) : n.toUInt32.toNat = n % 2 ^ 32 :=
  BitVec.toNat_ofNat _ _

end Unsigned

end Coggml
