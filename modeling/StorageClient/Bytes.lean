/-!
# StorageClient.Bytes

Row images, keys and large objects are octet strings in the engine's native format; this library
moves them about and never looks inside. What it does with them is little: compare them, cut them
to the size of a buffer, overwrite a part, and slice a column out.
-/

namespace StorageClient

/-- An octet string. -/
abbrev Bytes := List UInt8

namespace Bytes

/-- Cuts an octet string to `size` octets, or pads it with zeros to that size. -/
def fit (size : Nat) (bytes : Bytes) : Bytes :=
  bytes.take size ++ List.replicate (size - bytes.length) 0

/-- Writes `patch` over `bytes` from `offset` on; what would fall past the end is dropped. -/
def overlay (bytes : Bytes) (offset : Nat) (patch : Bytes) : Bytes :=
  bytes.take offset ++ patch.take (bytes.length - offset) ++ bytes.drop (offset + patch.length)

/-- The `length` octets from `offset` on, if they all lie inside `bytes`. -/
def slice? (bytes : Bytes) (offset length : Nat) : Option Bytes :=
  if offset + length ≤ bytes.length then some ((bytes.drop offset).take length) else none

@[simp] theorem length_fit (size : Nat) (bytes : Bytes) : (fit size bytes).length = size := by
  simp only [fit, List.length_append, List.length_take, List.length_replicate]
  omega

/-- An octet string that has the size already is left alone. -/
theorem fit_of_length_eq {size : Nat} {bytes : Bytes} (h : bytes.length = size) :
    fit size bytes = bytes := by
  subst h
  simp [fit]

@[simp] theorem length_overlay (bytes : Bytes) (offset : Nat) (patch : Bytes) :
    (overlay bytes offset patch).length = bytes.length := by
  simp only [overlay, List.length_append, List.length_take, List.length_drop]
  omega

/-- A slice is the octets it names, and lies inside. -/
theorem slice?_eq_some_iff {bytes out : Bytes} {offset length : Nat} :
    slice? bytes offset length = some out ↔
      offset + length ≤ bytes.length ∧ out = (bytes.drop offset).take length := by
  unfold slice?
  split
  · next hle =>
    rw [Option.some.injEq]
    exact ⟨fun h => ⟨hle, h.symm⟩, fun h => h.2.symm⟩
  · next hle => exact ⟨(nomatch ·), fun h => absurd h.1 hle⟩

/-- A slice has the length that was asked for. -/
theorem length_of_slice? {bytes out : Bytes} {offset length : Nat}
    (h : slice? bytes offset length = some out) : out.length = length := by
  obtain ⟨hle, rfl⟩ := slice?_eq_some_iff.mp h
  simp only [List.length_take, List.length_drop]
  omega

/-- A slice is missing exactly when it would run past the end. -/
theorem slice?_eq_none_iff {bytes : Bytes} {offset length : Nat} :
    slice? bytes offset length = none ↔ bytes.length < offset + length := by
  unfold slice?
  split
  · simp only [reduceCtorEq, false_iff]
    omega
  · simp only [true_iff]
    omega

end Bytes

end StorageClient
