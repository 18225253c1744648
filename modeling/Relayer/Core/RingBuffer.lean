import Mathlib

/-!
# Ring buffers

A fixed number of slots is written in turn, at the position that a counter gives.  The
counter wraps at a bound of its own; until it does, the slots hold the most recent values
and nothing else.
-/

namespace Relayer.Ring

variable {A : Type}

structure RingBuffer (A : Type) where
  slots : List (Option A)
  index : ℕ
  deriving DecidableEq, Repr

def RingBuffer.empty (size : ℕ) : RingBuffer A := ⟨List.replicate size none, 0⟩

def RingBuffer.record (bound : ℕ) (ring : RingBuffer A) (value : A) : RingBuffer A where
  slots := ring.slots.set (ring.index % ring.slots.length) (some value)
  index := (ring.index + 1) % bound

/-- As many of the values as fit, most recent first, and then empty slots. -/
def window (size : ℕ) (values : List A) : List (Option A) :=
  (values.map some ++ List.replicate size none).take size

/-- The slots before the counter hold the most recent values, the others those before. -/
def layout (size : ℕ) (values : List A) : List (Option A) :=
  ((window size values).take (values.length % size)).reverse ++
    ((window size values).drop (values.length % size)).reverse

/-- The buffer has recorded the values, most recent first. -/
structure RingBuffer.Holds (size bound : ℕ) (ring : RingBuffer A) (values : List A) : Prop where
  slots : ring.slots = layout size values
  index : ring.index = values.length % bound

section Window

variable {size bound : ℕ} {ring : RingBuffer A} {values : List A}

@[simp]
theorem length_window (size : ℕ) (values : List A) : (window size values).length = size := by
  simp [window]

@[simp]
theorem length_layout (size : ℕ) (values : List A) : (layout size values).length = size := by
  rw [layout, List.length_append, List.length_reverse, List.length_reverse,
    ← List.length_append, List.take_append_drop, length_window]

theorem window_cons (value : A) (hsize : 0 < size) :
    window size (value :: values) = some value :: (window size values).take (size - 1) := by
  obtain ⟨rest, rfl⟩ := Nat.exists_eq_succ_of_ne_zero hsize.ne'
  simp [window, List.take_take]

theorem holds_empty (size bound : ℕ) : (RingBuffer.empty size).Holds size bound ([] : List A) where
  slots := by simp [RingBuffer.empty, layout, window]
  index := by simp [RingBuffer.empty]

/-- The oldest value gives way to the new one. -/
theorem layout_cons (value : A) (hsize : 0 < size) :
    (layout size values).set (values.length % size) (some value) =
      layout size (value :: values) := by
  have hposition : values.length % size < size := Nat.mod_lt _ hsize
  obtain ⟨recent, oldest, hwindow⟩ : ∃ recent oldest, window size values = recent ++ [oldest] :=
    ⟨_, _, (List.dropLast_concat_getLast
      (List.ne_nil_of_length_pos (by rw [length_window]; exact hsize))).symm⟩
  have hrecent : recent.length + 1 = size := by
    have := length_window size values
    rwa [hwindow, List.length_append, List.length_singleton] at this
  have hnext : window size (value :: values) = some value :: recent := by
    rw [window_cons value hsize, hwindow, List.take_append_of_le_length (by omega),
      List.take_of_length_le (by omega)]
  rw [layout, layout, hwindow, hnext, List.take_append_of_le_length (by omega),
    List.drop_append_of_le_length (by omega), List.reverse_append, List.reverse_singleton,
    List.singleton_append, List.set_append_right _ _ (by simp)]
  have hhead : values.length % size - (recent.take (values.length % size)).reverse.length = 0 := by
    simp only [List.length_reverse, List.length_take]
    omega
  rw [hhead, List.set_cons_zero, List.length_cons]
  by_cases hlast : values.length % size + 1 = size
  · -- the counter is back at the first slot
    have hzero : (values.length + 1) % size = 0 := by
      rw [← Nat.mod_add_mod, hlast, Nat.mod_self]
    rw [hzero, List.take_of_length_le (by omega), List.drop_eq_nil_of_le (by omega)]
    simp
  · have hsucc : (values.length + 1) % size = values.length % size + 1 := by
      rw [← Nat.mod_add_mod, Nat.mod_eq_of_lt (by omega)]
    rw [hsucc]
    simp

theorem RingBuffer.Holds.record (hholds : ring.Holds size bound values) (hsize : 0 < size)
    (hbound : values.length < bound) (value : A) :
    (ring.record bound value).Holds size bound (value :: values) where
  slots := by
    rw [RingBuffer.record, hholds.slots, hholds.index, length_layout,
      Nat.mod_eq_of_lt hbound, layout_cons value hsize]
  index := by
    rw [RingBuffer.record, hholds.index, List.length_cons, Nat.mod_add_mod]

/-- What is counted over the slots is counted over the most recent values. -/
theorem countP_layout (counted : Option A → Bool) (hnone : counted none = false) :
    (layout size values).countP counted =
      (values.take size).countP fun value => counted (some value) := by
  have hwindow : (layout size values).countP counted = (window size values).countP counted := by
    rw [layout, List.countP_append, List.countP_reverse, List.countP_reverse,
      ← List.countP_append, List.take_append_drop]
  rw [hwindow, window, List.take_append, List.countP_append, ← List.map_take, List.countP_map]
  have hempty : ((List.replicate size none).take (size - (values.map some).length)).countP
      counted = 0 := by
    rw [List.take_replicate, List.countP_replicate, hnone]
    simp
  rw [hempty]
  rfl

end Window

end Relayer.Ring
