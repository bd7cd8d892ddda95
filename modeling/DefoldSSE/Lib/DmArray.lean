/-
  DefoldSSE.Lib.DmArray — the engine's array with a capacity.

  A `dmArray` never grows by itself: `Push` on a full array is an error, and
  whoever wants room calls `OffsetCapacity` first.  Here the size stays within
  the capacity as a FIELD, and `push` asks for the room.
-/
import Mathlib.Data.List.Perm.Basic

namespace CLib

/-- `dmArray<T>`. -/
structure DmArray (α : Type*) where
  capacity : Nat
  data : List α
  fits : data.length ≤ capacity

namespace DmArray

variable {α : Type*}

/-- An empty array after `SetCapacity`. -/
def withCapacity (n : Nat) : DmArray α := ⟨n, [], Nat.zero_le n⟩

/-- `Full`. -/
def full (a : DmArray α) : Bool := a.data.length == a.capacity

/-- `Push`, on an array with room. -/
def push (a : DmArray α) (x : α) (room : a.full = false) : DmArray α where
  capacity := a.capacity
  data := a.data ++ [x]
  fits := by
    have hfits := a.fits
    have hroom : a.data.length ≠ a.capacity := by simpa [full] using room
    rw [List.length_append, List.length_singleton]
    omega

/-- `OffsetCapacity`. -/
def offsetCapacity (a : DmArray α) (n : Nat) : DmArray α :=
  ⟨a.capacity + n, a.data, Nat.le_trans a.fits (Nat.le_add_right _ _)⟩

/-- `if (a.Full()) a.OffsetCapacity(4); a.Push(x)`. -/
def pushGrowing (a : DmArray α) (x : α) : DmArray α :=
  if h : a.full = true then
    (a.offsetCapacity 4).push x (by
      have hfits := a.fits
      simp only [full, offsetCapacity, beq_eq_false_iff_ne]
      omega)
  else a.push x (by simpa using h)

/-- `SetSize(0)`. -/
def clear (a : DmArray α) : DmArray α := ⟨a.capacity, [], Nat.zero_le _⟩

/-- `EraseSwap`: the last element takes the place of the one erased. -/
def eraseSwap (a : DmArray α) (i : Nat) : DmArray α :=
  match a.data.getLast? with
  | none => a
  | some last => ⟨a.capacity, (a.data.set i last).dropLast, by
      have hfits := a.fits
      rw [List.length_dropLast, List.length_set]
      omega⟩

@[ext] theorem ext {a b : DmArray α} (hcapacity : a.capacity = b.capacity)
    (hdata : a.data = b.data) : a = b := by
  cases a
  cases b
  subst hcapacity hdata
  rfl

@[simp] theorem withCapacity_data (n : Nat) : (withCapacity n : DmArray α).data = [] := rfl
@[simp] theorem withCapacity_capacity (n : Nat) : (withCapacity n : DmArray α).capacity = n := rfl
@[simp] theorem clear_data (a : DmArray α) : a.clear.data = [] := rfl
@[simp] theorem clear_capacity (a : DmArray α) : a.clear.capacity = a.capacity := rfl

@[simp] theorem push_data (a : DmArray α) (x : α) (room : a.full = false) :
    (a.push x room).data = a.data ++ [x] := rfl
@[simp] theorem push_capacity (a : DmArray α) (x : α) (room : a.full = false) :
    (a.push x room).capacity = a.capacity := rfl

@[simp] theorem pushGrowing_data (a : DmArray α) (x : α) :
    (a.pushGrowing x).data = a.data ++ [x] := by
  unfold pushGrowing
  split
  · rfl
  · rfl

/-- **`EraseSwap` erases one element and changes the order of the others.** -/
theorem eraseSwap_perm (a : DmArray α) {i : Nat} (h : i < a.data.length) :
    (a.eraseSwap i).data.Perm (a.data.eraseIdx i) := by
  have hne : a.data ≠ [] := List.ne_nil_of_length_pos (Nat.zero_lt_of_lt h)
  have hlast : a.data.getLast? = some (a.data.getLast hne) := List.getLast?_eq_some_getLast hne
  have herase : (a.eraseSwap i).data = (a.data.set i (a.data.getLast hne)).dropLast := by
    unfold eraseSwap
    rw [hlast]
  rw [herase]
  generalize a.data.getLast hne = last at hlast
  obtain ⟨front, hdata⟩ := List.getLast?_eq_some_iff.mp hlast
  rw [hdata] at h ⊢
  rw [List.length_append, List.length_singleton] at h
  by_cases hi : i < front.length
  · rw [List.set_append_left _ _ hi, List.dropLast_concat, List.eraseIdx_append_of_lt_length hi]
    -- the last element ends up in another place
    exact (List.set_perm_cons_eraseIdx hi last).trans (List.perm_append_singleton last _).symm
  · have hi : i = front.length := by omega
    subst hi
    rw [List.set_append_right _ _ (Nat.le_refl _), List.eraseIdx_append_of_length_le (Nat.le_refl _)]
    simp

/-- The element erased and those that stay. -/
theorem cons_eraseSwap_perm (a : DmArray α) {i : Nat} (h : i < a.data.length) :
    (a.data[i] :: (a.eraseSwap i).data).Perm a.data :=
  ((a.eraseSwap_perm h).cons _).trans (List.getElem_cons_eraseIdx_perm h)

/-- What stands before it stays where it is. -/
theorem take_eraseSwap (a : DmArray α) {i : Nat} (h : i < a.data.length) :
    (a.eraseSwap i).data.take i = a.data.take i := by
  have hne : a.data ≠ [] := List.ne_nil_of_length_pos (Nat.zero_lt_of_lt h)
  have hlast : a.data.getLast? = some (a.data.getLast hne) := List.getLast?_eq_some_getLast hne
  unfold eraseSwap
  rw [hlast]
  show ((a.data.set i (a.data.getLast hne)).dropLast).take i = a.data.take i
  rw [List.dropLast_eq_take, List.take_take, List.length_set, Nat.min_eq_left (by omega),
    List.take_set_of_le (Nat.le_refl i)]

/-- The element pushed last is the one `EraseSwap` can erase in place. -/
theorem eraseSwap_pushGrowing (a : DmArray α) (x : α) :
    ((a.pushGrowing x).eraseSwap a.data.length).data = a.data := by
  have hlast : (a.pushGrowing x).data.getLast? = some x := by simp
  unfold eraseSwap
  rw [hlast]
  simp only [pushGrowing_data]
  rw [List.set_append_right _ _ (Nat.le_refl _)]
  simp

end DmArray

end CLib
