/-
Flat buffers of words: reading a place, cutting out a stretch, and writing one.

- `slice_eq_ok_iff`, `item_eq_ok_iff`: exactly when a read succeeds, and what it gives.
- `size_overwrite`, `getElem?_overwrite`: a write that fits keeps the size and changes the written places only.
-/
import BatchEval.Fault
import BatchEval.Word

namespace BatchEval.Flat

/-- the words from `start` up to but not including `stop` -/
def slice (a : Array Word) (start stop : Nat) : Except Fault (Array Word) :=
  if stop ≤ a.size then .ok (a.extract start stop) else .error (.endMissing a.size stop)

/-- the first `stop` words -/
def front (a : Array Word) (stop : Nat) : Except Fault (Array Word) := slice a 0 stop

/-- the word at a place -/
def item (a : Array Word) (place : Nat) : Except Fault Word :=
  match a[place]? with
  | some w => .ok w
  | none => .error (.placeMissing a.size place)

/-- the buffer with `source` written from `offset` on -/
def overwrite (a : Array Word) (offset : Nat) (source : Array Word) : Array Word :=
  a.extract 0 offset ++ source ++ a.extract (offset + source.size) a.size

/-- `source` in the place of all of `target`, which has to have its size -/
def replaceAll (target source : Array Word) : Except Fault (Array Word) :=
  if source.size = target.size then .ok source else .error (.copySize source.size target.size)

/-- the even places of `source`, written over the front of `target` as far as both reach -/
def takeEven (source target : Array Word) : Array Word :=
  target.mapIdx fun i old => (source[2 * i]?).getD old

theorem slice_eq_ok_iff {a b : Array Word} {start stop : Nat} :
    slice a start stop = .ok b ↔ stop ≤ a.size ∧ a.extract start stop = b := by
  unfold slice; split <;> simp [*]

theorem item_eq_ok_iff {a : Array Word} {place : Nat} {w : Word} : item a place = .ok w ↔ a[place]? = some w := by
  unfold item; split <;> simp [*]

@[simp] theorem size_takeEven (source target : Array Word) : (takeEven source target).size = target.size := by
  simp [takeEven]

theorem size_overwrite {a source : Array Word} {offset : Nat} (h : offset + source.size ≤ a.size) :
    (overwrite a offset source).size = a.size := by
  simp only [overwrite, Array.size_append, Array.size_extract]
  omega

/-- a write that fits changes the written places and no other -/
theorem getElem?_overwrite {a source : Array Word} {offset : Nat} (h : offset + source.size ≤ a.size) (i : Nat) :
    (overwrite a offset source)[i]? =
      if offset ≤ i ∧ i < offset + source.size then source[i - offset]? else a[i]? := by
  simp only [overwrite, Array.append_assoc, Array.getElem?_append, Array.getElem?_extract, Array.size_extract]
  grind

end BatchEval.Flat
