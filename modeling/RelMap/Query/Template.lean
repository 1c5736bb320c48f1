import RelMap.Query.Element

/-!
# Templates

An immutable sequence of elements that grows at its end. The last element comes first inside, so
templates that grow from the same beginning share it.
-/

namespace RelMap

structure Template where
  reversed : List Element := []

namespace Template

def withElement (t : Template) (element : Element) : Template := ⟨element :: t.reversed⟩

def withAll (t : Template) (elements : List Element) : Template := elements.foldl withElement t

def ofList (elements : List Element) : Template := withAll {} elements

def toList (t : Template) : List Element := t.reversed.reverse

def size (t : Template) : Nat := t.reversed.length

def isEmpty (t : Template) : Bool := t.reversed.isEmpty

@[simp] theorem toList_withElement (t : Template) (element : Element) :
    (t.withElement element).toList = t.toList ++ [element] := by
  simp [withElement, toList]

@[simp] theorem toList_withAll (t : Template) (elements : List Element) :
    (t.withAll elements).toList = t.toList ++ elements := by
  induction elements generalizing t with
  | nil => simp [withAll]
  | cons e rest ih =>
    have h := ih (t.withElement e)
    simp only [withAll, List.foldl_cons] at h ⊢
    simp [h]

theorem toList_ofList (elements : List Element) : (ofList elements).toList = elements := by
  rw [ofList, toList_withAll]
  rfl

end Template

end RelMap
