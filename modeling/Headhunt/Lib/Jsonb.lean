import Headhunt.Lib.PyJson

/-! The containment operator `@>` of jsonb. -/
namespace Py.Json

mutual

/-- `a @> b`, for a container on the right or below one. -/
def contains (a : Json) : Json → Bool
  | .obj e => match a with
    | .obj d => containsItems d e
    | _ => false
  | .arr ys => match a with
    | .arr xs => containsElems xs ys
    | _ => false
  | b => a = b

def containsElems (xs : List Json) : List Json → Bool
  | [] => true
  | y :: ys => (xs.any fun x => contains x y) && containsElems xs ys

def containsItems (d : Dict) : Dict → Bool
  | [] => true
  | (k, v) :: e => (d.any fun item => item.1 = k && contains item.2 v) && containsItems d e

end

mutual

theorem contains_self : ∀ a : Json, contains a a = true
  | .obj d => by
    simp only [contains]
    exact containsItems_of_subset d d (fun _ h => h)
  | .arr xs => by
    simp only [contains]
    exact containsElems_of_subset xs xs (fun _ h => h)
  | .null => by simp [contains]
  | .bool _ => by simp [contains]
  | .int _ => by simp [contains]
  | .float _ => by simp [contains]
  | .str _ => by simp [contains]

theorem containsElems_of_subset (xs : List Json) :
    ∀ ys : List Json, (∀ y ∈ ys, y ∈ xs) → containsElems xs ys = true
  | [], _ => rfl
  | y :: ys, h => by
    have hy : (xs.any fun x => contains x y) = true :=
      List.any_eq_true.mpr ⟨y, h y List.mem_cons_self, contains_self y⟩
    have hys := containsElems_of_subset xs ys fun y hy => h y (List.mem_cons_of_mem _ hy)
    simp [containsElems, hy, hys]

theorem containsItems_of_subset (d : Dict) :
    ∀ e : Dict, (∀ item ∈ e, item ∈ d) → containsItems d e = true
  | [], _ => rfl
  | (k, v) :: e, h => by
    have hv : (d.any fun item => item.1 = k && contains item.2 v) = true :=
      List.any_eq_true.mpr ⟨(k, v), h _ List.mem_cons_self, by simp [contains_self v]⟩
    have he := containsItems_of_subset d e fun item hi => h item (List.mem_cons_of_mem _ hi)
    simp only [containsItems, hv, he, Bool.and_self]

end

end Py.Json
