import Headhunt.Lib.JsonOrder

/-! `to_openai_strict_json_schema`, and the conversion it stands for. The code goes over schemas,
maps of property names and literal values with one recursion; the conversion tells them apart.
Dicts keep their items in the order they came. -/
namespace Headhunt.Gateways
open Py

def droppedKeywords : List String := ["default", "format"]

/-- `d.get(k) if isinstance(d.get(k), dict) else None`. -/
def getDict (d : Dict) (k : String) : Option Dict := (d.get? k).bind dictOrNone

/-- What a node with properties is given on the way out. -/
def closeObject (cleaned : Dict) : Dict :=
  match getDict cleaned "properties" with
  | some properties =>
    (cleaned.assign "additionalProperties" (.bool false)).assign "required"
      (.arr (properties.map fun property => .str property.1))
  | none => cleaned

mutual

/-- `_strict_schema_node`; `cleaned` is a new dict, and nothing else is assigned to. -/
def strictSchemaNode : Json → Json
  | .arr elems => .arr (strictElems elems)
  | .obj items => .obj (closeObject (strictItems items))
  | value => value

def strictElems : List Json → List Json
  | [] => []
  | item :: elems => strictSchemaNode item :: strictElems elems

def strictItems : Dict → Dict
  | [] => []
  | (key, item) :: items =>
    if key ∈ droppedKeywords then strictItems items
    else (key, strictSchemaNode item) :: strictItems items

end

/-- `to_openai_strict_json_schema`; the deep copy of a value is the value. -/
def toOpenaiStrictJsonSchema (schema : Dict) : Json := strictSchemaNode (.obj schema)

/-- What a value in a schema is: a schema or a list of them, a map from names to schemas, or
a value that describes data. -/
inductive Position
  | schema
  | names
  | literal
deriving DecidableEq

def nameKeywords : List String :=
  ["properties", "patternProperties", "$defs", "definitions", "dependentSchemas"]

def schemaKeywords : List String :=
  ["items", "prefixItems", "additionalItems", "unevaluatedItems", "contains",
    "additionalProperties", "unevaluatedProperties", "propertyNames", "contentSchema", "if", "then",
    "else", "not", "allOf", "anyOf", "oneOf"]

/-- `dependencies`, which older drafts have for lists of names as well as for schemas, counts as a
literal. -/
def position (keyword : String) : Position :=
  if keyword ∈ nameKeywords then .names
  else if keyword ∈ schemaKeywords then .schema
  else .literal

mutual

/-- The schema without the keywords dropped, its objects closed; literal values stay. -/
def strictMeaning : Position → Json → Json
  | .schema, .arr elems => .arr (meaningElems elems)
  | .schema, .obj items => .obj (closeObject (meaningItems items))
  | .names, .obj items => .obj (meaningNames items)
  | _, value => value

def meaningElems : List Json → List Json
  | [] => []
  | item :: elems => strictMeaning .schema item :: meaningElems elems

def meaningItems : Dict → Dict
  | [] => []
  | (key, item) :: items =>
    if key ∈ droppedKeywords then meaningItems items
    else (key, strictMeaning (position key) item) :: meaningItems items

def meaningNames : Dict → Dict
  | [] => []
  | (name, item) :: items => (name, strictMeaning .schema item) :: meaningNames items

end

/-- A dict of Python has each key once. -/
inductive Distinct : Json → Prop
  | scalar {v : Json} : (∀ elems, v ≠ .arr elems) → (∀ items, v ≠ .obj items) → Distinct v
  | arr {elems : List Json} : (∀ v ∈ elems, Distinct v) → Distinct (.arr elems)
  | obj {items : Dict} : (items.map (·.1)).Nodup → (∀ item ∈ items, Distinct item.2) →
      Distinct (.obj items)

/-- The values that can stand in each position of a JSON schema. -/
inductive IsSchema : Position → Json → Prop
  | bool {b : Bool} : IsSchema .schema (.bool b)
  | elems {elems : List Json} : (∀ v ∈ elems, IsSchema .schema v) → IsSchema .schema (.arr elems)
  | node {items : Dict} : (items.map (·.1)).Nodup →
      (∀ item ∈ items, IsSchema (position item.1) item.2) → IsSchema .schema (.obj items)
  | names {items : Dict} : (items.map (·.1)).Nodup →
      (∀ item ∈ items, ∀ elems, item.2 ≠ .arr elems) →
      (∀ item ∈ items, IsSchema .schema item.2) → IsSchema .names (.obj items)
  | literal {v : Json} : Distinct v → IsSchema .literal v

/-- The object is closed already, or has no properties. -/
def Closed (items : Dict) : Prop :=
  ∀ properties, getDict items "properties" = some properties →
    items.get? "additionalProperties" = some (.bool false) ∧
    items.get? "required" = some (.arr (properties.map fun property => .str property.1))

/-- No dict in the value looks like a schema that the code would change. -/
inductive Untouched : Json → Prop
  | scalar {v : Json} : (∀ elems, v ≠ .arr elems) → (∀ items, v ≠ .obj items) → Untouched v
  | arr {elems : List Json} : (∀ v ∈ elems, Untouched v) → Untouched (.arr elems)
  | obj {items : Dict} : (∀ item ∈ items, item.1 ∉ droppedKeywords) →
      (∀ item ∈ items, Untouched item.2) → Closed items → Untouched (.obj items)

def Replaced (items : Dict) (keyword : String) : Prop :=
  (getDict items "properties").isSome ∧
    (keyword = "additionalProperties" ∨ keyword = "required")

/-- No name is taken for a keyword, and no literal value for a schema. -/
inductive Fits : Position → Json → Prop
  | scalar {p : Position} {v : Json} : (∀ elems, v ≠ .arr elems) → (∀ items, v ≠ .obj items) →
      Fits p v
  | elems {elems : List Json} : (∀ v ∈ elems, Fits .schema v) → Fits .schema (.arr elems)
  | node {items : Dict} :
      (∀ item ∈ items, item.1 ∉ droppedKeywords → ¬Replaced items item.1 →
        Fits (position item.1) item.2) → Fits .schema (.obj items)
  | names {items : Dict} : (∀ item ∈ items, item.1 ∉ droppedKeywords) →
      getDict items "properties" = none → (∀ item ∈ items, Fits .schema item.2) →
      Fits .names (.obj items)
  | literal {v : Json} : Untouched v → Fits .literal v

def cleanWith (f : String → Json → Json) (items : Dict) : Dict :=
  (items.filter fun item => item.1 ∉ droppedKeywords).map fun item => (item.1, f item.1 item.2)

theorem cleanWith_cons (f : String → Json → Json) (item : String × Json) (items : Dict) :
    cleanWith f (item :: items) =
      if item.1 ∈ droppedKeywords then cleanWith f items
      else (item.1, f item.1 item.2) :: cleanWith f items := by
  by_cases hkey : item.1 ∈ droppedKeywords
  · simp [cleanWith, hkey]
  · simp [cleanWith, hkey]

theorem strictItems_eq (items : Dict) :
    strictItems items = cleanWith (fun _ => strictSchemaNode) items := by
  induction items with
  | nil => rfl
  | cons item items ih => simp only [strictItems, ih, cleanWith_cons]

theorem meaningItems_eq (items : Dict) :
    meaningItems items = cleanWith (fun key => strictMeaning (position key)) items := by
  induction items with
  | nil => rfl
  | cons item items ih => simp only [meaningItems, ih, cleanWith_cons]

theorem meaningNames_eq (items : Dict) :
    meaningNames items = items.map fun item => (item.1, strictMeaning .schema item.2) := by
  induction items with
  | nil => rfl
  | cons item items ih => simp only [meaningNames, ih, List.map_cons]

theorem strictElems_eq (elems : List Json) : strictElems elems = elems.map strictSchemaNode := by
  induction elems with
  | nil => rfl
  | cons item elems ih => simp only [strictElems, ih, List.map_cons]

theorem meaningElems_eq (elems : List Json) :
    meaningElems elems = elems.map (strictMeaning .schema) := by
  induction elems with
  | nil => rfl
  | cons item elems ih => simp only [meaningElems, ih, List.map_cons]

section Clean

variable {f g : String → Json → Json} {items : Dict}

theorem get?_cleanWith (f : String → Json → Json) (items : Dict) (k : String) :
    (cleanWith f items).get? k =
      if k ∈ droppedKeywords then none else (items.get? k).map (f k) := by
  induction items with
  | nil => simp [cleanWith]
  | cons item items ih =>
    rw [cleanWith_cons, Dict.get?_cons]
    by_cases hk : item.1 = k
    · subst hk
      by_cases hdropped : item.1 ∈ droppedKeywords
      · rw [if_pos hdropped, ih, if_pos hdropped, if_pos hdropped]
      · rw [if_neg hdropped, Dict.get?_cons, if_pos rfl, if_neg hdropped, if_pos rfl,
          Option.map_some]
    · rw [if_neg hk, ← ih]
      split_ifs
      · rfl
      · rw [Dict.get?_cons, if_neg hk]

theorem keys_cleanWith (f : String → Json → Json) (items : Dict) :
    (cleanWith f items).map (·.1) = (items.map (·.1)).filter (· ∉ droppedKeywords) := by
  rw [cleanWith, List.map_map, List.filter_map]
  rfl

theorem nodup_cleanWith (f : String → Json → Json) (h : (items.map (·.1)).Nodup) :
    ((cleanWith f items).map (·.1)).Nodup := by
  rw [keys_cleanWith]
  exact h.filter _

theorem closeObject_of_none {cleaned : Dict} (h : getDict cleaned "properties" = none) :
    closeObject cleaned = cleaned := by
  rw [closeObject, h]

theorem closeObject_of_some {cleaned properties : Dict}
    (h : getDict cleaned "properties" = some properties) :
    closeObject cleaned = (cleaned.assign "additionalProperties" (.bool false)).assign "required"
      (.arr (properties.map fun property => .str property.1)) := by
  rw [closeObject, h]

theorem get?_closeObject (cleaned : Dict) {k : String} (h : k ≠ "additionalProperties")
    (h' : k ≠ "required") : (closeObject cleaned).get? k = cleaned.get? k := by
  cases hproperties : getDict cleaned "properties" with
  | none => rw [closeObject_of_none hproperties]
  | some properties =>
    rw [closeObject_of_some hproperties, Dict.get?_assign, if_neg h'.symm, Dict.get?_assign,
      if_neg h.symm]

theorem getDict_closeObject (cleaned : Dict) :
    getDict (closeObject cleaned) "properties" = getDict cleaned "properties" := by
  rw [getDict, getDict, get?_closeObject cleaned (by decide) (by decide)]

theorem closed_closeObject (cleaned : Dict) : Closed (closeObject cleaned) := by
  intro properties hproperties
  rw [getDict_closeObject] at hproperties
  rw [closeObject_of_some hproperties, Dict.get?_assign, Dict.get?_assign, Dict.get?_assign]
  simp

theorem closeObject_eq_self {cleaned : Dict} (h : Closed cleaned) :
    closeObject cleaned = cleaned := by
  cases hproperties : getDict cleaned "properties" with
  | none => rw [closeObject_of_none hproperties]
  | some properties =>
    obtain ⟨hadditional, hrequired⟩ := h properties hproperties
    rw [closeObject_of_some hproperties, Dict.assign_self hadditional, Dict.assign_self hrequired]

theorem mem_closeObject {cleaned : Dict} {item : String × Json}
    (h : item ∈ closeObject cleaned) :
    item ∈ cleaned ∨ item = ("additionalProperties", .bool false) ∨
      ∃ names : List String, item = ("required", .arr (names.map .str)) := by
  cases hproperties : getDict cleaned "properties" with
  | none =>
    rw [closeObject_of_none hproperties] at h
    exact .inl h
  | some properties =>
    rw [closeObject_of_some hproperties] at h
    rcases Dict.mem_assign h with rfl | h
    · exact .inr (.inr ⟨properties.map (·.1), by rw [List.map_map]; rfl⟩)
    · rcases Dict.mem_assign h with rfl | h
      · exact .inr (.inl rfl)
      · exact .inl h

def KeepsDict (f : Json → Json) : Prop := ∀ v, (dictOrNone (f v)).isSome = (dictOrNone v).isSome

theorem isSome_getDict_cleanWith (hf : KeepsDict (f "properties")) :
    (getDict (cleanWith f items) "properties").isSome = (getDict items "properties").isSome := by
  rw [getDict, getDict, get?_cleanWith, if_neg (by decide)]
  cases items.get? "properties" with
  | none => rfl
  | some v => exact hf v

theorem get?_closeObject_cleanWith (hf : KeepsDict (f "properties")) {k : String}
    (h : ¬Replaced items k) :
    (closeObject (cleanWith f items)).get? k = (cleanWith f items).get? k := by
  by_cases hclosed : (getDict items "properties").isSome
  · have hother : ¬(k = "additionalProperties" ∨ k = "required") := fun hk => h ⟨hclosed, hk⟩
    exact get?_closeObject _ (fun hk => hother (.inl hk)) fun hk => hother (.inr hk)
  · rw [← isSome_getDict_cleanWith hf, Option.not_isSome_iff_eq_none] at hclosed
    rw [closeObject_of_none hclosed]

/-- Two ways of cleaning a node agree when they agree on all that is kept. -/
theorem closeObject_cleanWith_iff (hnodup : (items.map (·.1)).Nodup)
    (hf : KeepsDict (f "properties")) (hg : KeepsDict (g "properties")) :
    closeObject (cleanWith f items) = closeObject (cleanWith g items) ↔
      ∀ item ∈ items, item.1 ∉ droppedKeywords → ¬Replaced items item.1 →
        f item.1 item.2 = g item.1 item.2 := by
  constructor
  · intro heq item hitem hdropped hreplaced
    have hsome := Dict.get?_of_mem hnodup hitem
    have hboth := congrArg (fun d => Dict.get? d item.1) heq
    simp only [get?_closeObject_cleanWith hf hreplaced, get?_closeObject_cleanWith hg hreplaced,
      get?_cleanWith, hdropped, hsome, if_false, Option.map_some, Option.some.injEq] at hboth
    exact hboth
  · intro hagree
    have hget : ∀ k, ¬Replaced items k →
        (cleanWith f items).get? k = (cleanWith g items).get? k := by
      intro k hreplaced
      rw [get?_cleanWith, get?_cleanWith]
      split_ifs with hdropped
      · rfl
      · cases hk : items.get? k with
        | none => rfl
        | some v => exact congrArg some (hagree (k, v) (Dict.mem_of_get? hk) hdropped hreplaced)
    have hkeys : (cleanWith f items).map (·.1) = (cleanWith g items).map (·.1) := by
      rw [keys_cleanWith, keys_cleanWith]
    have hproperties : getDict (cleanWith f items) "properties" =
        getDict (cleanWith g items) "properties" := by
      rw [getDict, getDict, hget]
      rintro ⟨_, hk | hk⟩
      · exact absurd hk (by decide)
      · exact absurd hk (by decide)
    cases hdict : getDict (cleanWith f items) "properties" with
    | none =>
      have hopen : (getDict items "properties").isSome = false := by
        rw [← isSome_getDict_cleanWith hf, hdict]
        rfl
      rw [closeObject_of_none hdict, closeObject_of_none (hproperties ▸ hdict)]
      refine Dict.ext_of_keys hkeys (nodup_cleanWith f hnodup) fun k => hget k ?_
      rintro ⟨hsome, _⟩
      rw [hopen] at hsome
      cases hsome
    | some properties =>
      rw [closeObject_of_some hdict, closeObject_of_some (hproperties ▸ hdict)]
      refine Dict.ext_of_keys ?_ (Dict.nodup_keys_assign
        (Dict.nodup_keys_assign (nodup_cleanWith f hnodup) _ _) _ _) fun k => ?_
      · simp only [Dict.keys_assign, hkeys]
      · simp only [Dict.get?_assign]
        split_ifs with hrequired hadditional
        · rfl
        · rfl
        · refine hget k ?_
          rintro ⟨_, hk | hk⟩
          · exact hadditional hk.symm
          · exact hrequired hk.symm

end Clean

theorem strictSchemaNode_scalar {v : Json} (harr : ∀ elems, v ≠ .arr elems)
    (hobj : ∀ items, v ≠ .obj items) : strictSchemaNode v = v := by
  cases v with
  | arr elems => exact (harr elems rfl).elim
  | obj items => exact (hobj items rfl).elim
  | _ => rfl

theorem strictMeaning_scalar {v : Json} (p : Position) (harr : ∀ elems, v ≠ .arr elems)
    (hobj : ∀ items, v ≠ .obj items) : strictMeaning p v = v := by
  cases v with
  | arr elems => exact (harr elems rfl).elim
  | obj items => exact (hobj items rfl).elim
  | _ => cases p <;> rfl

theorem strictSchemaNode_arr (elems : List Json) :
    strictSchemaNode (.arr elems) = .arr (elems.map strictSchemaNode) := by
  rw [strictSchemaNode, strictElems_eq]

theorem strictSchemaNode_obj (items : Dict) : strictSchemaNode (.obj items) =
    .obj (closeObject (cleanWith (fun _ => strictSchemaNode) items)) := by
  rw [strictSchemaNode, strictItems_eq]

theorem strictMeaning_arr (elems : List Json) : strictMeaning .schema (.arr elems) =
    .arr (elems.map (strictMeaning .schema)) := by
  rw [strictMeaning, meaningElems_eq]

theorem strictMeaning_obj (items : Dict) : strictMeaning .schema (.obj items) =
    .obj (closeObject (cleanWith (fun key => strictMeaning (position key)) items)) := by
  rw [strictMeaning, meaningItems_eq]

theorem strictMeaning_names (items : Dict) : strictMeaning .names (.obj items) =
    .obj (items.map fun item => (item.1, strictMeaning .schema item.2)) := by
  rw [strictMeaning, meaningNames_eq]

@[simp] theorem strictMeaning_literal (v : Json) : strictMeaning .literal v = v := by
  cases v <;> rfl

theorem keepsDict_strictSchemaNode : KeepsDict strictSchemaNode := by
  intro v
  cases v with
  | obj items => rw [strictSchemaNode_obj]; rfl
  | _ => rfl

theorem keepsDict_strictMeaning (p : Position) : KeepsDict (strictMeaning p) := by
  intro v
  cases v with
  | obj items => cases p <;> rfl
  | _ => cases p <;> rfl

/-- Nothing is left to do in the names a node was given. -/
theorem strictSchemaNode_texts (names : List String) :
    strictSchemaNode (.arr (names.map .str)) = .arr (names.map .str) := by
  rw [strictSchemaNode_arr, List.map_map]
  rfl

theorem cleanWith_eq_self {items : Dict} (hkeys : ∀ item ∈ items, item.1 ∉ droppedKeywords)
    (h : ∀ item ∈ items, strictSchemaNode item.2 = item.2) :
    cleanWith (fun _ => strictSchemaNode) items = items := by
  induction items with
  | nil => rfl
  | cons item items ih =>
    rw [cleanWith_cons, if_neg (hkeys item List.mem_cons_self), h item List.mem_cons_self,
      ih (fun i hi => hkeys i (List.mem_cons_of_mem _ hi)) fun i hi =>
        h i (List.mem_cons_of_mem _ hi)]

theorem strictSchemaNode_idempotent (v : Json) :
    strictSchemaNode (strictSchemaNode v) = strictSchemaNode v := by
  induction v using Json.induct with
  | scalar v harr hobj => rw [strictSchemaNode_scalar harr hobj, strictSchemaNode_scalar harr hobj]
  | arr elems ih =>
    rw [strictSchemaNode_arr, strictSchemaNode_arr, List.map_map]
    congr 1
    exact List.map_congr_left ih
  | obj items ih =>
    rw [strictSchemaNode_obj, strictSchemaNode_obj]
    generalize hcleaned : cleanWith (fun _ => strictSchemaNode) items = cleaned
    have hitems : ∀ item ∈ cleaned,
        item.1 ∉ droppedKeywords ∧ strictSchemaNode item.2 = item.2 := by
      intro item hitem
      rw [← hcleaned] at hitem
      obtain ⟨original, horiginal, rfl⟩ := List.mem_map.mp hitem
      obtain ⟨hmem, hdropped⟩ := List.mem_filter.mp horiginal
      exact ⟨of_decide_eq_true hdropped, ih original hmem⟩
    have hclosed : ∀ item ∈ closeObject cleaned,
        item.1 ∉ droppedKeywords ∧ strictSchemaNode item.2 = item.2 := by
      intro item hitem
      rcases mem_closeObject hitem with hitem | rfl | ⟨names, rfl⟩
      · exact hitems item hitem
      · exact ⟨by decide, rfl⟩
      · have hrequired : "required" ∉ droppedKeywords := by decide
        exact ⟨hrequired, strictSchemaNode_texts names⟩
    rw [cleanWith_eq_self (fun item hitem => (hclosed item hitem).1)
      fun item hitem => (hclosed item hitem).2, closeObject_eq_self (closed_closeObject cleaned)]

/-- A literal value stays when none of its dicts looks like a schema. -/
theorem strictSchemaNode_eq_self_iff {v : Json} (hv : Distinct v) :
    strictSchemaNode v = v ↔ Untouched v := by
  induction v using Json.induct with
  | scalar v harr hobj =>
    rw [strictSchemaNode_scalar harr hobj]
    exact ⟨fun _ => .scalar harr hobj, fun _ => rfl⟩
  | arr elems ih =>
    have hdistinct : ∀ v ∈ elems, Distinct v := by
      cases hv with
      | scalar harr _ => exact (harr elems rfl).elim
      | arr h => exact h
    rw [strictSchemaNode_arr, Json.arr.injEq]
    constructor
    · intro heq
      refine .arr fun v hmem => (ih v hmem (hdistinct v hmem)).mp ?_
      have hsame : elems.map strictSchemaNode = elems.map id := by rw [heq, List.map_id]
      exact List.map_inj_left.mp hsame v hmem
    · intro h
      cases h with
      | scalar harr _ => exact (harr elems rfl).elim
      | arr h =>
        refine (List.map_congr_left fun v hmem => ?_).trans (List.map_id elems)
        exact (ih v hmem (hdistinct v hmem)).mpr (h v hmem)
  | obj items ih =>
    obtain ⟨hnodup, hdistinct⟩ : (items.map (·.1)).Nodup ∧ ∀ item ∈ items, Distinct item.2 := by
      cases hv with
      | scalar _ hobj => exact (hobj items rfl).elim
      | obj hnodup h => exact ⟨hnodup, h⟩
    rw [strictSchemaNode_obj, Json.obj.injEq]
    constructor
    · intro heq
      have hclosed : Closed items := heq ▸ closed_closeObject _
      refine .obj ?_ ?_ hclosed
      · intro item hitem hdropped
        have hsome := Dict.get?_of_mem hnodup hitem
        have hnone : (closeObject (cleanWith (fun _ => strictSchemaNode) items)).get? item.1 =
            none := by
          rw [get?_closeObject, get?_cleanWith, if_pos hdropped]
          · rintro hkey
            rw [hkey] at hdropped
            exact absurd hdropped (by decide)
          · rintro hkey
            rw [hkey] at hdropped
            exact absurd hdropped (by decide)
        rw [heq, hsome] at hnone
        cases hnone
      · intro item hitem
        refine (ih item hitem (hdistinct item hitem)).mp ?_
        have hsome := Dict.get?_of_mem hnodup hitem
        by_cases hreplaced : Replaced items item.1
        · -- the node is closed already, so these two values are the ones it is given
          obtain ⟨hdict, hkey⟩ := hreplaced
          obtain ⟨properties, hproperties⟩ := Option.isSome_iff_exists.mp hdict
          obtain ⟨hadditional, hrequired⟩ := hclosed properties hproperties
          rcases hkey with hkey | hkey
          · rw [hkey, hadditional] at hsome
            rw [← Option.some.inj hsome]
            rfl
          · rw [hkey, hrequired] at hsome
            have htexts := strictSchemaNode_texts (properties.map (·.1))
            rw [List.map_map] at htexts
            rw [← Option.some.inj hsome]
            exact htexts
        · have hget := get?_closeObject_cleanWith (f := fun _ => strictSchemaNode)
            keepsDict_strictSchemaNode hreplaced
          rw [heq, get?_cleanWith, hsome] at hget
          split_ifs at hget
          exact (Option.some.inj hget).symm
    · intro h
      cases h with
      | scalar _ hobj => exact (hobj items rfl).elim
      | obj hkeys huntouched hclosed =>
        rw [cleanWith_eq_self hkeys fun item hitem =>
          (ih item hitem (hdistinct item hitem)).mpr (huntouched item hitem),
          closeObject_eq_self hclosed]

theorem get?_map (f : Json → Json) (items : Dict) (k : String) :
    Dict.get? (items.map fun item => (item.1, f item.2)) k = (items.get? k).map f := by
  induction items with
  | nil => rfl
  | cons item items ih =>
    rw [List.map_cons, Dict.get?_cons, Dict.get?_cons, ih]
    split_ifs
    · rfl
    · rfl

/-- A node loses the keyword wherever it stands. -/
theorem get?_dropped (f : String → Json → Json) (items : Dict) {k : String}
    (h : k ∈ droppedKeywords) : (closeObject (cleanWith f items)).get? k = none := by
  have hne : ∀ j, j ∉ droppedKeywords → k ≠ j := by
    rintro j hj rfl
    exact hj h
  rw [get?_closeObject _ (hne _ (by decide)) (hne _ (by decide)), get?_cleanWith, if_pos h]

/-- A map of names is treated like a schema, which goes well when no name is a keyword. -/
theorem strictSchemaNode_names_iff {items : Dict} (hnodup : (items.map (·.1)).Nodup)
    (hvalues : ∀ item ∈ items, ∀ elems, item.2 ≠ .arr elems) :
    strictSchemaNode (.obj items) = strictMeaning .names (.obj items) ↔
      (∀ item ∈ items, item.1 ∉ droppedKeywords) ∧ getDict items "properties" = none ∧
        ∀ item ∈ items, strictSchemaNode item.2 = strictMeaning .schema item.2 := by
  rw [strictSchemaNode_obj, strictMeaning_names, Json.obj.injEq]
  constructor
  · intro heq
    have hget := fun k => congrArg (fun d => Dict.get? d k) heq
    simp only [get?_map] at hget
    have hkeys : ∀ item ∈ items, item.1 ∉ droppedKeywords := by
      intro item hitem hdropped
      have hboth := hget item.1
      rw [get?_dropped _ _ hdropped, Dict.get?_of_mem hnodup hitem] at hboth
      cases hboth
    have hopen : getDict items "properties" = none := by
      rw [← Option.not_isSome_iff_eq_none]
      intro hsome
      rw [← isSome_getDict_cleanWith (f := fun _ => strictSchemaNode)
        keepsDict_strictSchemaNode, ← getDict_closeObject] at hsome
      obtain ⟨properties, hproperties⟩ := Option.isSome_iff_exists.mp hsome
      obtain ⟨_, hrequired⟩ := closed_closeObject _ properties hproperties
      have hboth := hget "required"
      rw [hrequired] at hboth
      obtain ⟨v, hv, hnames⟩ := Option.map_eq_some_iff.mp hboth.symm
      -- the name `required` has a schema, which is no list
      have hlist := hvalues _ (Dict.mem_of_get? hv)
      cases v with
      | arr elems => exact hlist elems rfl
      | obj items => rw [strictMeaning_obj] at hnames; cases hnames
      | _ => cases hnames
    refine ⟨hkeys, hopen, ?_⟩
    intro item hitem
    have hnone : ¬Replaced items item.1 := by
      rintro ⟨hsome, _⟩
      rw [hopen] at hsome
      cases hsome
    have hboth := hget item.1
    rw [get?_closeObject_cleanWith (f := fun _ => strictSchemaNode) keepsDict_strictSchemaNode
      hnone, get?_cleanWith, if_neg (hkeys item hitem), Dict.get?_of_mem hnodup hitem] at hboth
    exact Option.some.inj hboth
  · rintro ⟨hkeys, hopen, hagree⟩
    have hclean : cleanWith (fun _ => strictSchemaNode) items =
        items.map fun item => (item.1, strictMeaning .schema item.2) := by
      have hall : items.filter (fun item => item.1 ∉ droppedKeywords) = items :=
        List.filter_eq_self.mpr fun item hitem => decide_eq_true (hkeys item hitem)
      rw [cleanWith, hall]
      exact List.map_congr_left fun item hitem => by rw [hagree item hitem]
    have hdict : getDict (cleanWith (fun _ => strictSchemaNode) items) "properties" = none := by
      rw [← Option.not_isSome_iff_eq_none,
        isSome_getDict_cleanWith (f := fun _ => strictSchemaNode) keepsDict_strictSchemaNode, hopen]
      nofun
    rw [closeObject_of_none hdict, hclean]

/-- In each position of a schema the code does what the conversion says where the value fits. -/
theorem strictSchemaNode_eq_iff {v : Json} : ∀ {p : Position}, IsSchema p v →
    (strictSchemaNode v = strictMeaning p v ↔ Fits p v) := by
  induction v using Json.induct with
  | scalar v harr hobj =>
    intro p _
    rw [strictSchemaNode_scalar harr hobj, strictMeaning_scalar p harr hobj]
    exact ⟨fun _ => .scalar harr hobj, fun _ => rfl⟩
  | arr elems ih =>
    intro p hp
    cases hp with
    | elems helems =>
      rw [strictSchemaNode_arr, strictMeaning_arr, Json.arr.injEq]
      constructor
      · intro heq
        exact .elems fun v hv => (ih v hv (helems v hv)).mp (List.map_inj_left.mp heq v hv)
      · intro h
        cases h with
        | scalar harr _ => exact (harr elems rfl).elim
        | elems h =>
          exact List.map_congr_left fun v hv => (ih v hv (helems v hv)).mpr (h v hv)
    | literal hdistinct =>
      rw [strictMeaning_literal, strictSchemaNode_eq_self_iff hdistinct]
      constructor
      · exact .literal
      · intro h
        cases h with
        | scalar harr _ => exact (harr elems rfl).elim
        | literal h => exact h
  | obj items ih =>
    intro p hp
    cases hp with
    | node hnodup hitems =>
      rw [strictSchemaNode_obj, strictMeaning_obj, Json.obj.injEq, closeObject_cleanWith_iff
        (f := fun _ => strictSchemaNode) (g := fun key => strictMeaning (position key)) hnodup
        keepsDict_strictSchemaNode (keepsDict_strictMeaning _)]
      constructor
      · intro hagree
        refine .node fun item hitem hdropped hreplaced => ?_
        exact (ih item hitem (hitems item hitem)).mp (hagree item hitem hdropped hreplaced)
      · intro h item hitem hdropped hreplaced
        cases h with
        | scalar _ hobj => exact (hobj items rfl).elim
        | node h =>
          exact (ih item hitem (hitems item hitem)).mpr (h item hitem hdropped hreplaced)
    | names hnodup hvalues hitems =>
      rw [strictSchemaNode_names_iff hnodup hvalues]
      constructor
      · rintro ⟨hkeys, hopen, hagree⟩
        refine .names hkeys hopen fun item hitem => ?_
        exact (ih item hitem (hitems item hitem)).mp (hagree item hitem)
      · intro h
        cases h with
        | scalar _ hobj => exact (hobj items rfl).elim
        | names hkeys hopen h =>
          refine ⟨hkeys, hopen, fun item hitem => ?_⟩
          exact (ih item hitem (hitems item hitem)).mpr (h item hitem)
    | literal hdistinct =>
      rw [strictMeaning_literal, strictSchemaNode_eq_self_iff hdistinct]
      constructor
      · exact .literal
      · intro h
        cases h with
        | scalar _ hobj => exact (hobj items rfl).elim
        | literal h => exact h

/-- The conversion of a node: the dropped keywords are gone, the names of the properties stay and
are all required, nothing else is allowed, and what stands under other keywords is converted. -/
theorem strictMeaning_node (items : Dict) : ∃ converted : Dict,
    strictMeaning .schema (.obj items) = .obj converted ∧
    (∀ k ∈ droppedKeywords, converted.get? k = none) ∧
    (∀ k, k ∉ droppedKeywords → ¬Replaced items k →
      converted.get? k = (items.get? k).map (strictMeaning (position k))) ∧
    ∀ properties, getDict items "properties" = some properties →
      ∃ properties', getDict converted "properties" = some properties' ∧
        properties'.map (·.1) = properties.map (·.1) ∧
        converted.get? "additionalProperties" = some (.bool false) ∧
        converted.get? "required" =
          some (.arr (properties.map fun property => .str property.1)) := by
  have hdict := keepsDict_strictMeaning (position "properties")
  refine ⟨_, strictMeaning_obj items, fun k hk => get?_dropped _ _ hk, ?_, ?_⟩
  · intro k hk hreplaced
    rw [get?_closeObject_cleanWith (f := fun key => strictMeaning (position key)) hdict hreplaced,
      get?_cleanWith, if_neg hk]
  · intro properties hproperties
    obtain ⟨v, hv, hobj⟩ := Option.bind_eq_some_iff.mp hproperties
    obtain rfl : v = .obj properties := by
      cases v with
      | obj d => rw [Option.some.inj hobj]
      | _ => cases hobj
    have hconverted : getDict
        (cleanWith (fun key => strictMeaning (position key)) items) "properties" =
          some (properties.map fun property => (property.1, strictMeaning .schema property.2)) := by
      rw [getDict, get?_cleanWith, if_neg (by decide), hv]
      exact congrArg dictOrNone (strictMeaning_names properties)
    have hkeys : (properties.map fun property =>
        (property.1, strictMeaning .schema property.2)).map (·.1) = properties.map (·.1) := by
      rw [List.map_map]
      rfl
    rw [← getDict_closeObject] at hconverted
    obtain ⟨hadditional, hrequired⟩ := closed_closeObject _ _ hconverted
    refine ⟨_, hconverted, hkeys, hadditional, ?_⟩
    rw [hrequired, List.map_map]
    rfl

/-- The schema is converted, and converting it again changes nothing. -/
def KeepsMeaning (schema : Dict) : Prop :=
  toOpenaiStrictJsonSchema schema = strictMeaning .schema (.obj schema) ∧
  ∀ converted, toOpenaiStrictJsonSchema schema = .obj converted →
    toOpenaiStrictJsonSchema converted = .obj converted

/-- The conversion is idempotent for every schema, and keeps the meaning of those whose names
and literal values are not taken for keywords and schemas. -/
theorem keepsMeaning_iff (schema : Dict) (h : IsSchema .schema (.obj schema)) :
    KeepsMeaning schema ↔ Fits .schema (.obj schema) := by
  have hagain : ∀ converted, toOpenaiStrictJsonSchema schema = .obj converted →
      toOpenaiStrictJsonSchema converted = .obj converted := by
    intro converted hconverted
    have hidempotent := strictSchemaNode_idempotent (.obj schema)
    rw [toOpenaiStrictJsonSchema] at hconverted
    rwa [hconverted] at hidempotent
  rw [KeepsMeaning, toOpenaiStrictJsonSchema, strictSchemaNode_eq_iff h]
  exact ⟨fun hboth => hboth.1, fun hfits => ⟨hfits, hagain⟩⟩

def sampleSchema (name : String) : Dict :=
  [("type", .str "object"),
    ("properties", .obj [(name, .obj [("type", .str "string"), ("default", .str "")])])]

theorem forall_mem_pair {α : Type*} {p : α → Prop} {a b : α} (ha : p a) (hb : p b) :
    ∀ x ∈ [a, b], p x := List.forall_mem_cons.mpr ⟨ha, List.forall_mem_singleton.mpr hb⟩

theorem isSchema_sampleSchema (name : String) :
    IsSchema .schema (.obj (sampleSchema name)) := by
  have htext : ∀ text, IsSchema .literal (.str text) := fun text => .literal (.scalar nofun nofun)
  have hnode : IsSchema .schema (.obj [("type", .str "string"), ("default", .str "")]) :=
    .node (by decide) (forall_mem_pair (htext _) (htext _))
  have hnames : IsSchema .names
      (.obj [(name, .obj [("type", .str "string"), ("default", .str "")])]) := by
    refine .names (by simp) ?_ ?_
    · simp
    · exact fun item hitem => List.mem_singleton.mp hitem ▸ hnode
  exact .node (by simp [sampleSchema]) (forall_mem_pair (htext _) hnames)

theorem keepsMeaning_iff_summary : KeepsMeaning (sampleSchema "summary") := by
  have htext : ∀ p text, Fits p (.str text) := fun p text => .scalar nofun nofun
  have hnode : Fits .schema (.obj [("type", .str "string"), ("default", .str "")]) :=
    .node (forall_mem_pair (fun _ _ => htext _ _) fun _ _ => htext _ _)
  have hnames : Fits .names
      (.obj [("summary", .obj [("type", .str "string"), ("default", .str "")])]) := by
    refine .names (by decide) rfl ?_
    exact fun item hitem => List.mem_singleton.mp hitem ▸ hnode
  exact (keepsMeaning_iff _ (isSchema_sampleSchema "summary")).mpr
    (.node (forall_mem_pair (fun _ _ => htext _ _) fun _ _ => hnames))

theorem not_keepsMeaning_format :
    ¬∀ schema, IsSchema .schema (.obj schema) → KeepsMeaning schema := by
  intro h
  have hformat := (h _ (isSchema_sampleSchema "format")).1
  exact absurd hformat (by decide +kernel)

end Headhunt.Gateways
