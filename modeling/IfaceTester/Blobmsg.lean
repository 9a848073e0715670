import Mathlib.Data.List.TakeWhile

/-!
# Blobmsg attributes

The configuration arrives and leaves as a blobmsg tree. An attribute has a
name, a type and a value. The values of a table and of an array are attributes
again, and the elements of an array have an empty name.

Only the part of libubox that the configuration code calls is here. The
encoding of one field into bytes is taken to be faithful, so an attribute is
the field itself. Bytes that `blobmsg_check_attr` refuses are the attribute
`invalid`. `blobmsgParse` gives the first field of the wanted name and type.
-/

set_option autoImplicit false

namespace IfaceTester

/-- The types of a blobmsg attribute. -/
inductive BlobmsgType where
  | array
  | table
  | string
  | int64
  | int32
  | int16
  | int8
  | double
deriving DecidableEq

/-- A blobmsg attribute, with the name in front of the value. -/
inductive BlobAttr where
  | invalid
  | array (name : String) (elements : List BlobAttr)
  | table (name : String) (fields : List BlobAttr)
  | string (name value : String)
  | int64 (name : String) (value : UInt64)
  | int32 (name : String) (value : UInt32)
  | int16 (name : String) (value : UInt16)
  | int8 (name : String) (value : UInt8)
  | double (name : String) (bits : UInt64)

mutual

/-- `blob_attr_equal`: the same length and the same bytes. -/
def blobAttrEqual : BlobAttr → BlobAttr → Bool
  | .invalid, .invalid => true
  | .array name elements, .array name' elements' =>
      decide (name = name') && blobAttrsEqual elements elements'
  | .table name fields, .table name' fields' =>
      decide (name = name') && blobAttrsEqual fields fields'
  | .string name value, .string name' value' => decide (name = name') && decide (value = value')
  | .int64 name value, .int64 name' value' => decide (name = name') && decide (value = value')
  | .int32 name value, .int32 name' value' => decide (name = name') && decide (value = value')
  | .int16 name value, .int16 name' value' => decide (name = name') && decide (value = value')
  | .int8 name value, .int8 name' value' => decide (name = name') && decide (value = value')
  | .double name bits, .double name' bits' => decide (name = name') && decide (bits = bits')
  | _, _ => false

/-- The attributes of two payloads, compared one after the other. -/
def blobAttrsEqual : List BlobAttr → List BlobAttr → Bool
  | [], [] => true
  | attr :: attrs, attr' :: attrs' => blobAttrEqual attr attr' && blobAttrsEqual attrs attrs'
  | _, _ => false

end

mutual

theorem eq_of_blobAttrEqual : ∀ {attr attr' : BlobAttr},
    blobAttrEqual attr attr' = true → attr = attr'
  | .invalid, attr', h => by cases attr' <;> simp_all [blobAttrEqual]
  | .array _ elements, attr', h => by
      cases attr' <;> simp only [blobAttrEqual, Bool.and_eq_true, decide_eq_true_eq,
        Bool.false_eq_true] at h
      rw [h.1, eq_of_blobAttrsEqual h.2]
  | .table _ fields, attr', h => by
      cases attr' <;> simp only [blobAttrEqual, Bool.and_eq_true, decide_eq_true_eq,
        Bool.false_eq_true] at h
      rw [h.1, eq_of_blobAttrsEqual h.2]
  | .string _ _, attr', h => by cases attr' <;> simp_all [blobAttrEqual]
  | .int64 _ _, attr', h => by cases attr' <;> simp_all [blobAttrEqual]
  | .int32 _ _, attr', h => by cases attr' <;> simp_all [blobAttrEqual]
  | .int16 _ _, attr', h => by cases attr' <;> simp_all [blobAttrEqual]
  | .int8 _ _, attr', h => by cases attr' <;> simp_all [blobAttrEqual]
  | .double _ _, attr', h => by cases attr' <;> simp_all [blobAttrEqual]

theorem eq_of_blobAttrsEqual : ∀ {attrs attrs' : List BlobAttr},
    blobAttrsEqual attrs attrs' = true → attrs = attrs'
  | [], attrs', h => by cases attrs' <;> simp_all [blobAttrsEqual]
  | attr :: attrs, attrs', h => by
      cases attrs' with
      | nil => simp [blobAttrsEqual] at h
      | cons attr' attrs' =>
          simp only [blobAttrsEqual, Bool.and_eq_true] at h
          rw [eq_of_blobAttrEqual h.1, eq_of_blobAttrsEqual h.2]

end

mutual

theorem blobAttrEqual_refl : ∀ attr : BlobAttr, blobAttrEqual attr attr = true
  | .invalid => by simp [blobAttrEqual]
  | .array _ elements => by simp [blobAttrEqual, blobAttrsEqual_refl elements]
  | .table _ fields => by simp [blobAttrEqual, blobAttrsEqual_refl fields]
  | .string _ _ | .int64 _ _ | .int32 _ _ | .int16 _ _ | .int8 _ _ | .double _ _ => by
      simp [blobAttrEqual]

theorem blobAttrsEqual_refl : ∀ attrs : List BlobAttr, blobAttrsEqual attrs attrs = true
  | [] => by simp [blobAttrsEqual]
  | attr :: attrs => by
      simp [blobAttrsEqual, blobAttrEqual_refl attr, blobAttrsEqual_refl attrs]

end

/-- **The byte comparison is equality.** -/
@[simp] theorem blobAttrEqual_iff (attr attr' : BlobAttr) :
    blobAttrEqual attr attr' = true ↔ attr = attr' :=
  ⟨eq_of_blobAttrEqual, fun same => same ▸ blobAttrEqual_refl attr⟩

instance : DecidableEq BlobAttr := fun attr attr' =>
  decidable_of_iff (blobAttrEqual attr attr' = true) (blobAttrEqual_iff attr attr')

namespace BlobAttr

/-- `blobmsg_type`. An attribute that fails the check has none. -/
def type : BlobAttr → Option BlobmsgType
  | .invalid => none
  | .array _ _ => some .array
  | .table _ _ => some .table
  | .string _ _ => some .string
  | .int64 _ _ => some .int64
  | .int32 _ _ => some .int32
  | .int16 _ _ => some .int16
  | .int8 _ _ => some .int8
  | .double _ _ => some .double

/-- `blobmsg_name`. -/
def name : BlobAttr → String
  | .invalid => ""
  | .array name _ | .table name _ | .string name _ | .int64 name _ | .int32 name _
  | .int16 name _ | .int8 name _ | .double name _ => name

/-- The attributes in `blobmsg_data`, as `blobmsg_for_each_attr` visits them. -/
def data : BlobAttr → List BlobAttr
  | .array _ elements => elements
  | .table _ fields => fields
  | _ => []

/-- `blobmsg_get_string`. -/
def getString : BlobAttr → String
  | .string _ value => value
  | _ => ""

/-- `blobmsg_get_u32`. -/
def getU32 : BlobAttr → UInt32
  | .int32 _ value => value
  | _ => 0

end BlobAttr

/-- `struct blobmsg_policy`: the name and the type of one wanted field. -/
structure BlobmsgPolicy where
  name : String
  type : BlobmsgType

/-- An attribute is what a policy entry asks for. -/
def BlobmsgPolicy.selects (policy : BlobmsgPolicy) (attr : BlobAttr) : Bool :=
  decide (attr.type = some policy.type) && decide (attr.name = policy.name)

/-- `blobmsg_parse`: the status, and for each policy entry the first field it
selects. The fields after one that fails the check are not looked at. -/
def blobmsgParse {ι : Type} (policy : ι → BlobmsgPolicy) (data : List BlobAttr) :
    Int × (ι → Option BlobAttr) :=
  let checked := data.takeWhile fun attr => attr.type.isSome
  let status := if data.isEmpty then -22 else if checked.length < data.length then -1 else 0
  (status, fun i => checked.find? (policy i).selects)

/-- What `blobmsg_parse` puts in the table is what its policy asks for. -/
theorem selects_of_blobmsgParse {ι : Type} {policy : ι → BlobmsgPolicy} {data : List BlobAttr}
    {i : ι} {attr : BlobAttr} (found : (blobmsgParse policy data).2 i = some attr) :
    attr.type = some (policy i).type ∧ attr.name = (policy i).name := by
  have selected := List.find?_some found
  simpa [BlobmsgPolicy.selects] using selected

/-- When every field passes the check, all of them are looked at. -/
theorem blobmsgParse_of_typed {ι : Type} {policy : ι → BlobmsgPolicy} {data : List BlobAttr}
    (nonempty : data ≠ []) (typed : ∀ attr ∈ data, attr.type.isSome = true) :
    blobmsgParse policy data = (0, fun i => data.find? (policy i).selects) := by
  have checked : data.takeWhile (fun attr => attr.type.isSome) = data :=
    List.takeWhile_eq_self_iff.mpr typed
  simp [blobmsgParse, checked, nonempty]

/-- **A message with one field for each of some entries is parsed completely.** The
entries have different names. -/
theorem blobmsgParse_map {ι : Type} {policy : ι → BlobmsgPolicy} {entries : List ι}
    {field : ι → BlobAttr} (nonempty : entries ≠ [])
    (asked : ∀ i ∈ entries, (policy i).selects (field i) = true)
    (distinct : (entries.map fun i => (policy i).name).Nodup) :
    (blobmsgParse policy (entries.map field)).1 = 0 ∧
      ∀ i ∈ entries, (blobmsgParse policy (entries.map field)).2 i = .some (field i) := by
  have typed : ∀ attr ∈ entries.map field, attr.type.isSome = true := by
    intro attr member
    obtain ⟨i, listed, rfl⟩ := List.mem_map.mp member
    have selected := asked i listed
    simp only [BlobmsgPolicy.selects, Bool.and_eq_true, decide_eq_true_eq] at selected
    rw [selected.1]
    rfl
  rw [blobmsgParse_of_typed (by simpa using nonempty) typed]
  refine ⟨rfl, fun i listed => ?_⟩
  dsimp only
  clear nonempty typed
  induction entries with
  | nil => cases listed
  | cons j rest ih =>
      rw [List.map_cons] at distinct ⊢
      obtain ⟨fresh, distinct⟩ := List.nodup_cons.mp distinct
      rcases List.mem_cons.mp listed with rfl | later
      · exact List.find?_cons_of_pos (asked i listed)
      · have other : ¬ (policy i).selects (field j) = true := by
          have named := asked j List.mem_cons_self
          simp only [BlobmsgPolicy.selects, Bool.and_eq_true, decide_eq_true_eq] at named ⊢
          rintro ⟨-, same⟩
          exact fresh (List.mem_map.mpr ⟨i, later, same.symm.trans named.2⟩)
        rw [List.find?_cons_of_neg other]
        exact ih (fun k member => asked k (List.mem_cons_of_mem _ member)) distinct later

/-- `blobmsg_check_array`: how many elements there are, when each has the
type, and a negative value otherwise. -/
def blobmsgCheckArray (attr : BlobAttr) (type : BlobmsgType) : Int :=
  match attr with
  | .array _ elements | .table _ elements =>
      if elements.all fun element => decide (element.type = some type) then elements.length else -1
  | _ => -1

end IfaceTester
