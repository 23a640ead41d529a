import PpvpnCore.Service.Protocol
import Mathlib.Algebra.Group.Int.Defs
import Mathlib.Data.List.Nodup
import Mathlib.Data.String.Basic

/-!
# JSON values and what is read from them

The part of `serde` and `serde_json` the service protocol rests on: the map of an
object is ordered by its keys, a struct is written field by field in declaration
order, and a derived struct is read from an object (each field at most once, others
ignored) or from an array.

* `Value.Normal`: a value as the program holds it, `Value.Whole`: without floats.
* `Value.read`: what is made of a document read as a value.
* `Value.struct`, `Value.flat`: the fields of a derived struct.
-/

namespace PpvpnCore.Service

abbrev Fields := List (String × Value)

def Fields.get (fields : Fields) (key : String) : Option Value :=
  (fields.find? (·.1 = key)).map (·.2)

@[simp]
theorem Fields.get_nil (key : String) : Fields.get [] key = none := rfl

namespace Value

/-! ## Parts -/

/-- What an array or an object holds. -/
def parts : Value → List Value
  | .array items => items
  | .object fields => fields.map (·.2)
  | _ => []

/-- `p` holds of a value and of everything in it. -/
inductive Every (p : Value → Prop) : Value → Prop
  | mk {v : Value} (here : p v) (parts : ∀ w ∈ v.parts, Every p w) : Every p v

theorem Every.here {p : Value → Prop} {v : Value} (every : Every p v) : p v := by
  cases every with
  | mk here _ => exact here

theorem Every.part {p : Value → Prop} {v w : Value} (every : Every p v) (inside : w ∈ v.parts) :
    Every p w := by
  cases every with
  | mk _ parts => exact parts w inside

theorem Every.mono {p q : Value → Prop} (weaker : ∀ v, p v → q v) {v : Value} (every : Every p v) :
    Every q v := by
  induction every with
  | mk here _ ih => exact .mk (weaker _ here) ih

/-- An integer the program can hold. -/
def fits : Value → Prop
  | .number (.negInt n) => -2 ^ 63 ≤ n ∧ n < 0
  | _ => True

def isFloat : Value → Bool
  | .number (.float _) => true
  | _ => false

/-- The keys of an object are in order, each once. -/
def ordered : Value → Prop
  | .object fields => fields.Pairwise (·.1 < ·.1)
  | _ => True

/-- What can be written. -/
def Fits : Value → Prop := Every fits

/-- Nothing in it is a float. -/
def Whole : Value → Prop := Every fun v => v.isFloat = false

/-- A value as the program holds it. -/
structure Normal (v : Value) : Prop where
  fits : v.Fits
  ordered : Every Value.ordered v

/-! ## Maps -/

/-- Sets a key of a map; the keys stay in order. -/
def put (key : String) (value : Value) : Fields → Fields
  | [] => [(key, value)]
  | field :: rest =>
    if key < field.1 then (key, value) :: field :: rest
    else if key = field.1 then (key, value) :: rest
    else field :: put key value rest

/-- The map of an object written field by field: the last of a key counts. -/
def toMap (fields : Fields) : Fields := fields.foldl (fun map field => put field.1 field.2 map) []

@[simp]
theorem get_put (map : Fields) (key other : String) (value : Value) :
    Fields.get (put key value map) other
      = if other = key then some value else Fields.get map other := by
  induction map with
  | nil => by_cases same : other = key <;> simp [put, Fields.get, same, eq_comm]
  | cons field rest ih =>
    rw [put]
    by_cases first : key < field.1
    · rw [if_pos first]
      by_cases same : other = key <;> simp [Fields.get, same, eq_comm]
    · rw [if_neg first]
      by_cases here : key = field.1
      · rw [if_pos here]
        by_cases same : other = key
        · simp [Fields.get, same]
        · have apart : field.1 ≠ other := fun h => same (h.symm.trans here.symm)
          have apart' : key ≠ other := fun h => same h.symm
          simp [Fields.get, same, apart, apart']
      · rw [if_neg here]
        by_cases found : field.1 = other
        · have apart : other ≠ key := fun h => here (h.symm.trans found.symm)
          simp [Fields.get, found, apart]
        · have step : ∀ fields : Fields, Fields.get (field :: fields) other = Fields.get fields other :=
            fun fields => by simp [Fields.get, found]
          rw [step, step, ih]

theorem mem_put {map : Fields} {key : String} {value : Value} {field : String × Value}
    (inside : field ∈ put key value map) : field = (key, value) ∨ field ∈ map := by
  induction map with
  | nil => simpa [put] using inside
  | cons first rest ih =>
    rw [put] at inside
    split at inside
    · simpa using inside
    · split at inside
      · rcases List.mem_cons.mp inside with same | later
        · exact .inl same
        · exact .inr (List.mem_cons_of_mem _ later)
      · rcases List.mem_cons.mp inside with same | later
        · exact .inr (same ▸ List.mem_cons_self)
        · rcases ih later with new | old
          · exact .inl new
          · exact .inr (List.mem_cons_of_mem _ old)

theorem put_ordered {map : Fields} {key : String} {value : Value}
    (ordered : map.Pairwise (·.1 < ·.1)) : (put key value map).Pairwise (·.1 < ·.1) := by
  induction map with
  | nil => simp [put]
  | cons first rest ih =>
    obtain ⟨before, rest_ordered⟩ := List.pairwise_cons.mp ordered
    rw [put]
    split
    · rename_i less
      refine List.pairwise_cons.mpr ⟨?_, ordered⟩
      intro field inside
      rcases List.mem_cons.mp inside with same | later
      · exact same ▸ less
      · exact less.trans (before field later)
    · rename_i notLess
      split
      · rename_i same
        exact List.pairwise_cons.mpr ⟨fun field inside => same ▸ before field inside, rest_ordered⟩
      · rename_i apart
        refine List.pairwise_cons.mpr ⟨?_, ih rest_ordered⟩
        intro field inside
        rcases mem_put inside with new | old
        · have least : first.1 ≤ key := not_lt.mp notLess
          exact new ▸ lt_of_le_of_ne least (Ne.symm apart)
        · exact before field old

/-- A key beyond all of the map goes last. -/
theorem put_last {map : Fields} {key : String} {value : Value} (beyond : ∀ f ∈ map, f.1 < key) :
    put key value map = map ++ [(key, value)] := by
  induction map with
  | nil => rfl
  | cons first rest ih =>
    have less : first.1 < key := beyond first List.mem_cons_self
    rw [put, if_neg (not_lt.mpr less.le), if_neg (ne_of_gt less),
      ih fun f inside => beyond f (List.mem_cons_of_mem _ inside)]
    rfl

theorem foldl_put_ordered (fields map : Fields) (ordered : map.Pairwise (·.1 < ·.1)) :
    (fields.foldl (fun map field => put field.1 field.2 map) map).Pairwise (·.1 < ·.1) := by
  induction fields generalizing map with
  | nil => exact ordered
  | cons field rest ih => exact ih _ (put_ordered ordered)

theorem toMap_ordered (fields : Fields) : (toMap fields).Pairwise (·.1 < ·.1) :=
  foldl_put_ordered fields [] .nil

theorem mem_foldl_put {fields map : Fields} {field : String × Value}
    (inside : field ∈ fields.foldl (fun map field => put field.1 field.2 map) map) :
    field ∈ fields ∨ field ∈ map := by
  induction fields generalizing map with
  | nil => exact .inr inside
  | cons first rest ih =>
    rcases ih inside with later | here
    · exact .inl (List.mem_cons_of_mem _ later)
    · rcases mem_put here with new | old
      · exact .inl (new ▸ List.mem_cons_self)
      · exact .inr old

theorem mem_toMap {fields : Fields} {field : String × Value} (inside : field ∈ toMap fields) :
    field ∈ fields := by
  rcases mem_foldl_put inside with here | none
  · exact here
  · cases none

theorem foldl_put_eq (fields map : Fields) (ordered : (map ++ fields).Pairwise (·.1 < ·.1)) :
    fields.foldl (fun map field => put field.1 field.2 map) map = map ++ fields := by
  induction fields generalizing map with
  | nil => simp
  | cons field rest ih =>
    have beyond : ∀ f ∈ map, f.1 < field.1 := fun f inside =>
      (List.pairwise_append.mp ordered).2.2 f inside field List.mem_cons_self
    rw [List.foldl_cons, put_last beyond, ih _ (by simpa using ordered)]
    simp

/-- A map is its own. -/
theorem toMap_eq {fields : Fields} (ordered : fields.Pairwise (·.1 < ·.1)) : toMap fields = fields := by
  have eq := foldl_put_eq fields [] (by simpa using ordered)
  simpa [toMap] using eq

/-- A struct turned into a value. -/
def ofStruct (fields : Fields) : Value := .object (toMap fields)

theorem every_ofStruct {p : Value → Prop} {fields : Fields} (here : p (ofStruct fields))
    (parts : ∀ field ∈ fields, Every p field.2) : Every p (ofStruct fields) := by
  refine .mk here ?_
  intro w inside
  obtain ⟨field, member, rfl⟩ := List.mem_map.mp inside
  exact parts field (mem_toMap member)

/-! ## Reading a value -/

mutual

/-- What is made of a document read as a value. -/
def read : Value → Value
  | .array items => .array (readItems items)
  | .object fields => .object (toMap (readFields fields))
  | .null => .null
  | .bool b => .bool b
  | .number n => .number n
  | .string s => .string s

def readItems : List Value → List Value
  | [] => []
  | v :: rest => v.read :: readItems rest

def readFields : List (String × Value) → List (String × Value)
  | [] => []
  | field :: rest => readField field :: readFields rest

def readField : String × Value → String × Value
  | (key, v) => (key, v.read)

end

theorem readItems_eq {items : List Value} (same : ∀ v ∈ items, v.read = v) :
    readItems items = items := by
  induction items with
  | nil => rfl
  | cons v rest ih =>
    rw [readItems, same v List.mem_cons_self, ih fun w inside => same w (List.mem_cons_of_mem _ inside)]

theorem readFields_eq {fields : Fields} (same : ∀ field ∈ fields, field.2.read = field.2) :
    readFields fields = fields := by
  induction fields with
  | nil => rfl
  | cons field rest ih =>
    rw [readFields, readField, same field List.mem_cons_self,
      ih fun w inside => same w (List.mem_cons_of_mem _ inside)]

/-- A value is read as it is. -/
theorem Normal.read {v : Value} (normal : v.Normal) : v.read = v := by
  obtain ⟨-, ordered⟩ := normal
  induction ordered with
  | @mk v here _ ih =>
    cases v with
    | array items =>
      have same : readItems items = items := readItems_eq ih
      rw [Value.read, same]
    | object fields =>
      have same : readFields fields = fields :=
        readFields_eq fun field inside => ih field.2 (List.mem_map_of_mem inside)
      rw [Value.read, same, toMap_eq here]
    | _ => simp only [Value.read]

/-! ## Structs -/

/-- The fields of a struct read from an object with the given keys; other keys are
ignored. -/
def flat (names : List String) : Value → Option Fields
  | .object fields => if ((fields.map (·.1)).filter (· ∈ names)).Nodup then some fields else none
  | _ => none

/-- The fields of a derived struct: also an array is read, in declaration order, of
which the last `spare` fields have defaults. -/
def struct (names : List String) (spare : Nat) : Value → Option Fields
  | .object fields => flat names (.object fields)
  | .array items =>
    if items.length ≤ names.length ∧ names.length ≤ items.length + spare then some (names.zip items)
    else none
  | _ => none

theorem flat_eq {names : List String} {fields : Fields} (once : (fields.map (·.1)).Nodup) :
    flat names (.object fields) = some fields := by
  rw [flat, if_pos (List.Nodup.filter _ once)]

theorem flat_ofStruct (names : List String) (fields : Fields) :
    flat names (ofStruct fields) = some (toMap fields) := by
  refine flat_eq ?_
  have ordered : ((toMap fields).map (·.1)).Pairwise (· < ·) :=
    List.pairwise_map.mpr (toMap_ordered fields)
  exact ordered.imp fun less => ne_of_lt less

theorem struct_ofStruct (names : List String) (spare : Nat) (fields : Fields) :
    struct names spare (ofStruct fields) = some (toMap fields) :=
  flat_ofStruct names fields

/-! ## Fields -/

def asBool : Value → Option Bool
  | .bool b => some b
  | _ => none

def ofI64 (n : Int64) : Value :=
  if 0 ≤ n.toInt then .number (.posInt n.toUInt64) else .number (.negInt n.toInt)

def asI64 : Value → Option Int64
  | .number (.posInt n) => if n.toNat < 2 ^ 63 then some (Int64.ofNat n.toNat) else none
  | .number (.negInt n) => some (Int64.ofInt n)
  | _ => none

def ofU64 (n : UInt64) : Value := .number (.posInt n)

/-- `None` is written as `null`. -/
def ofOption {α : Type} (of : α → Value) : Option α → Value
  | none => .null
  | some a => of a

/-- `null` is read as `None`. -/
def asOption {α : Type} (as : Value → Option α) : Value → Option (Option α)
  | .null => some none
  | v => (as v).map some

def asList {α : Type} (as : Value → Option α) : Value → Option (List α)
  | .array items => items.mapM as
  | _ => none

def ofList {α : Type} (of : α → Value) (items : List α) : Value := .array (items.map of)

@[simp]
theorem asStr_string (s : String) : asStr (.string s) = some s := rfl

@[simp]
theorem asBool_bool (b : Bool) : asBool (.bool b) = some b := rfl

@[simp]
theorem asOption_string (s : String) : asOption asStr (.string s) = some (some s) := rfl

@[simp]
theorem asU64_ofU64 (n : UInt64) : (ofU64 n).asU64 = some n := rfl

@[simp]
theorem asI64_ofI64 (n : Int64) : (ofI64 n).asI64 = some n := by
  rw [ofI64]
  split
  · rename_i positive
    have least : 0 ≤ n := Int64.le_iff_toInt_le.mpr positive
    have same : n.toUInt64.toNat = n.toNatClampNeg := Int64.toNat_toUInt64_of_le least
    have small : n.toNatClampNeg < 2 ^ 63 := by
      have bound := n.toInt_lt
      rw [Int64.toNatClampNeg]
      omega
    rw [asI64, same, if_pos small, Int64.ofNat_toNatClampNeg n least]
  · rw [asI64, Int64.ofInt_toInt]

theorem asList_ofList {α β : Type} {of : α → Value} {as : Value → Option β} {image : α → β}
    (again : ∀ a, as (of a) = some (image a)) (items : List α) :
    (ofList of items).asList as = some (items.map image) := by
  rw [ofList, asList]
  induction items with
  | nil => rfl
  | cons a rest ih => simp [again, ih]

@[simp]
theorem asOption_ofOption_string (text : Option String) :
    (ofOption .string text).asOption asStr = some text := by
  cases text <;> rfl

@[simp]
theorem asOption_ofOption_u64 (n : Option UInt64) : (ofOption ofU64 n).asOption asU64 = some n := by
  cases n <;> rfl

/-! ## Exact values -/

/-- A value the program holds, without floats. -/
structure Exact (v : Value) : Prop extends v.Normal where
  whole : v.Whole

theorem Every.leaf {p : Value → Prop} {v : Value} (here : p v) (none : v.parts = []) : Every p v :=
  .mk here fun w inside => by rw [none] at inside; cases inside

theorem Exact.leaf {v : Value} (fits : v.fits) (float : v.isFloat = false) (ordered : v.ordered)
    (none : v.parts = []) : v.Exact where
  fits := .leaf fits none
  ordered := .leaf ordered none
  whole := .leaf float none

@[simp]
theorem exact_null : Exact .null := .leaf trivial rfl trivial rfl

@[simp]
theorem exact_bool (b : Bool) : Exact (.bool b) := .leaf trivial rfl trivial rfl

@[simp]
theorem exact_string (s : String) : Exact (.string s) := .leaf trivial rfl trivial rfl

@[simp]
theorem exact_ofU64 (n : UInt64) : (ofU64 n).Exact := .leaf trivial rfl trivial rfl

@[simp]
theorem exact_ofI64 (n : Int64) : (ofI64 n).Exact := by
  rw [ofI64]
  split
  · exact .leaf trivial rfl trivial rfl
  · rename_i negative
    exact .leaf ⟨n.le_toInt, by omega⟩ rfl trivial rfl

@[simp]
theorem exact_ofOption {α : Type} {of : α → Value} {a : Option α} (exact : ∀ b, (of b).Exact) :
    (ofOption of a).Exact := by
  cases a with
  | none => exact exact_null
  | some b => exact exact b

theorem exact_array {items : List Value} (parts : ∀ v ∈ items, v.Exact) : Exact (.array items) where
  fits := .mk trivial fun v inside => (parts v inside).fits
  ordered := .mk trivial fun v inside => (parts v inside).ordered
  whole := .mk rfl fun v inside => (parts v inside).whole

@[simp]
theorem exact_ofList {α : Type} {of : α → Value} {items : List α} (exact : ∀ b, (of b).Exact) :
    (ofList of items).Exact := by
  refine exact_array ?_
  intro v inside
  obtain ⟨b, -, rfl⟩ := List.mem_map.mp inside
  exact exact b

theorem exact_ofStruct {fields : Fields} (parts : ∀ field ∈ fields, field.2.Exact) :
    (ofStruct fields).Exact where
  fits := every_ofStruct trivial fun field inside => (parts field inside).fits
  ordered := every_ofStruct (toMap_ordered fields) fun field inside => (parts field inside).ordered
  whole := every_ofStruct rfl fun field inside => (parts field inside).whole

end Value

namespace Fields

def required {α : Type} (fields : Fields) (key : String) (as : Value → Option α) : Option α :=
  (fields.get key).bind as

/-- An absent `Option` is `None`. -/
def optional {α : Type} (fields : Fields) (key : String) (as : Value → Option α) :
    Option (Option α) :=
  match fields.get key with
  | none => some none
  | some v => v.asOption as

def defaulted {α : Type} (fields : Fields) (key : String) (as : Value → Option (List α)) :
    Option (List α) :=
  match fields.get key with
  | none => some []
  | some v => as v

end Fields

/-! ## Text -/

/-- Writing and reading JSON text. A document that is written has its fields in
the order given, and is read in the order found. -/
structure Json where
  toVec : Value → List UInt8
  fromSlice : List UInt8 → Option Value

/-- Everything without floats is read back as it was written, and different
values are written differently. -/
structure Json.Faithful (json : Json) : Prop where
  again : ∀ v : Value, v.Fits → v.Whole → json.fromSlice (json.toVec v) = some v
  apart : ∀ v w : Value, v.Fits → w.Fits → json.toVec v = json.toVec w → v = w

end PpvpnCore.Service
