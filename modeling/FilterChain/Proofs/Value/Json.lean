import FilterChain.Proofs.Json.Number
import FilterChain.Value.Json

/-!
# Values in JSON and back

What is written of a value is read back as the value itself, but for floats that are not
finite: they become null.  A value that was read holds finite floats only.
-/

namespace FilterChain

/-- Null, false, zero or the empty string. -/
inductive Json.Blank : Json → Prop
  | null : Blank .null
  | boolean : Blank (.boolean false)
  | natural : Blank (.number (.natural 0))
  | float {x : Float} {hfinite : x.isFinite = true} (hzero : (x == 0) = true) :
      Blank (.number (.float x hfinite))
  | string : Blank (.string "")

namespace Value

/-- A float stands somewhere in a value. -/
inductive Holds (x : Float) : Value → Prop
  | float : Holds x (float x)
  | item {items : List Value} {item : Value} (hmem : item ∈ items) (hitem : Holds x item) :
      Holds x (array items)
  | field {fields : List (String × Value)} {entry : String × Value} (hmem : entry ∈ fields)
      (hentry : Holds x entry.2) : Holds x (object fields)

/-- Every float in a value is finite. -/
def FloatsFinite (value : Value) : Prop :=
  ∀ x, value.Holds x → x.isFinite = true

section

variable {items : List Value} {fields : List (String × Value)}

@[simp] theorem floatsFinite_null : null.FloatsFinite := fun _ hholds => nomatch hholds

@[simp] theorem floatsFinite_boolean (b : Bool) : (boolean b).FloatsFinite :=
  fun _ hholds => nomatch hholds

@[simp] theorem floatsFinite_integer (n : Int64) : (integer n).FloatsFinite :=
  fun _ hholds => nomatch hholds

@[simp] theorem floatsFinite_string (text : String) : (string text).FloatsFinite :=
  fun _ hholds => nomatch hholds

@[simp] theorem floatsFinite_float {x : Float} : (float x).FloatsFinite ↔ x.isFinite = true := by
  constructor
  · intro hfinite
    exact hfinite x .float
  · intro hx y hholds
    cases hholds
    exact hx

@[simp] theorem floatsFinite_array :
    (array items).FloatsFinite ↔ ∀ item ∈ items, item.FloatsFinite := by
  constructor
  · intro hfinite item hmem x hholds
    exact hfinite x (.item hmem hholds)
  · intro hitems x hholds
    cases hholds with
    | item hmem hitem => exact hitems _ hmem x hitem

@[simp] theorem floatsFinite_object :
    (object fields).FloatsFinite ↔ ∀ entry ∈ fields, entry.2.FloatsFinite := by
  constructor
  · intro hfinite entry hmem x hholds
    exact hfinite x (.field hmem hholds)
  · intro hfields x hholds
    cases hholds with
    | field hmem hentry => exact hfields _ hmem x hentry

end

/-! ## What is lost -/

mutual

/-- A value with null in place of the floats that are not finite. -/
def finitePart : Value → Value
  | float x => if x.isFinite then float x else null
  | array items => array (finitePartItems items)
  | object fields => object (finitePartFields fields)
  | value => value

def finitePartItems : List Value → List Value
  | [] => []
  | item :: items => finitePart item :: finitePartItems items

def finitePartFields : List (String × Value) → List (String × Value)
  | [] => []
  | (key, value) :: fields => (key, finitePart value) :: finitePartFields fields

end

mutual

/-- Only a value whose floats are finite is left as it is. -/
theorem finitePart_eq_iff (value : Value) : value.finitePart = value ↔ value.FloatsFinite := by
  cases value with
  | float x =>
      rw [finitePart, floatsFinite_float]
      by_cases hfinite : x.isFinite = true
      · simp [hfinite]
      · simp [hfinite]
  | array items =>
      rw [finitePart, array.injEq, finitePartItems_eq_iff items, floatsFinite_array]
  | object fields =>
      rw [finitePart, object.injEq, finitePartFields_eq_iff fields, floatsFinite_object]
  | null => exact iff_of_true rfl floatsFinite_null
  | boolean b => exact iff_of_true rfl (floatsFinite_boolean b)
  | integer n => exact iff_of_true rfl (floatsFinite_integer n)
  | string text => exact iff_of_true rfl (floatsFinite_string text)

theorem finitePartItems_eq_iff (items : List Value) :
    finitePartItems items = items ↔ ∀ item ∈ items, item.FloatsFinite := by
  cases items with
  | nil => simp [finitePartItems]
  | cons item items =>
      rw [finitePartItems, List.cons.injEq, finitePart_eq_iff item, finitePartItems_eq_iff items,
        List.forall_mem_cons]

theorem finitePartFields_eq_iff (fields : List (String × Value)) :
    finitePartFields fields = fields ↔ ∀ entry ∈ fields, entry.2.FloatsFinite := by
  cases fields with
  | nil => simp [finitePartFields]
  | cons entry fields =>
      obtain ⟨key, value⟩ := entry
      rw [finitePartFields, List.cons.injEq, Prod.mk.injEq, finitePart_eq_iff value,
        finitePartFields_eq_iff fields, List.forall_mem_cons]
      simp

end

theorem isFinite_iff (x : Float) : x.isFinite = true ↔ x.isNaN = false ∧ x.isInf = false := by
  change x.toModel.unpack.isFinite = true ↔
    x.toModel.unpack.isNaN = false ∧ x.toModel.unpack.isInf = false
  cases x.toModel.unpack with
  | infinity sign => simp [Float.Model.UnpackedFloat.isFinite, Float.Model.UnpackedFloat.isInf]
  | notANumber => simp [Float.Model.UnpackedFloat.isFinite, Float.Model.UnpackedFloat.isNaN]
  | zero sign =>
      simp [Float.Model.UnpackedFloat.isFinite, Float.Model.UnpackedFloat.isNaN,
        Float.Model.UnpackedFloat.isInf]
  | finite sign mantissa exponent hpos =>
      simp [Float.Model.UnpackedFloat.isFinite, Float.Model.UnpackedFloat.isNaN,
        Float.Model.UnpackedFloat.isInf]

theorem finitePart_float (x : Float) :
    (float x).finitePart = if x.isNaN || x.isInf then null else float x := by
  rw [finitePart]
  by_cases hfinite : x.isFinite = true
  · obtain ⟨hnan, hinf⟩ := (isFinite_iff x).mp hfinite
    rw [if_pos hfinite, hnan, hinf]
    rfl
  · have hlost : (x.isNaN || x.isInf) = true := by
      rw [isFinite_iff, ← Bool.or_eq_false_iff] at hfinite
      exact Bool.eq_true_of_not_eq_false hfinite
    rw [if_neg hfinite, if_pos hlost]

theorem finitePartItems_eq_map (items : List Value) :
    finitePartItems items = items.map finitePart := by
  induction items with
  | nil => rfl
  | cons item items ih => rw [finitePartItems, ih, List.map_cons]

theorem finitePartFields_eq_map (fields : List (String × Value)) :
    finitePartFields fields = fields.map fun (key, value) => (key, value.finitePart) := by
  induction fields with
  | nil => rfl
  | cons field fields ih =>
      obtain ⟨key, value⟩ := field
      rw [finitePartFields, ih, List.map_cons]

/-! ## Writing and reading back -/

section

variable [Json.Numbers]

theorem ofJson_jsonOfFloat (x : Float) :
    ofJson (jsonOfFloat x) = if x.isFinite then float x else null := by
  have hsome := Json.Numbers.isSome_ofFloat? x
  rw [jsonOfFloat]
  cases hnumber : Json.Numbers.ofFloat? x with
  | none =>
      rw [hnumber] at hsome
      rw [← hsome]
      rfl
  | some n =>
      rw [hnumber] at hsome
      rw [← hsome]
      change ofJsonNumber n = float x
      rw [ofJsonNumber, Json.Numbers.toInt64?_of_ofFloat? hnumber,
        Json.Numbers.toFloat_of_ofFloat? hnumber]

mutual

theorem ofJson_toJson (value : Value) : ofJson (toJson value) = value.finitePart := by
  cases value with
  | null => rfl
  | boolean b => rfl
  | integer n =>
      change ofJsonNumber (Json.Numbers.ofInt64 n) = integer n
      rw [ofJsonNumber, Json.Numbers.toInt64?_ofInt64]
  | float x => exact ofJson_jsonOfFloat x
  | string text => rfl
  | array items => exact congrArg array (ofJsonItems_toJsonItems items)
  | object fields => exact congrArg object (ofJsonFields_toJsonFields fields)

theorem ofJsonItems_toJsonItems (items : List Value) :
    ofJsonItems (toJsonItems items) = finitePartItems items := by
  cases items with
  | nil => rfl
  | cons item items =>
      rw [toJsonItems, ofJsonItems, ofJson_toJson item, ofJsonItems_toJsonItems items,
        finitePartItems]

theorem ofJsonFields_toJsonFields (fields : List (String × Value)) :
    ofJsonFields (toJsonFields fields) = finitePartFields fields := by
  cases fields with
  | nil => rfl
  | cons entry fields =>
      obtain ⟨key, value⟩ := entry
      rw [toJsonFields, ofJsonFields, ofJson_toJson value, ofJsonFields_toJsonFields fields,
        finitePartFields]

end

theorem ofJson_toJson_of_floatsFinite {value : Value} (hfinite : value.FloatsFinite) :
    ofJson (toJson value) = value := by
  rw [ofJson_toJson, (finitePart_eq_iff value).mpr hfinite]

theorem find?_toJsonFields (fields : Entries Value) (key : String) :
    Entries.find? (toJsonFields fields) key = (fields.find? key).map toJson := by
  induction fields with
  | nil => rfl
  | cons entry fields ih =>
      rw [toJsonFields, Entries.find?_cons, Entries.find?_cons]
      split
      · rfl
      · exact ih

/-- A value that is written and read back has null in place of its floats that are NaN or infinite,
at any depth, and is otherwise unchanged: whole numbers and finite floats keep their kind, and
items and keys their places. -/
theorem ofJson_toJson_eq_finitePart (value : Value) :
    ofJson (toJson value) = value.finitePart ∧
      (ofJson (toJson value) = value ↔ ∀ x, value.Holds x → x.isNaN = false ∧ x.isInf = false) ∧
      (∀ n, ofJson (toJson (integer n)) = integer n) ∧
      (∀ x, ofJson (toJson (float x)) = if x.isNaN || x.isInf then null else float x) ∧
      (∀ items, ofJson (toJson (array items)) =
        array (items.map fun item => ofJson (toJson item))) ∧
      ∀ fields, ofJson (toJson (object fields)) =
        object (fields.map fun (key, value) => (key, ofJson (toJson value))) := by
  simp only [ofJson_toJson]
  refine ⟨trivial, ?_, fun n => rfl, finitePart_float, ?_, ?_⟩
  · simp only [finitePart_eq_iff, FloatsFinite, isFinite_iff]
  · intro items
    rw [finitePart, finitePartItems_eq_map]
  · intro fields
    rw [finitePart, finitePartFields_eq_map]

end

/-- A whole float is not read back as a whole number, and a zero keeps its sign. -/
example :
    ofJson (toJson (array [float 1.0, float 1e16, float (-0.0), float (0.0 / 0.0),
        object [("big", float (1.0 / 0.0)), ("low", integer Int64.minValue)]])) =
      array [float 1.0, float 1e16, float (-0.0), null,
        object [("big", null), ("low", integer Int64.minValue)]] := by
  rw [ofJson_toJson]
  rfl

/-! ## Documents with numbers of 64 bits -/

theorem jsonOfFloat_of_isFinite {x : Float} (hfinite : x.isFinite = true) :
    jsonOfFloat x = .number (.float x hfinite) := by
  have hnumber : Json.Numbers.ofFloat? x = some (JsonNumber.float x hfinite) := dif_pos hfinite
  rw [jsonOfFloat, hnumber]

theorem isTruthy_eq_false_of_blank {value : Value} (hfinite : value.FloatsFinite)
    (hblank : (toJson value).Blank) : value.isTruthy = false := by
  cases value with
  | null => rfl
  | boolean b =>
      cases hblank
      rfl
  | integer n =>
      change (Json.number (JsonNumber.ofInt64 n)).Blank at hblank
      rw [JsonNumber.ofInt64] at hblank
      split at hblank
      · cases hblank
      · generalize hnatural : n.toUInt64 = natural at hblank
        cases hblank
        have hzero : n = 0 := by simpa using congrArg UInt64.toInt64 hnatural
        rw [hzero]
        rfl
  | float x =>
      have hx : x.isFinite = true := floatsFinite_float.mp hfinite
      rw [toJson, jsonOfFloat_of_isFinite hx] at hblank
      cases hblank with
      | float hzero => simp [isTruthy, isUsefulFloat, hzero]
  | string text =>
      cases hblank
      rfl
  | array items => cases hblank
  | object fields => cases hblank

theorem floatsFinite_ofJsonNumber (n : JsonNumber) : (ofJsonNumber n).FloatsFinite := by
  cases n with
  | natural n =>
      rw [ofJsonNumber]
      split
      · exact floatsFinite_integer _
      · exact floatsFinite_float.mpr (JsonNumber.isFinite_toFloat n)
  | negative n hneg => exact floatsFinite_integer n
  | float x hfinite => exact floatsFinite_float.mpr hfinite

mutual

theorem floatsFinite_ofJson (json : Json) : (ofJson json).FloatsFinite := by
  cases json with
  | null => exact floatsFinite_null
  | boolean b => exact floatsFinite_boolean b
  | number n => exact floatsFinite_ofJsonNumber n
  | string text => exact floatsFinite_string text
  | array items => exact floatsFinite_array.mpr (floatsFinite_ofJsonItems items)
  | object fields => exact floatsFinite_object.mpr (floatsFinite_ofJsonFields fields)

theorem floatsFinite_ofJsonItems (items : List Json) :
    ∀ item ∈ ofJsonItems items, item.FloatsFinite := by
  cases items with
  | nil => exact fun _ hmem => nomatch hmem
  | cons item items =>
      exact List.forall_mem_cons.mpr ⟨floatsFinite_ofJson item, floatsFinite_ofJsonItems items⟩

theorem floatsFinite_ofJsonFields (fields : List (String × Json)) :
    ∀ entry ∈ ofJsonFields fields, entry.2.FloatsFinite := by
  cases fields with
  | nil => exact fun _ hmem => nomatch hmem
  | cons entry fields =>
      exact List.forall_mem_cons.mpr
        ⟨floatsFinite_ofJson entry.2, floatsFinite_ofJsonFields fields⟩

end

end Value

end FilterChain
