import FilterChain.Proofs.Value.Json

/-!
# JSON read as values and written back

A document that is read as a value and written again is the document itself, but for whole
numbers beyond the 64-bit signed integers: each of them becomes the float that it was read as,
and is written as a float.  So a document comes back unchanged exactly if it holds no such number.
-/

namespace FilterChain

/-! ## Numbers -/

namespace JsonNumber

/-- A number that a value can hold as it is. -/
def Representable : JsonNumber → Prop
  | natural n => n.toNat < 0x8000000000000000
  | negative _ _ => True
  | float _ _ => True

/-- What is left of a number in a value. -/
def rounded : JsonNumber → JsonNumber
  | natural n =>
    if n.toNat < 0x8000000000000000 then natural n else float n.toFloat (isFinite_toFloat n)
  | n => n

theorem rounded_eq_iff (n : JsonNumber) : n.rounded = n ↔ n.Representable := by
  cases n with
  | natural n =>
      rw [rounded, Representable]
      by_cases hbelow : n.toNat < 0x8000000000000000
      · rw [if_pos hbelow]
        exact ⟨fun _ => hbelow, fun _ => rfl⟩
      · rw [if_neg hbelow]
        constructor
        · intro heq
          cases heq
        · intro habove
          exact absurd habove hbelow
  | negative n hneg => exact ⟨fun _ => trivial, fun _ => rfl⟩
  | float x hfinite => exact ⟨fun _ => trivial, fun _ => rfl⟩

theorem ofInt64_toInt64 {n : UInt64} (hbelow : n.toNat < 0x8000000000000000) :
    ofInt64 n.toInt64 = natural n := by
  have hsigned : n.toInt64 = Int64.ofNat n.toNat := by
    rw [← UInt64.toInt64_ofNat', UInt64.ofNat_toNat]
  have hvalue : n.toInt64.toInt = n.toNat := by
    rw [hsigned, Int64.toInt_ofNat_of_lt hbelow]
  have hnonneg : ¬n.toInt64 < 0 := by
    rw [Int64.lt_iff_toInt_lt, hvalue, Int64.toInt_zero]
    omega
  rw [ofInt64, dif_neg hnonneg, UInt64.toUInt64_toInt64]

end JsonNumber

theorem Value.toJson_ofJsonNumber (n : JsonNumber) :
    toJson (ofJsonNumber n) = .number n.rounded := by
  cases n with
  | natural n =>
      by_cases hbelow : n.toNat < 0x8000000000000000
      · have hint : Json.Numbers.toInt64? (JsonNumber.natural n) = some n.toInt64 := if_pos hbelow
        rw [ofJsonNumber, hint, JsonNumber.rounded, if_pos hbelow]
        exact congrArg Json.number (JsonNumber.ofInt64_toInt64 hbelow)
      · have hnone : Json.Numbers.toInt64? (JsonNumber.natural n) = none := if_neg hbelow
        rw [ofJsonNumber, hnone, JsonNumber.rounded, if_neg hbelow]
        exact jsonOfFloat_of_isFinite (JsonNumber.isFinite_toFloat n)
  | negative n hneg => exact congrArg Json.number (dif_pos hneg)
  | float x hfinite => exact jsonOfFloat_of_isFinite hfinite

/-! ## Documents -/

namespace Json

/-- A number stands somewhere in a document. -/
inductive Holds (n : JsonNumber) : Json → Prop
  | number : Holds n (number n)
  | item {items : List Json} {item : Json} (hmem : item ∈ items) (hitem : Holds n item) :
      Holds n (array items)
  | field {fields : List (String × Json)} {entry : String × Json} (hmem : entry ∈ fields)
      (hentry : Holds n entry.2) : Holds n (object fields)

/-- A document that a value can hold as it is. -/
def Representable (json : Json) : Prop :=
  ∀ n, json.Holds n → n.Representable

mutual

/-- A document with floats in place of the whole numbers that no value can hold. -/
def rounded : Json → Json
  | number n => number n.rounded
  | array items => array (roundedItems items)
  | object fields => object (roundedFields fields)
  | json => json

def roundedItems : List Json → List Json
  | [] => []
  | item :: items => rounded item :: roundedItems items

def roundedFields : List (String × Json) → List (String × Json)
  | [] => []
  | (key, json) :: fields => (key, rounded json) :: roundedFields fields

end

section

variable {items : List Json} {fields : List (String × Json)}

theorem representable_number {n : JsonNumber} : (number n).Representable ↔ n.Representable := by
  constructor
  · intro hjson
    exact hjson n .number
  · intro hn m hholds
    cases hholds
    exact hn

theorem representable_array :
    (array items).Representable ↔ ∀ item ∈ items, item.Representable := by
  constructor
  · intro harray item hmem n hholds
    exact harray n (.item hmem hholds)
  · intro hitems n hholds
    cases hholds with
    | item hmem hitem => exact hitems _ hmem n hitem

theorem representable_object :
    (object fields).Representable ↔ ∀ entry ∈ fields, entry.2.Representable := by
  constructor
  · intro hobject entry hmem n hholds
    exact hobject n (.field hmem hholds)
  · intro hfields n hholds
    cases hholds with
    | field hmem hentry => exact hfields _ hmem n hentry

end

mutual

theorem rounded_eq_iff (json : Json) : json.rounded = json ↔ json.Representable := by
  cases json with
  | null => exact ⟨fun _ _ hholds => (nomatch hholds), fun _ => rfl⟩
  | boolean b => exact ⟨fun _ _ hholds => (nomatch hholds), fun _ => rfl⟩
  | string text => exact ⟨fun _ _ hholds => (nomatch hholds), fun _ => rfl⟩
  | number n => rw [rounded, number.injEq, n.rounded_eq_iff, representable_number]
  | array items => rw [rounded, array.injEq, roundedItems_eq_iff items, representable_array]
  | object fields => rw [rounded, object.injEq, roundedFields_eq_iff fields, representable_object]

theorem roundedItems_eq_iff (items : List Json) :
    roundedItems items = items ↔ ∀ item ∈ items, item.Representable := by
  cases items with
  | nil => simp [roundedItems]
  | cons item items =>
      rw [roundedItems, List.cons.injEq, rounded_eq_iff item, roundedItems_eq_iff items,
        List.forall_mem_cons]

theorem roundedFields_eq_iff (fields : List (String × Json)) :
    roundedFields fields = fields ↔ ∀ entry ∈ fields, entry.2.Representable := by
  cases fields with
  | nil => simp [roundedFields]
  | cons entry fields =>
      obtain ⟨key, json⟩ := entry
      rw [roundedFields, List.cons.injEq, Prod.mk.injEq, rounded_eq_iff json,
        roundedFields_eq_iff fields, List.forall_mem_cons]
      simp

end

end Json

namespace Value

mutual

theorem toJson_ofJson (json : Json) : toJson (ofJson json) = json.rounded := by
  cases json with
  | null => rfl
  | boolean b => rfl
  | number n => exact toJson_ofJsonNumber n
  | string text => rfl
  | array items => exact congrArg Json.array (toJsonItems_ofJsonItems items)
  | object fields => exact congrArg Json.object (toJsonFields_ofJsonFields fields)

theorem toJsonItems_ofJsonItems (items : List Json) :
    toJsonItems (ofJsonItems items) = Json.roundedItems items := by
  cases items with
  | nil => rfl
  | cons item items =>
      rw [ofJsonItems, toJsonItems, toJson_ofJson item, toJsonItems_ofJsonItems items,
        Json.roundedItems]

theorem toJsonFields_ofJsonFields (fields : List (String × Json)) :
    toJsonFields (ofJsonFields fields) = Json.roundedFields fields := by
  cases fields with
  | nil => rfl
  | cons entry fields =>
      obtain ⟨key, json⟩ := entry
      rw [ofJsonFields, toJsonFields, toJson_ofJson json, toJsonFields_ofJsonFields fields,
        Json.roundedFields]

end

/-- A document that is read as a value comes back with floats in place of the whole numbers
beyond the signed ones, and otherwise unchanged; so it comes back unchanged exactly if it holds
none of these. -/
theorem toJson_ofJson_eq_iff (json : Json) :
    toJson (ofJson json) = json.rounded ∧
      (toJson (ofJson json) = json ↔ json.Representable) := by
  refine ⟨toJson_ofJson json, ?_⟩
  rw [toJson_ofJson, Json.rounded_eq_iff]

/-- The largest whole number of a document comes back as the float above it. -/
theorem toJson_ofJson_of_largest :
    toJson (ofJson (.array [.number (.natural 18446744073709551615)])) =
        .array [.number (.float 18446744073709551616.0 rfl)] ∧
      toJson (ofJson (.array [.number (.natural 18446744073709551615)])) ≠
        .array [.number (.natural 18446744073709551615)] := by
  have hback : toJson (ofJson (.array [.number (.natural 18446744073709551615)])) =
      .array [.number (.float 18446744073709551616.0 rfl)] := by
    rw [toJson_ofJson]
    rfl
  refine ⟨hback, ?_⟩
  rw [hback]
  simp

end Value

end FilterChain
