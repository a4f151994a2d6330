import Mathlib
import FilterChain.Proofs.Decimal.Digits
import FilterChain.Value.Behaviour

/-!
# Subsets by unbounded arithmetic

The bounds of a range are resolved by numbers of 64 bits.  For a list that fits into memory this
gives the items between two places that are computed without any limit: neither does the upper
bound overflow when it grows by one, nor a bound below zero when the length is added to it.  A
position takes the way through its decimal text.

A range that starts at the front and ends at a place from the end keeps the item there, unless this
is the last item: one place behind it is zero, and zero counts from the front.
-/

namespace FilterChain.Value

/-! ## Items by position -/

/-- The items at the positions that pass a test. -/
def itemsAt (items : List Value) (test : Int → Bool) : List Value :=
  (items.zipIdx.filter fun entry => test entry.2).map Prod.fst

section

variable {items : List Value} {test other : Int → Bool}

theorem itemsAt_congr
    (hsame : ∀ position : Nat, position < items.length → test position = other position) :
    itemsAt items test = itemsAt items other := by
  unfold itemsAt
  congr 1
  apply List.filter_congr
  intro entry hentry
  exact hsame entry.2 (List.snd_lt_of_mem_zipIdx hentry)

theorem itemsAt_eq_nil_iff :
    itemsAt items test = [] ↔ ∀ position : Nat, position < items.length → test position = false := by
  unfold itemsAt
  rw [List.map_eq_nil_iff, List.filter_eq_nil_iff]
  constructor
  · intro hnone position hposition
    have hentry : (items[position], position) ∈ items.zipIdx :=
      List.mk_mem_zipIdx_iff_getElem?.mpr (List.getElem?_eq_getElem hposition)
    exact Bool.eq_false_iff.mpr (hnone _ hentry)
  · intro hnone entry hentry
    exact Bool.eq_false_iff.mp (hnone entry.2 (List.snd_lt_of_mem_zipIdx hentry))

end

/-- Positions between two places lie side by side. -/
theorem itemsAt_between (items : List Value) (first last : Nat) :
    itemsAt items (fun position => first ≤ position ∧ position < last) =
      items.extract first last := by
  let front := items.take first
  let inner := (items.drop first).take (last - first)
  let back := (items.drop first).drop (last - first)
  let inside (entry : Value × Nat) : Bool := (first : Int) ≤ entry.2 ∧ (entry.2 : Int) < last
  have hitems : items = front ++ (inner ++ back) := by
    simp only [front, inner, back, List.take_append_drop]
  have hfront : front.length = min first items.length := List.length_take
  have hinner : inner.length = min (last - first) (items.length - first) := by
    simp only [inner, List.length_take, List.length_drop]
  have hbefore : ∀ entry ∈ front.zipIdx, ¬ inside entry = true := by
    intro entry hentry
    have hlt := List.snd_lt_of_mem_zipIdx hentry
    simp only [inside, decide_eq_true_eq]
    omega
  have hbetween : ∀ entry ∈ inner.zipIdx (0 + front.length), inside entry = true := by
    intro entry hentry
    have hle := List.le_snd_of_mem_zipIdx hentry
    have hlt := List.snd_lt_of_mem_zipIdx hentry
    simp only [inside, decide_eq_true_eq]
    omega
  have hbehind : ∀ entry ∈ back.zipIdx (0 + front.length + inner.length),
      ¬ inside entry = true := by
    intro entry hentry
    have hle := List.le_snd_of_mem_zipIdx hentry
    simp only [inside, decide_eq_true_eq]
    have hlt := List.snd_lt_of_mem_zipIdx hentry
    have hback : back.length = items.length - first - (last - first) := by
      simp only [back, List.length_drop]
    omega
  change (items.zipIdx.filter inside).map Prod.fst = items.extract first last
  rw [hitems, List.zipIdx_append, List.zipIdx_append, List.filter_append, List.filter_append,
    List.filter_eq_nil_iff.mpr hbefore, List.filter_eq_self.mpr hbetween,
    List.filter_eq_nil_iff.mpr hbehind, List.nil_append, List.append_nil, List.zipIdx_map_fst,
    ← hitems]

theorem itemsAt_single (items : List Value) (n : Nat) :
    itemsAt items (fun position => position = n) = items[n]?.toList := by
  have hone : items.extract n (n + 1) = items[n]?.toList := by
    rw [List.extract_eq_take_drop, Nat.add_sub_cancel_left, ← List.head?_drop]
    cases items.drop n with
    | nil => rfl
    | cons item rest => rfl
  rw [← hone, ← itemsAt_between]
  apply itemsAt_congr
  intro position _
  rw [decide_eq_decide]
  omega

/-! ## Machine arithmetic -/

theorem toInt_max (a b : Int64) : (max a b).toInt = max a.toInt b.toInt := by
  change (if a ≤ b then b else a).toInt = max a.toInt b.toInt
  rw [apply_ite Int64.toInt, max_def]
  simp only [Int64.le_iff_toInt_le]

theorem toInt_min (a b : Int64) : (min a b).toInt = min a.toInt b.toInt := by
  change (if a ≤ b then a else b).toInt = min a.toInt b.toInt
  rw [apply_ite Int64.toInt, min_def]
  simp only [Int64.le_iff_toInt_le]

theorem toInt_saturatingSucc (n : Int64) :
    (saturatingSucc n).toInt = min (n.toInt + 1) Int64.maxValue.toInt := by
  have hle := n.toInt_le
  have hlow := n.le_toInt
  unfold saturatingSucc
  split
  · next hmax =>
    subst hmax
    omega
  · next hne =>
    have hlt : n.toInt ≠ Int64.maxValue.toInt := fun heq => hne (Int64.toInt_inj.mp heq)
    rw [Int64.toInt_maxValue] at hle hlt ⊢
    rw [Int64.toInt_add, Int64.toInt_one, Int.bmod_eq_of_le (by omega) (by omega)]
    omega

/-- The place that a bound denotes in a list of some length, whatever their sizes. -/
def place (length bound : Int) : Int :=
  if bound < 0 then max (length + bound) 0 else min bound length

theorem place_of_neg {length bound : Int} (hbound : bound < 0) :
    place length bound = max (length + bound) 0 := if_pos hbound

theorem place_of_nonneg {length bound : Int} (hbound : 0 ≤ bound) :
    place length bound = min bound length := if_neg (by omega)

theorem place_nonneg (length : Nat) (bound : Int) : 0 ≤ place length bound := by
  unfold place
  split
  · omega
  · omega

theorem place_le (length : Nat) (bound : Int) : place length bound ≤ length := by
  unfold place
  split
  · omega
  · omega

section

variable {length : Nat} (hlength : length < 2 ^ 63)
include hlength

theorem toInt_length_add {bound : Int64} (hbound : bound < 0) :
    (Int64.ofNat length + bound).toInt = length + bound.toInt := by
  have hlow := bound.le_toInt
  have hneg : bound.toInt < 0 := Int64.lt_iff_toInt_lt.mp hbound
  rw [Int64.toInt_add, Int64.toInt_ofNat_of_lt hlength]
  exact Int.bmod_eq_of_le (by omega) (by omega)

theorem toInt_resolve (bound : Int64) :
    (resolve (Int64.ofNat length) bound).toInt = place length bound.toInt := by
  have hneg : bound < 0 ↔ bound.toInt < 0 := Int64.lt_iff_toInt_lt
  unfold resolve place
  split
  · next hbound =>
    rw [if_pos (hneg.mp hbound), toInt_max, toInt_length_add hlength hbound, Int64.toInt_zero]
  · next hbound =>
    rw [if_neg (hbound ∘ hneg.mpr), toInt_min, Int64.toInt_ofNat_of_lt hlength]

theorem toNat_resolve (bound : Int64) :
    ((resolve (Int64.ofNat length) bound).toUInt64.toNat : Int) = place length bound.toInt := by
  have hresolve := toInt_resolve hlength bound
  have hplace := place_nonneg length bound.toInt
  have hnonneg : 0 ≤ resolve (Int64.ofNat length) bound := by
    rw [Int64.le_iff_toInt_le, hresolve]
    exact hplace
  rw [Int64.toNat_toUInt64_of_le hnonneg, ← Int64.toNat_toInt, hresolve, Int.toNat_of_nonneg hplace]

/-- Behind the largest number there is no item. -/
theorem place_saturatingSucc (bound : Int64) :
    place length (saturatingSucc bound).toInt = place length (bound.toInt + 1) := by
  have hle := bound.toInt_le
  rw [toInt_saturatingSucc]
  rw [Int64.toInt_maxValue] at hle ⊢
  unfold place
  omega

end

/-! ## What entries pick -/

theorem slice_eq_itemsAt {items : List Value} (hitems : items.length < 2 ^ 63)
    (start stop : Int64) :
    slice items start stop = itemsAt items fun position =>
      place items.length start.toInt ≤ position ∧ position < place items.length stop.toInt := by
  unfold slice
  dsimp only
  split
  · next hempty =>
    rw [Int64.le_iff_toInt_le, toInt_resolve hitems, toInt_resolve hitems] at hempty
    symm
    rw [itemsAt_eq_nil_iff]
    intro position _
    rw [decide_eq_false_iff_not]
    omega
  · rw [← itemsAt_between, toNat_resolve hitems, toNat_resolve hitems]

/-- The decimal text of a number below zero is no position. -/
theorem lookup_array (items : List Value) (n : Int64) :
    (array items).lookup (toString n.toInt) =
      if 0 ≤ n.toInt then items[n.toInt.toNat]? else none := by
  have hlt := n.toInt_lt
  have htext : toString n.toInt = if 0 ≤ n.toInt then n.toInt.toNat.repr
      else "-" ++ (-n.toInt).toNat.repr := Int.repr_eq_if
  change (Decimal.count? (toString n.toInt).toList).bind (fun n => items[n]?) = _
  rw [htext]
  split
  · rw [Nat.toList_repr, Decimal.count?_toDigits (by omega), Option.bind_some]
  · rw [String.toList_append]
    rfl

theorem itemAt_array (items : List Value) (n : Int64) :
    (array items).itemAt n =
      (itemsAt items fun position => position = n.toInt).filter isTruthy := by
  unfold itemAt
  rw [lookup_array, Option.toList_filter]
  congr 1
  split
  · next hnonneg => rw [← itemsAt_single, Int.toNat_of_nonneg hnonneg]
  · next hneg =>
    symm
    rw [Option.toList_none, itemsAt_eq_nil_iff]
    intro position _
    rw [decide_eq_false_iff_not]
    omega

/-- The bound in front of which a range ends. -/
def rangeStop (lo hi : Int) : Int :=
  if 0 ≤ lo then hi + 1 else hi

theorem rangeOf_eq_itemsAt {items : List Value} (hitems : items.length < 2 ^ 63)
    (lo hi : Int64) :
    rangeOf items lo hi = itemsAt items fun position =>
      place items.length lo.toInt ≤ position ∧
        position < place items.length (rangeStop lo.toInt hi.toInt) := by
  have hnonneg : 0 ≤ lo ↔ 0 ≤ lo.toInt := Int64.le_iff_toInt_le
  unfold rangeOf rangeStop
  rw [slice_eq_itemsAt hitems]
  split
  · next hlo => rw [if_pos (hnonneg.mp hlo), place_saturatingSucc hitems]
  · next hlo => rw [if_neg (hlo ∘ hnonneg.mpr)]

/-- The items that an entry picks from an array. -/
def pickedItems (items : List Value) : SubsetEntry → List Value
  | .index n => (itemsAt items fun position => position = n.toInt).filter isTruthy
  | .range lo hi =>
    itemsAt items fun position =>
      place items.length lo.toInt ≤ position ∧
        position < place items.length (rangeStop lo.toInt hi.toInt)

/-- The fields that an entry picks from an object. -/
def pickedFields (fields : List (String × Value)) : SubsetEntry → List Value
  | .index n => ((Entries.find? fields (toString n.toInt)).filter isTruthy).toList
  | .range _ _ => []

def isRange : SubsetEntry → Bool
  | .index _ => false
  | .range _ _ => true

/-- What entries pick from a value, in their order. -/
def picked (value : Value) (entries : List SubsetEntry) : Except FilterError Value :=
  match value with
  | array items => .ok (array (entries.flatMap (pickedItems items)))
  | object fields =>
    if entries.any isRange then .error (.type .rangeOfOther)
    else .ok (array (entries.flatMap (pickedFields fields)))
  | _ => .error (.type .subsetOfOther)

theorem mapM_pick_array {items : List Value} (hitems : items.length < 2 ^ 63)
    (entries : List SubsetEntry) :
    entries.mapM (array items).pick = .ok (entries.map (pickedItems items)) := by
  have hpick : (array items).pick = fun entry => pure (pickedItems items entry) := by
    funext entry
    cases entry with
    | index n => exact congrArg Except.ok (itemAt_array items n)
    | range lo hi => exact congrArg Except.ok (rangeOf_eq_itemsAt hitems lo hi)
  rw [hpick, List.mapM_pure]
  rfl

theorem mapM_pick_object (fields : List (String × Value)) (entries : List SubsetEntry) :
    entries.mapM (object fields).pick =
      if entries.any isRange then .error (.type .rangeOfOther)
      else .ok (entries.map (pickedFields fields)) := by
  induction entries with
  | nil => rfl
  | cons entry entries ih =>
      rw [List.mapM_cons, ih]
      cases entry with
      | index n =>
          have hpick : (object fields).pick (.index n) = .ok (pickedFields fields (.index n)) := rfl
          rw [hpick, List.any_cons, isRange, Bool.false_or]
          cases entries.any isRange with
          | true => rfl
          | false => rfl
      | range lo hi => rfl

/-- A list in memory has fewer than `2 ^ 63` items. -/
def FitsMemory : Value → Prop
  | array items => items.length < 2 ^ 63
  | _ => True

/-- A subset is what its entries pick by unbounded arithmetic: no bound overflows on the way, and
no place lies outside of the array. -/
theorem subset_eq_picked (value : Value) (entries : List SubsetEntry) (hfits : value.FitsMemory) :
    value.subset entries = value.picked entries ∧
      ∀ items, value = array items → ∀ bound : Int64,
        (bound < 0 → (Int64.ofNat items.length + bound).toInt = items.length + bound.toInt) ∧
          0 ≤ (resolve (Int64.ofNat items.length) bound).toInt ∧
          (resolve (Int64.ofNat items.length) bound).toInt ≤ items.length := by
  constructor
  · cases value with
    | array items =>
        rw [subset, mapM_pick_array hfits, picked, List.flatMap_def]
        rfl
    | object fields =>
        rw [subset, mapM_pick_object, picked, List.flatMap_def]
        cases entries.any isRange with
        | true => rfl
        | false => rfl
    | _ => rfl
  · rintro items rfl bound
    rw [toInt_resolve hfits]
    exact ⟨toInt_length_add hfits, place_nonneg _ _, place_le _ _⟩

/-- The extreme numbers as bounds, and positions whose items are not useful. -/
theorem subset_eq_picked_of_extremes :
    (array [integer 0, string "a", null]).FitsMemory ∧
      (array [integer 0, string "a", null]).subset
          [.index 0, .index 1, .index (-9223372036854775808), .index 9223372036854775807,
            .range (-9223372036854775808) 9223372036854775807, .range 1 9223372036854775807,
            .range 9223372036854775807 (-9223372036854775808), .range (-2) (-1)] =
        .ok (array [string "a", integer 0, string "a", null, string "a", null, string "a"]) := by
  have hfits : (array [integer 0, string "a", null]).FitsMemory := (by decide : 3 < 2 ^ 63)
  refine ⟨hfits, ?_⟩
  rw [(subset_eq_picked _ _ hfits).1]
  rfl

/-! ## Ranges up to a place from the end -/

/-- The items from one position up to another that counts from the end, with both of them. -/
def itemsUpTo (items : List Value) (lo hi : Int) : List Value :=
  itemsAt items fun position => lo ≤ position ∧ position ≤ items.length + hi

theorem itemsUpTo_last_eq_nil_iff (items : List Value) {lo : Int} (hlo : 0 ≤ lo) :
    itemsUpTo items lo (-1) = [] ↔ items.length ≤ lo := by
  unfold itemsUpTo
  rw [itemsAt_eq_nil_iff]
  constructor
  · intro hnone
    by_contra hlt
    have hposition := hnone lo.toNat (by omega)
    rw [decide_eq_false_iff_not] at hposition
    omega
  · intro hle position hposition
    rw [decide_eq_false_iff_not]
    omega

theorem subset_range (items : List Value) (lo hi : Int64) :
    (array items).subset [.range lo hi] = .ok (array (rangeOf items lo hi)) := by
  change Except.ok (array [rangeOf items lo hi].flatten) = _
  rw [List.flatten_singleton]

section

variable {items : List Value} (hitems : items.length < 2 ^ 63) {lo hi : Int64}
include hitems

/-- One more than the last place from the end is the first one from the front. -/
theorem rangeOf_last (hlo : 0 ≤ lo) : rangeOf items lo (-1) = [] := by
  have hlow : 0 ≤ lo.toInt := Int64.le_iff_toInt_le.mp hlo
  have hstop : rangeStop lo.toInt (-1 : Int64).toInt = 0 := if_pos hlow
  have hplace : place items.length 0 = min 0 (items.length : Int) := place_of_nonneg le_rfl
  rw [rangeOf_eq_itemsAt hitems, hstop, hplace, itemsAt_eq_nil_iff]
  intro position _
  rw [decide_eq_false_iff_not]
  omega

theorem rangeOf_before_last (hlo : 0 ≤ lo) (hhi : hi < 0) (hne : hi ≠ -1) :
    rangeOf items lo hi = itemsUpTo items lo.toInt hi.toInt := by
  have hlow : 0 ≤ lo.toInt := Int64.le_iff_toInt_le.mp hlo
  have hneg : hi.toInt < 0 := Int64.lt_iff_toInt_lt.mp hhi
  have hlast : hi.toInt ≠ -1 := fun heq => hne (Int64.toInt_inj.mp heq)
  have hstop : rangeStop lo.toInt hi.toInt = hi.toInt + 1 := if_pos hlow
  rw [rangeOf_eq_itemsAt hitems, hstop, place_of_nonneg hlow, place_of_neg (by omega)]
  apply itemsAt_congr
  intro position hposition
  rw [decide_eq_decide]
  omega

/-- A range from the front to a place from the end holds the item at that place, except that nothing
is left of a range up to the last item. -/
theorem subset_range_from_end (hlo : 0 ≤ lo) (hhi : hi < 0) :
    (array items).subset [.range lo hi] =
        .ok (array (if hi = -1 then [] else itemsUpTo items lo.toInt hi.toInt)) ∧
      ((array items).subset [.range lo hi] = .ok (array (itemsUpTo items lo.toInt hi.toInt)) ↔
        hi ≠ -1 ∨ items.length ≤ lo.toInt) := by
  have hlow : 0 ≤ lo.toInt := Int64.le_iff_toInt_le.mp hlo
  rw [subset_range]
  by_cases hlast : hi = -1
  · subst hlast
    have hone : (-1 : Int64).toInt = -1 := rfl
    rw [rangeOf_last hitems hlo, if_pos rfl, hone, ← itemsUpTo_last_eq_nil_iff items hlow]
    refine ⟨rfl, ?_⟩
    constructor
    · intro hnil
      exact .inr (array.inj (Except.ok.inj hnil)).symm
    · rintro (hne | hnil)
      · exact absurd rfl hne
      · rw [hnil]
  · rw [rangeOf_before_last hitems hlo hhi hlast, if_neg hlast]
    exact ⟨rfl, iff_of_true rfl (.inl hlast)⟩

end

/-- All but the last item of three, and a range that starts behind the last one. -/
theorem subset_range_from_end_of_three :
    (array [integer 1, null, integer 3]).subset [.range 0 (-2)] =
        .ok (array [integer 1, null]) ∧
      (array [integer 1, null, integer 3]).subset [.range 3 (-1)] =
        .ok (array (itemsUpTo [integer 1, null, integer 3] 3 (-1))) := by
  have hitems : [integer 1, null, integer 3].length < 2 ^ 63 := by decide
  constructor
  · rw [(subset_range_from_end hitems (by decide) (by decide)).1]
    rfl
  · exact (subset_range_from_end hitems (by decide) (by decide)).2.mpr (.inr (by decide))

/-- The range from the first to the last item is empty. -/
theorem subset_range_to_last :
    (array [integer 1, integer 2, integer 3]).subset [.range 0 (-1)] = .ok (array []) ∧
      itemsUpTo [integer 1, integer 2, integer 3] 0 (-1) = [integer 1, integer 2, integer 3] ∧
      (array [integer 1, integer 2, integer 3]).subset [.range 0 (-1)] ≠
        .ok (array (itemsUpTo [integer 1, integer 2, integer 3] 0 (-1))) := by
  have hempty : (array [integer 1, integer 2, integer 3]).subset [.range 0 (-1)] =
      .ok (array []) := by
    rw [subset_range]
    rfl
  have hwhole : itemsUpTo [integer 1, integer 2, integer 3] 0 (-1) =
      [integer 1, integer 2, integer 3] := rfl
  refine ⟨hempty, hwhole, ?_⟩
  rw [hempty, hwhole]
  simp

end FilterChain.Value
