/-!
# Dictionaries in key order

Entries are pairs of a key and a value.  A dictionary keeps them in strictly
increasing key order, so each key occurs once and two dictionaries with the
same entries are equal.
-/

namespace FilterChain

abbrev Entries (α : Type u) := List (String × α)

namespace Entries

variable {α : Type u} {β : Type v}

def find? (entries : Entries α) (key : String) : Option α :=
  List.lookup key entries

/-- Adds a pair in key order, in place of a pair with the same key. -/
def insert (key : String) (value : α) : Entries α → Entries α
  | [] => [(key, value)]
  | (k, v) :: rest =>
    if key < k then (key, value) :: (k, v) :: rest
    else if key = k then (key, value) :: rest
    else (k, v) :: insert key value rest

/-- Drops the pairs of a key. -/
def erase (entries : Entries α) (key : String) : Entries α :=
  entries.filter fun entry => entry.1 ≠ key

/-- Keys stand in strictly increasing order. -/
def Ordered (entries : Entries α) : Prop :=
  entries.Pairwise fun a b => a.1 < b.1

theorem ordered_nil : Ordered ([] : Entries α) := List.Pairwise.nil

theorem mem_insert {entries : Entries α} {key : String} {value : α} {entry : String × α}
    (h : entry ∈ insert key value entries) : entry = (key, value) ∨ entry ∈ entries := by
  induction entries with
  | nil => simpa [insert] using h
  | cons head rest ih =>
    obtain ⟨k, v⟩ := head
    simp only [insert] at h
    split at h
    · simpa using h
    · split at h
      · rcases List.mem_cons.1 h with h | h
        · exact Or.inl h
        · exact Or.inr (List.mem_cons_of_mem _ h)
      · rcases List.mem_cons.1 h with h | h
        · exact Or.inr (h ▸ List.mem_cons_self)
        · exact (ih h).imp_right (List.mem_cons_of_mem _)

theorem Ordered.insert {entries : Entries α} (h : Ordered entries) (key : String) (value : α) :
    Ordered (Entries.insert key value entries) := by
  induction entries with
  | nil => simp [Entries.insert, Ordered]
  | cons head rest ih =>
    obtain ⟨k, v⟩ := head
    obtain ⟨hhead, hrest⟩ := List.pairwise_cons.1 h
    simp only [Entries.insert]
    split
    · next hlt =>
      refine List.pairwise_cons.2 ⟨fun entry hmem => ?_, h⟩
      rcases List.mem_cons.1 hmem with rfl | hmem
      · exact hlt
      · exact String.lt_trans hlt (hhead entry hmem)
    · split
      · next heq => exact List.pairwise_cons.2 ⟨fun entry hmem => heq ▸ hhead entry hmem, hrest⟩
      · next hnlt hne =>
        refine List.pairwise_cons.2 ⟨fun entry hmem => ?_, ih hrest⟩
        rcases mem_insert hmem with rfl | hmem
        · exact Decidable.byContradiction fun hge =>
            hne (String.le_antisymm (String.not_lt.1 hge) (String.not_lt.1 hnlt))
        · exact hhead entry hmem

theorem Ordered.erase {entries : Entries α} (h : Ordered entries) (key : String) :
    Ordered (Entries.erase entries key) :=
  h.filter _

/-! ### What a key finds -/

@[simp] theorem find?_nil (key : String) : find? ([] : Entries α) key = none := rfl

theorem find?_cons (entry : String × α) (rest : Entries α) (key : String) :
    find? (entry :: rest) key = if key = entry.1 then some entry.2 else find? rest key := by
  obtain ⟨k, v⟩ := entry
  by_cases h : key = k
  · simp [find?, h]
  · have hbeq : (key == k) = false := beq_eq_false_iff_ne.2 h
    simp [find?, List.lookup_cons, hbeq, h]

theorem find?_insert (entries : Entries α) (key : String) (value : α) (k : String) :
    find? (insert key value entries) k = if k = key then some value else find? entries k := by
  induction entries with
  | nil => simp [insert, find?_cons]
  | cons entry rest ih =>
    obtain ⟨head, headValue⟩ := entry
    simp only [insert]
    split
    · rw [find?_cons]
    · split
      · next heq =>
        subst heq
        simp only [find?_cons]
        split <;> rfl
      · next hne =>
        simp only [find?_cons, ih]
        by_cases hk : k = head
        · simp [hk, Ne.symm hne]
        · simp [hk]

theorem find?_erase (entries : Entries α) (key k : String) :
    find? (erase entries key) k = if k = key then none else find? entries k := by
  induction entries with
  | nil => simp [erase]
  | cons entry rest ih =>
    have hrest : find? (rest.filter fun entry => entry.1 ≠ key) k =
        if k = key then none else find? rest k := ih
    by_cases hkey : entry.1 = key
    · simp only [erase, List.filter_cons, hkey, ne_eq, not_true_eq_false, decide_false,
        Bool.false_eq_true, if_false, find?_cons]
      rw [hrest]
      by_cases hk : k = key <;> simp [hk]
    · simp only [erase, List.filter_cons, ne_eq, hkey, not_false_eq_true, decide_true, if_true,
        find?_cons]
      rw [hrest]
      by_cases hk : k = entry.1
      · simp [hk, hkey]
      · simp [hk]

theorem find?_eq_none_of_lt {entries : Entries α} {key : String}
    (h : ∀ entry ∈ entries, key < entry.1) : find? entries key = none := by
  induction entries with
  | nil => rfl
  | cons entry rest ih =>
    have hne : key ≠ entry.1 := fun heq =>
      String.lt_irrefl _ (heq ▸ h entry List.mem_cons_self)
    rw [find?_cons, if_neg hne]
    exact ih fun other hmem => h other (List.mem_cons_of_mem _ hmem)

theorem isSome_find? {entries : Entries α} {key : String} :
    (find? entries key).isSome ↔ key ∈ entries.map (·.1) := by
  induction entries with
  | nil => simp
  | cons entry rest ih =>
    rw [find?_cons, List.map_cons, List.mem_cons, ← ih]
    by_cases hk : key = entry.1 <;> simp [hk]

/-- Entries in key order are determined by what the keys find. -/
theorem Ordered.ext {a b : Entries α} (ha : Ordered a) (hb : Ordered b)
    (h : ∀ key, find? a key = find? b key) : a = b := by
  induction a generalizing b with
  | nil =>
    cases b with
    | nil => rfl
    | cons entry rest => simpa [find?_cons] using h entry.1
  | cons entry rest ih =>
    cases b with
    | nil => simpa [find?_cons] using h entry.1
    | cons other others =>
      obtain ⟨hentry, hrest⟩ := List.pairwise_cons.1 ha
      obtain ⟨hother, hothers⟩ := List.pairwise_cons.1 hb
      have hkey : entry.1 = other.1 := by
        refine String.le_antisymm (String.not_lt.1 fun hlt => ?_) (String.not_lt.1 fun hlt => ?_)
        · have hnone : find? (entry :: rest) other.1 = none :=
            find?_eq_none_of_lt fun e hmem => by
              rcases List.mem_cons.1 hmem with rfl | hmem
              · exact hlt
              · exact String.lt_trans hlt (hentry e hmem)
          simp [h, find?_cons] at hnone
        · have hnone : find? (other :: others) entry.1 = none :=
            find?_eq_none_of_lt fun e hmem => by
              rcases List.mem_cons.1 hmem with rfl | hmem
              · exact hlt
              · exact String.lt_trans hlt (hother e hmem)
          simp [← h, find?_cons] at hnone
      have hvalue : entry.2 = other.2 := by
        have := h entry.1
        simpa [find?_cons, hkey] using this
      have hsame : ∀ key, find? rest key = find? others key := by
        intro key
        by_cases hk : key = entry.1
        · rw [hk, find?_eq_none_of_lt hentry, hkey, find?_eq_none_of_lt hother]
        · have := h key
          rwa [find?_cons, find?_cons, if_neg hk, if_neg (hkey ▸ hk)] at this
      rw [ih hrest hothers hsame, Prod.ext hkey hvalue]

end Entries

/-- Entries in strictly increasing key order. -/
structure Dictionary (α : Type u) where
  entries : Entries α
  ordered : entries.Ordered

namespace Dictionary

variable {α : Type u}

def empty : Dictionary α := ⟨[], Entries.ordered_nil⟩

instance : EmptyCollection (Dictionary α) := ⟨empty⟩
instance : Inhabited (Dictionary α) := ⟨empty⟩

def find? (dictionary : Dictionary α) (key : String) : Option α :=
  dictionary.entries.find? key

def contains (dictionary : Dictionary α) (key : String) : Bool :=
  (dictionary.find? key).isSome

def insert (dictionary : Dictionary α) (key : String) (value : α) : Dictionary α :=
  ⟨Entries.insert key value dictionary.entries, dictionary.ordered.insert key value⟩

def erase (dictionary : Dictionary α) (key : String) : Dictionary α :=
  ⟨dictionary.entries.erase key, dictionary.ordered.erase key⟩

def keys (dictionary : Dictionary α) : List String :=
  dictionary.entries.map (·.1)

def size (dictionary : Dictionary α) : Nat :=
  dictionary.entries.length

def isEmpty (dictionary : Dictionary α) : Bool :=
  dictionary.entries.isEmpty

/-- The dictionary of some entries, where a later pair wins over an earlier one of its key. -/
def ofEntries (entries : Entries α) : Dictionary α :=
  entries.foldl (fun dictionary entry => dictionary.insert entry.1 entry.2) empty

@[simp] theorem find?_empty (key : String) : (empty : Dictionary α).find? key = none := rfl

theorem find?_insert (dictionary : Dictionary α) (key : String) (value : α) (k : String) :
    (dictionary.insert key value).find? k = if k = key then some value else dictionary.find? k :=
  Entries.find?_insert dictionary.entries key value k

theorem find?_erase (dictionary : Dictionary α) (key k : String) :
    (dictionary.erase key).find? k = if k = key then none else dictionary.find? k :=
  Entries.find?_erase dictionary.entries key k

theorem mem_keys {dictionary : Dictionary α} {key : String} :
    key ∈ dictionary.keys ↔ (dictionary.find? key).isSome :=
  Entries.isSome_find?.symm

theorem pairwise_keys (dictionary : Dictionary α) : dictionary.keys.Pairwise (· < ·) :=
  List.pairwise_map.2 dictionary.ordered

theorem length_keys (dictionary : Dictionary α) : dictionary.keys.length = dictionary.size :=
  List.length_map _

theorem isEmpty_iff {dictionary : Dictionary α} : dictionary.isEmpty ↔ dictionary.keys = [] := by
  rw [isEmpty, List.isEmpty_iff, keys, List.map_eq_nil_iff]

/-- A dictionary is determined by what its keys find. -/
theorem ext_find? {a b : Dictionary α} (h : ∀ key, a.find? key = b.find? key) : a = b := by
  obtain ⟨entries, hentries⟩ := a
  obtain ⟨others, hothers⟩ := b
  obtain rfl : entries = others := hentries.ext hothers h
  rfl

end Dictionary

end FilterChain
