import FilterChain.Proofs.Text.Occurrence

/-!
# Delimited texts

Any text is a row of fragments in which a delimiter does not occur, with copies of the delimiter in
front of them, between them and behind them.  Where a delimiter overlaps itself there are several
such rows, and the pieces of a text belong to the one whose copies are the leftmost occurrences.
-/

namespace FilterChain

/-- Fragments, each with a number of copies of a delimiter behind it, and the number of copies in
front of all of them. -/
structure Delimited where
  front : Nat
  runs : List (List Char × Nat)

namespace Delimited

def fragments (row : Delimited) : List (List Char) :=
  row.runs.map Prod.fst

/-- Between any two fragments there is a copy of the delimiter. -/
def Separated (row : Delimited) : Prop :=
  ∀ run ∈ row.runs.dropLast, 1 ≤ run.2

/-- The fragments in order, and none for each copy of the delimiter. -/
def slots (row : Delimited) : List (Option (List Char)) :=
  List.replicate row.front none ++
    row.runs.flatMap fun run => some run.1 :: List.replicate run.2 none

/-- The text that the fragments and the copies make. -/
def text (delimiter : List Char) (row : Delimited) : List Char :=
  row.slots.flatMap fun slot => slot.getD delimiter

def offsetsFrom (delimiter : List Char) (start : Nat) : List (Option (List Char)) → List Nat
  | [] => []
  | none :: slots => start :: offsetsFrom delimiter (start + delimiter.length) slots
  | some fragment :: slots => offsetsFrom delimiter (start + fragment.length) slots

/-- Where the copies of the delimiter stand in the text. -/
def offsets (delimiter : List Char) (row : Delimited) : List Nat :=
  offsetsFrom delimiter 0 row.slots

/-- The row of a text without the delimiter. -/
def whole : List Char → Delimited
  | [] => ⟨0, []⟩
  | c :: text => ⟨0, [(c :: text, 0)]⟩

/-- The row with a piece and a copy of the delimiter in front of it. -/
def behind (row : Delimited) : List Char → Delimited
  | [] => ⟨row.front + 1, row.runs⟩
  | c :: piece => ⟨0, (c :: piece, row.front + 1) :: row.runs⟩

theorem offsetsFrom_eq_map (delimiter : List Char) (start : Nat)
    (slots : List (Option (List Char))) :
    offsetsFrom delimiter start slots = (offsetsFrom delimiter 0 slots).map (start + ·) := by
  induction slots generalizing start with
  | nil => rfl
  | cons slot slots ih =>
      cases slot with
      | none =>
          rw [offsetsFrom, offsetsFrom, ih, ih (0 + delimiter.length)]
          simp [Nat.add_assoc]
      | some fragment =>
          rw [offsetsFrom, offsetsFrom, ih, ih (0 + fragment.length)]
          simp [Nat.add_assoc]

section

variable (delimiter : List Char) (row : Delimited)

@[simp] theorem fragments_whole (text : List Char) :
    (whole text).fragments = [text].filter fun piece => !piece.isEmpty := by
  cases text with
  | nil => rfl
  | cons c text => rfl

@[simp] theorem text_whole (text : List Char) : (whole text).text delimiter = text := by
  cases text with
  | nil => rfl
  | cons c text => simp [whole, Delimited.text, slots]

@[simp] theorem offsets_whole (text : List Char) : (whole text).offsets delimiter = [] := by
  cases text with
  | nil => rfl
  | cons c text => rfl

theorem separated_whole (text : List Char) : (whole text).Separated := by
  cases text with
  | nil => exact List.forall_mem_nil _
  | cons c text => exact List.forall_mem_nil _

theorem slots_behind_nil : (row.behind []).slots = none :: row.slots := rfl

theorem slots_behind_cons (c : Char) (piece : List Char) :
    (row.behind (c :: piece)).slots = some (c :: piece) :: none :: row.slots := by
  simp [behind, slots, List.replicate_succ]

@[simp] theorem fragments_behind (piece : List Char) :
    (row.behind piece).fragments =
      ([piece].filter fun piece => !piece.isEmpty) ++ row.fragments := by
  cases piece with
  | nil => rfl
  | cons c piece => rfl

@[simp] theorem text_behind (piece : List Char) :
    (row.behind piece).text delimiter = piece ++ delimiter ++ row.text delimiter := by
  cases piece with
  | nil => simp [text, slots_behind_nil]
  | cons c piece => simp [text, slots_behind_cons]

@[simp] theorem offsets_behind (piece : List Char) :
    (row.behind piece).offsets delimiter =
      piece.length :: (row.offsets delimiter).map ((piece ++ delimiter).length + ·) := by
  cases piece with
  | nil =>
      rw [offsets, slots_behind_nil, offsetsFrom, offsetsFrom_eq_map, offsets]
      simp
  | cons c piece =>
      rw [offsets, slots_behind_cons, offsetsFrom, offsetsFrom, offsetsFrom_eq_map, offsets]
      simp [Nat.add_right_comm]

theorem Separated.behind {row : Delimited} (hrow : row.Separated) (piece : List Char) :
    (row.behind piece).Separated := by
  cases piece with
  | nil => exact hrow
  | cons c piece =>
      intro run hmem
      -- Only a run that has another one behind it counts.
      cases hruns : row.runs with
      | nil => simp [Delimited.behind, hruns] at hmem
      | cons next more =>
          rw [Delimited.behind, hruns, List.dropLast_cons_cons, ← hruns] at hmem
          rcases List.mem_cons.mp hmem with rfl | hmem
          · exact Nat.le_add_left 1 row.front
          · exact hrow run hmem

end

end Delimited

/-- The pieces between the leftmost occurrences, without the empty ones, are the fragments of a row
that the text is, and the copies of the delimiter in it are these occurrences. -/
theorem Cuts.exists_delimited {delimiter text : List Char} {texts : List (List Char)}
    (hcuts : Cuts delimiter text texts) :
    ∃ row : Delimited,
      row.fragments = texts.filter (fun piece => !piece.isEmpty) ∧ row.Separated ∧
        row.text delimiter = text ∧ Leftmost delimiter text (row.offsets delimiter) := by
  induction hcuts with
  | @last text hnone =>
      refine ⟨.whole text, Delimited.fragments_whole text, Delimited.separated_whole text,
        Delimited.text_whole delimiter text, ?_⟩
      rw [Delimited.offsets_whole]
      exact Leftmost.nil hnone
  | @first before rest more hfirst hrest ih =>
      obtain ⟨row, hfragments, hseparated, htext, hleftmost⟩ := ih
      refine ⟨row.behind before, ?_, hseparated.behind before, ?_, ?_⟩
      · rw [Delimited.fragments_behind, hfragments, ← List.filter_append, List.singleton_append]
      · rw [Delimited.text_behind, htext]
      · rw [Delimited.offsets_behind]
        exact hleftmost.cons hfirst

end FilterChain
