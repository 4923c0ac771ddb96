import Mathlib.Data.List.Perm.Basic
import ProbeCatalog.Proofs.Json.Spelling

/-!
# Written values read back

Both writers spell the value that they are given, with the fields of its objects in the order
of their keys. So the reader gives this value back, from one line as from many.
-/
namespace ProbeCatalog.Json

/-- Fields in the order of their keys. -/
def inOrder {α : Type} (fields : List (Text × α)) : List (Text × α) :=
  fields.mergeSort fun a b => keyLe a.1 b.1

mutual

/-- The value with the fields of every object in the order of their keys. -/
def sorted : Json → Json
  | .null => .null
  | .bool b => .bool b
  | .integer n => .integer n
  | .real spelling => .real spelling
  | .string t => .string t
  | .array items => .array (sortedItems items)
  | .object fields => .object (inOrder (sortedFields fields))

/-- Items, each with its fields in order. -/
def sortedItems : List Json → List Json
  | [] => []
  | v :: vs => sorted v :: sortedItems vs

/-- Fields in their own order, each value with its fields in order. -/
def sortedFields : List (Text × Json) → List (Text × Json)
  | [] => []
  | (key, v) :: fields => (key, sorted v) :: sortedFields fields

end

/-- Values that the writers can write so that they read back. -/
inductive Storable : Json → Prop
  | null : Storable .null
  | bool (b : Bool) : Storable (.bool b)
  | integer (n : Int) (h : n.natAbs < 10 ^ maxDigits) : Storable (.integer n)
  | string (cs : List Char) : Storable (.string (Text.ofChars cs))
  | array {items : List Json} (h : ∀ v ∈ items, Storable v) : Storable (.array items)
  | object {fields : List (Text × Json)} (hkeys : (fields.map (·.1)).Nodup)
      (hscalar : ∀ f ∈ fields, ∃ cs, f.1 = Text.ofChars cs) (h : ∀ f ∈ fields, Storable f.2) :
      Storable (.object fields)

lemma sortedItems_eq_map (items : List Json) : sortedItems items = items.map sorted := by
  induction items with
  | nil => rfl
  | cons v vs ih => rw [sortedItems, ih, List.map_cons]

lemma sortedFields_eq_map (fields : List (Text × Json)) :
    sortedFields fields = fields.map fun f => (f.1, sorted f.2) := by
  induction fields with
  | nil => rfl
  | cons f fields ih => rw [sortedFields, ih, List.map_cons]

lemma compactItems_eq_map (items : List Json) : compactItems items = items.map compact := by
  induction items with
  | nil => rfl
  | cons v vs ih => rw [compactItems, ih, List.map_cons]

lemma compactFields_eq_map (fields : List (Text × Json)) :
    compactFields fields = fields.map fun f => (f.1, compact f.2) := by
  induction fields with
  | nil => rfl
  | cons f fields ih => rw [compactFields, ih, List.map_cons]

lemma prettyItems_eq_map (depth : Nat) (items : List Json) :
    prettyItems depth items = items.map (prettyAt depth) := by
  induction items with
  | nil => rfl
  | cons v vs ih => rw [prettyItems, ih, List.map_cons]

lemma prettyFields_eq_map (depth : Nat) (fields : List (Text × Json)) :
    prettyFields depth fields = fields.map fun f => (f.1, prettyAt depth f.2) := by
  induction fields with
  | nil => rfl
  | cons f fields ih => rw [prettyFields, ih, List.map_cons]

lemma inOrder_perm {α : Type} (fields : List (Text × α)) : (inOrder fields).Perm fields :=
  List.mergeSort_perm _ _

/-- The values of fields do not matter for their order. -/
lemma inOrder_map {α β : Type} (f : α → β) (fields : List (Text × α)) :
    inOrder (fields.map fun a => (a.1, f a.2)) = (inOrder fields).map fun a => (a.1, f a.2) := by
  rw [inOrder, inOrder, List.map_mergeSort]
  intro a _ b _
  rfl

lemma inOrder_eq_nil {α : Type} {fields : List (Text × α)} : inOrder fields = [] ↔ fields = [] := by
  rw [← List.length_eq_zero_iff, (inOrder_perm fields).length_eq, List.length_eq_zero_iff]

lemma nodup_inOrder {α : Type} {fields : List (Text × α)} (h : (fields.map (·.1)).Nodup) :
    ((inOrder fields).map (·.1)).Nodup :=
  ((inOrder_perm fields).map (·.1)).nodup_iff.mpr h

lemma sortFields_map (write : Json → String) (fields : List (Text × Json)) :
    sortFields (fields.map fun f => (f.1, write f.2)) =
      (inOrder fields).map fun f => (f.1, write f.2) :=
  inOrder_map write fields

lemma sorted_object (fields : List (Text × Json)) :
    sorted (.object fields) = .object ((inOrder fields).map fun f => (f.1, sorted f.2)) := by
  rw [sorted, sortedFields_eq_map, inOrder_map]

/-! ### What the writers write -/

/-- Items with commas between them, blanks after each comma and in front of the bracket. -/
lemma spellsItems_join {b b' : List Char} (hb : Blank b) (hb' : Blank b')
    (vs : List (Json × List Char)) (hne : vs ≠ []) (h : ∀ v ∈ vs, Spells v.1 v.2) :
    SpellsItems (vs.map (·.1)) ((',' :: b).intercalate (vs.map (·.2)) ++ (b' ++ [']'])) := by
  induction vs with
  | nil => exact absurd rfl hne
  | cons v vs ih =>
    have hv : Spells v.1 v.2 := h v (by simp)
    cases vs with
    | nil => simpa [List.intercalate] using SpellsItems.last hv hb'
    | cons w vs =>
      have hvs := ih (by simp) fun v hv => h v (List.mem_cons_of_mem _ hv)
      have := SpellsItems.more hv (rfl : Blank []) hb hvs
      simpa [List.intercalate] using this

/-- Fields with commas between them, blanks after each comma and in front of the brace. -/
lemma spellsFields_join {b b' : List Char} (hb : Blank b) (hb' : Blank b')
    (fields : List (Text × Json × List Char)) (hne : fields ≠ [])
    (hscalar : ∀ f ∈ fields, ∃ cs, f.1 = Text.ofChars cs)
    (h : ∀ f ∈ fields, Spells f.2.1 f.2.2) :
    SpellsFields (fields.map fun f => (f.1, f.2.1))
      ((',' :: b).intercalate (fields.map fun f =>
        (writeString f.1).toList ++ (':' :: ' ' :: f.2.2)) ++ (b' ++ ['\x7d'])) := by
  have hblank : Blank [' '] := rfl
  induction fields with
  | nil => exact absurd rfl hne
  | cons f fields ih =>
    obtain ⟨key, v, cs⟩ := f
    obtain ⟨k, rfl⟩ : ∃ k, key = Text.ofChars k := hscalar (key, v, cs) (by simp)
    have hv : Spells v cs := h (Text.ofChars k, v, cs) (by simp)
    cases fields with
    | nil =>
      simpa [List.intercalate] using SpellsFields.last k (rfl : Blank []) hblank hv hb'
    | cons g fields =>
      have hvs := ih (by simp) (fun f hf => hscalar f (by simp [hf])) fun f hf => h f (by simp [hf])
      have := SpellsFields.more k (rfl : Blank []) hblank hv (rfl : Blank []) hb hvs
      simpa [List.intercalate] using this

/-- Written items between brackets, with blanks of one kind after the opening bracket, of one
kind after commas and of one kind before the closing bracket. -/
lemma spells_array {b b' b'' : List Char} (hb : Blank b) (hb' : Blank b') (hb'' : Blank b'')
    {items : List Json} (hne : items ≠ []) {write : Json → String}
    (h : ∀ v ∈ items, Spells (sorted v) (write v).toList) :
    Spells (sorted (.array items))
      ('[' :: (b ++ ((',' :: b').intercalate ((items.map write).map String.toList) ++
        (b'' ++ [']'])))) := by
  have hitems := spellsItems_join hb' hb'' (items.map fun v => (sorted v, (write v).toList))
    (by simpa using hne) (by simpa using h)
  simp only [List.map_map] at hitems ⊢
  rw [sorted, sortedItems_eq_map]
  exact .items hb hitems

/-- Written fields between braces, with blanks as for items. -/
lemma spells_object {b b' b'' : List Char} (hb : Blank b) (hb' : Blank b') (hb'' : Blank b'')
    {fields : List (Text × Json)} (hne : fields ≠ []) (hkeys : (fields.map (·.1)).Nodup)
    (hscalar : ∀ f ∈ fields, ∃ cs, f.1 = Text.ofChars cs) {write : Json → String}
    (h : ∀ f ∈ fields, Spells (sorted f.2) (write f.2).toList) :
    Spells (sorted (.object fields))
      ('\x7b' :: (b ++ ((',' :: b').intercalate
        ((((inOrder fields).map fun f => (f.1, write f.2)).map fun (key, s) =>
          writeString key ++ ": " ++ s).map String.toList) ++ (b'' ++ ['\x7d'])))) := by
  have hmem : ∀ f ∈ inOrder fields, f ∈ fields := fun f hf => (inOrder_perm fields).mem_iff.mp hf
  have hfields := spellsFields_join hb' hb''
    ((inOrder fields).map fun f => (f.1, sorted f.2, (write f.2).toList))
    (by simpa [inOrder_eq_nil] using hne)
    (List.forall_mem_map.mpr fun f hf => hscalar f (hmem f hf))
    (List.forall_mem_map.mpr fun f hf => h f (hmem f hf))
  rw [sorted_object]
  refine .fields hb ?_ ?_
  · simpa [List.map_map, Function.comp_def] using nodup_inOrder hkeys
  · simpa [List.map_map, Function.comp_def] using hfields

lemma sorted_noItems : sorted (.array []) = .array [] := rfl

lemma sorted_noFields : sorted (.object []) = .object [] := by
  rw [sorted_object, inOrder_eq_nil.mpr rfl, List.map_nil]

/-- What `compact` writes spells the value. -/
lemma spells_compact {v : Json} (h : Storable v) : Spells (sorted v) (compact v).toList := by
  induction h with
  | null => exact .null
  | bool b => cases b <;> constructor
  | integer n h => exact .integer n h
  | string cs => exact .string cs
  | @array items _ ih =>
    rw [compact, compactItems_eq_map, String.toList_append, String.toList_append,
      String.toList_intercalate]
    by_cases hne : items = []
    · rw [hne, sorted_noItems]
      exact .noItems (b := []) rfl
    · exact spells_array (rfl : Blank []) (rfl : Blank [' ']) (rfl : Blank []) hne ih
  | @object fields hkeys hscalar _ ih =>
    rw [compact, compactFields_eq_map, sortFields_map, String.toList_append,
      String.toList_append, String.toList_intercalate]
    by_cases hne : fields = []
    · rw [hne, sorted_noFields, inOrder_eq_nil.mpr rfl]
      exact .noFields (b := []) rfl
    · exact spells_object (rfl : Blank []) (rfl : Blank [' ']) (rfl : Blank []) hne hkeys hscalar
        ih

lemma blank_lineBreak (depth : Nat) : Blank (lineBreak depth).toList := by
  simp [Blank, lineBreak, isJsonBlank]

lemma toList_enclose (depth : Nat) (opening closing : String) {items : List String}
    (h : items ≠ []) :
    (enclose depth opening closing items).toList =
      opening.toList ++ ((lineBreak (depth + 1)).toList ++
        ((',' :: (lineBreak (depth + 1)).toList).intercalate (items.map String.toList) ++
          ((lineBreak depth).toList ++ closing.toList))) := by
  simp [enclose, h, String.toList_intercalate]

lemma toList_enclose_nil (depth : Nat) (opening closing : String) :
    (enclose depth opening closing []).toList = opening.toList ++ closing.toList :=
  String.toList_append

/-- What `prettyAt` writes at a depth spells the value. -/
lemma spells_prettyAt {v : Json} (h : Storable v) (depth : Nat) :
    Spells (sorted v) (prettyAt depth v).toList := by
  have hb := blank_lineBreak
  induction h generalizing depth with
  | null => exact .null
  | bool b => cases b <;> constructor
  | integer n h => exact .integer n h
  | string cs => exact .string cs
  | @array items _ ih =>
    rw [prettyAt, prettyItems_eq_map]
    by_cases hne : items = []
    · rw [hne, sorted_noItems, List.map_nil, toList_enclose_nil]
      exact .noItems (b := []) rfl
    · rw [toList_enclose _ _ _ (by simpa using hne)]
      exact spells_array (hb (depth + 1)) (hb (depth + 1)) (hb depth) hne
        fun v hv => ih v hv (depth + 1)
  | @object fields hkeys hscalar _ ih =>
    rw [prettyAt, prettyFields_eq_map, sortFields_map]
    by_cases hne : fields = []
    · rw [hne, sorted_noFields, inOrder_eq_nil.mpr rfl, List.map_nil, List.map_nil,
        toList_enclose_nil]
      exact .noFields (b := []) rfl
    · rw [toList_enclose _ _ _ (by simpa [inOrder_eq_nil] using hne)]
      exact spells_object (hb (depth + 1)) (hb (depth + 1)) (hb depth) hne hkeys hscalar
        fun f hf => ih f hf (depth + 1)

/-- A value written on one line reads back. -/
theorem read_compact {v : Json} (h : Storable v) : read (compact v).toList = .ok (sorted v) := by
  have := read_spells (spells_compact h) (rfl : Blank []) (rfl : Blank [])
  rwa [List.nil_append, List.append_nil] at this

/-- A value written over several lines reads back, with blanks after it. -/
theorem read_pretty_append {v : Json} (h : Storable v) {b : List Char} (hb : Blank b) :
    read ((pretty v).toList ++ b) = .ok (sorted v) := by
  have := read_spells (spells_prettyAt h 0) (rfl : Blank []) hb
  rwa [List.nil_append] at this

theorem read_pretty {v : Json} (h : Storable v) : read (pretty v).toList = .ok (sorted v) := by
  have := read_pretty_append h (rfl : Blank [])
  rwa [List.append_nil] at this

end ProbeCatalog.Json
