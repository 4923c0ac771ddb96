import ProbeCatalog.Proofs.Cache.Calls

/-!
# How a cache fails

A cache that cannot answer reports why as a fault of its own: the file holds something else, the
place of a provider is incomplete, or the record that was asked for is damaged. Three faults are
none of its own and break the caller off. There is no place for the file, which any call meets
first; a line number does not fit into the table; and a record holds a whole number too long to be
read. The last one is in no record that was stored.
-/
namespace ProbeCatalog.Cache

/-- A fault of keeping the table. -/
inductive OfTable : Fault → Prop
  | notTable : OfTable .notTable
  | noFile : OfTable (.row .noFile)
  | noLine : OfTable (.row .noLine)

/-- A fault of the table, or of the form of a record. -/
inductive OfRecord : Fault → Prop
  | table {f : Fault} (h : OfTable f) : OfRecord f
  | format (f : FormatFault) : OfRecord (.record (.format f))

/-- If the call fails, it is with one of the faults. -/
def FailsWith {α : Type} (x : Except Fault α) (faults : Fault → Prop) : Prop :=
  ∀ f, x = .error f → faults f

/-- There is a place for the file and no directory stands there. -/
def Openable (d : Disk) (r : Route) : Prop :=
  ∃ place, d.spot? r = some place ∧ (d.root.at? place).all (!·.isDirectory)

/-- The line number of the submission is known and does not fit. -/
def IsOutOfRange (s : Submission) : Prop :=
  ∃ line, s.line = some line ∧ ¬ (-2 ^ 63 ≤ line ∧ line < 2 ^ 63)

section

variable {d : Disk} {r : Route} {rows : List CacheRow} {α : Type}

lemma failsWith_ok {a : α} {faults : Fault → Prop} : FailsWith (.ok a) faults := nofun

lemma failsWith_error {f : Fault} {faults : Fault → Prop} :
    FailsWith (.error f : Except Fault α) faults ↔ faults f :=
  ⟨fun h => h f rfl, fun h _ heq => by cases heq; exact h⟩

/-! ### Opening -/

/-- A file is no cache, or it holds rows, or there is no place for it. -/
lemma opening (d : Disk) (r : Route) :
    (¬ Openable d r ∧ openTable d r = .error .unopened) ∨
    (Openable d r ∧ openTable d r = .error .notTable) ∨
    (Openable d r ∧ ∃ rows, Holds d r rows) := by
  cases hspot : d.spot? r with
  | none =>
    refine Or.inl ⟨?_, by rw [openTable, hspot]⟩
    rintro ⟨place, hplace, -⟩
    rw [hspot] at hplace
    cases hplace
  | some place =>
    have hopenable : (d.root.at? place).all (!·.isDirectory) ↔ Openable d r := by
      refine ⟨fun h => ⟨place, hspot, h⟩, ?_⟩
      rintro ⟨place', hplace, h⟩
      rw [hspot] at hplace
      cases hplace
      exact h
    cases hentry : d.root.at? place with
    | none => exact Or.inr (Or.inr ⟨hopenable.mp (by rw [hentry]; rfl), _, .absent hspot hentry⟩)
    | some e =>
      cases e with
      | directory entries =>
        refine Or.inl ⟨fun h => ?_, by simp only [openTable, hspot, hentry]; rfl⟩
        have := hopenable.mpr h
        rw [hentry] at this
        cases this
      | table rows =>
        exact Or.inr (Or.inr ⟨hopenable.mp (by rw [hentry]; rfl), rows, .table hspot hentry⟩)
      | file octets =>
        have hplace : Openable d r := hopenable.mp (by rw [hentry]; rfl)
        cases octets with
        | nil => exact Or.inr (Or.inr ⟨hplace, _, .empty hspot hentry⟩)
        | cons b octets =>
          exact Or.inr (Or.inl ⟨hplace, by simp only [openTable, hspot, hentry]; rfl⟩)

lemma holds_unique {rows' : List CacheRow} (h : Holds d r rows) (h' : Holds d r rows') :
    rows = rows' := by
  obtain ⟨place, hopen, -⟩ := h.opened
  obtain ⟨place', hopen', -⟩ := h'.opened
  rw [hopen] at hopen'
  simp only [Except.ok.injEq, Prod.mk.injEq] at hopen'
  exact hopen'.2.2

lemma not_holds_of_error {f : Fault} (h : openTable d r = .error f) : ¬ Holds d r rows := by
  intro hholds
  obtain ⟨place, hopen, -⟩ := hholds.opened
  rw [h] at hopen
  cases hopen

/-! ### Making rows -/

lemma rowOf_eq_lineRange {s : Submission} : rowOf s = .error .lineRange ↔ IsOutOfRange s := by
  obtain ⟨file, line, provider⟩ := s
  cases line with
  | none =>
    refine iff_of_false ?_ (by rintro ⟨_, h, _⟩; cases h)
    cases file <;> simp [rowOf]
  | some line =>
    have hfits : (some line).any (!fits ·) = true ↔ ¬ (-2 ^ 63 ≤ line ∧ line < 2 ^ 63) := by
      rw [Option.any_some, Bool.not_eq_true', ← Bool.not_eq_true, fits_iff]
    rw [rowOf]
    by_cases h : (some line).any (!fits ·) = true
    · rw [if_pos h]
      exact iff_of_true rfl ⟨line, rfl, hfits.mp h⟩
    · rw [if_neg h]
      refine iff_of_false (by cases file <;> simp) ?_
      rintro ⟨line', hline, hrange⟩
      cases hline
      exact h (hfits.mpr hrange)

/-- The first submission that makes no row decides how storing fails. -/
lemma insertAll_eq_error (rows : List CacheRow) {new : List Submission} {f : RowFault} :
    insertAll new rows = .error f ↔ ∃ before s after, new = before ++ s :: after ∧
      (∀ b ∈ before, Storable b) ∧ rowOf s = .error f := by
  have hmade : insertAll new rows = .error f ↔ new.mapM rowOf = .error f := by
    rw [insertAll]
    cases new.mapM rowOf <;> simp [Except.map]
  rw [hmade, mapM_eq_error]
  simp only [succeeds_rowOf]

/-! ### Calls -/

lemma store_failsWith_iff (h : Holds d r rows) (new : List Submission) :
    FailsWith (store d r new).2 OfTable ↔ ¬ ∃ before s after, new = before ++ s :: after ∧
      (∀ b ∈ before, Storable b) ∧ IsOutOfRange s := by
  simp only [← rowOf_eq_lineRange, ← insertAll_eq_error rows]
  rcases perform_store h new with ⟨rows', hinsert, hanswer, -⟩ | ⟨f, hinsert, hanswer, -⟩
  · rw [Answer.stored.inj hanswer, hinsert]
    exact iff_of_true failsWith_ok nofun
  · rw [Answer.stored.inj hanswer, hinsert, failsWith_error]
    cases f with
    | lineRange => exact iff_of_false nofun (by simp)
    | noFile => exact iff_of_true .noFile nofun
    | noLine => exact iff_of_true .noLine nofun

lemma failsWith_lifted {octets : List UInt8} :
    FailsWith (((Record.read octets).map some).mapError .record) OfRecord ↔
      Record.read octets ≠ .error .longNumber := by
  cases hread : Record.read octets with
  | ok p => exact iff_of_true failsWith_ok nofun
  | error f =>
    rw [Except.map, Except.mapError, failsWith_error]
    cases f with
    | format f => exact iff_of_true (.format f) nofun
    | longNumber => exact iff_of_false (by rintro ⟨⟨⟩⟩) (by simp)

lemma load_failsWith_iff (h : Holds d r rows) (key : String) :
    FailsWith (load d r key).2 OfRecord ↔
      ∀ row, find? key rows = some row → Record.read row.payload ≠ .error .longNumber := by
  rw [load_eq h]
  cases hfind : find? key rows with
  | none => exact iff_of_true failsWith_ok nofun
  | some row =>
    dsimp only
    rw [failsWith_lifted]
    simp

/-- A record that was stored holds no number that is too long. -/
lemma IsRowOf.read_ne_longNumber {s : Submission} {row : CacheRow} (h : IsRowOf s row)
    (hscalar : s.provider.IsScalar) : Record.read row.payload ≠ .error .longNumber := by
  rw [h.payload, Record.read_serialize hscalar]
  cases Record.toProvider (Record.ofProvider s.provider).sorted <;> exact nofun

/-- When calls keep to the faults of the cache. There has to be a place for the file. Then listing
does, storing does unless the first submission that makes no row has a line number out of range,
and loading does unless the record holds a number that is too long, which no stored one does. -/
theorem keeps_to_faults (d : Disk) (r : Route) :
    (∀ new, FailsWith (store d r new).2 OfTable ↔ Openable d r ∧ ∀ rows, Holds d r rows →
      ¬ ∃ before s after, new = before ++ s :: after ∧ (∀ b ∈ before, Storable b) ∧
        IsOutOfRange s) ∧
    (FailsWith (list d r).2 OfTable ↔ Openable d r) ∧
    (∀ key, FailsWith (load d r key).2 OfRecord ↔ Openable d r ∧ ∀ rows, Holds d r rows →
      ∀ row, find? key rows = some row → Record.read row.payload ≠ .error .longNumber) ∧
    (∀ rows, Holds d r rows → (∀ row ∈ rows, ∃ s, IsRowOf s row ∧ s.provider.IsScalar) →
      ∀ key, FailsWith (load d r key).2 OfRecord) := by
  rcases opening d r with ⟨hplace, hopen⟩ | ⟨hplace, hopen⟩ | ⟨hplace, rows, hholds⟩
  · have hnone (rows : List CacheRow) : ¬ Holds d r rows := not_holds_of_error hopen
    simp only [store, list, load, hopen, failsWith_error, hplace, false_and, iff_false]
    have htable : ¬ OfTable .unopened := fun h => by cases h
    have hrecord : ¬ OfRecord .unopened := by rintro ⟨⟨⟩⟩
    exact ⟨fun _ => htable, htable, fun _ => hrecord, fun rows h => absurd h (hnone rows)⟩
  · have hnone (rows : List CacheRow) : ¬ Holds d r rows := not_holds_of_error hopen
    simp only [store, list, load, hopen, failsWith_error, hplace, true_and]
    refine ⟨fun _ => iff_of_true .notTable fun rows h => absurd h (hnone rows),
      iff_of_true .notTable trivial,
      fun _ => iff_of_true (.table .notTable) fun rows h => absurd h (hnone rows),
      fun rows h => absurd h (hnone rows)⟩
  · have hunique {p : List CacheRow → Prop} : (∀ rows', Holds d r rows' → p rows') ↔ p rows := by
      refine ⟨fun h => h rows hholds, fun h rows' hholds' => ?_⟩
      rwa [← holds_unique hholds hholds']
    simp only [hunique, hplace, true_and]
    refine ⟨store_failsWith_iff hholds, ?_, load_failsWith_iff hholds, fun hwritten key => ?_⟩
    · rw [Answer.listed.inj (perform_list hholds).2]
      exact iff_of_true failsWith_ok trivial
    · refine (load_failsWith_iff hholds key).mpr fun row hrow => ?_
      obtain ⟨s, hs, hscalar⟩ := hwritten row (List.mem_of_find?_eq_some hrow)
      exact hs.read_ne_longNumber hscalar

end

/-- A place in a directory that does not exist. -/
def lostCache : Route := ⟨.here, ["missing", "cache"]⟩

/-- A provider at a line beyond all numbers that fit. -/
def farAway : Submission := ⟨some "far.py", some (2 ^ 63), Record.clock ""⟩

/-- Both faults are none of the cache's own. -/
theorem keeps_to_faults_astray :
    ¬ FailsWith (list bareDisk lostCache).2 OfTable ∧
      ¬ FailsWith (store bareDisk newCache [farAway]).2 OfTable := by
  refine ⟨fun h => ?_, fun h => ?_⟩
  · obtain ⟨place, hspot, -⟩ := (keeps_to_faults bareDisk lostCache).2.1.mp h
    cases hspot
  · refine (((keeps_to_faults bareDisk newCache).1 [farAway]).mp h).2 [] (.absent rfl rfl) ?_
    exact ⟨[], farAway, [], rfl, nofun, 2 ^ 63, rfl, by decide⟩

end ProbeCatalog.Cache
