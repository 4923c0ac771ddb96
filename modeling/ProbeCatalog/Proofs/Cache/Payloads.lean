import ProbeCatalog.Proofs.Cache.Calls

/-!
# Payloads that were altered

The file of a cache may be changed from outside, so that the row of a key holds another payload.
Loading reads the payload and checks that its name and its hash fit its text, but it does not ask
whether they make up the key: it gives whatever well-formed record it finds. A record of another
name is given only if its octets were put into the row from outside.
-/
namespace ProbeCatalog.Cache

/-- The disk after the payload of a key was overwritten. -/
def alter (r : Route) (d : Disk) (key : String) (octets : List UInt8) : Disk :=
  match openTable d r with
  | .error _ => d
  | .ok (d, place, rows) => d.set place (.table (setPayload key octets rows))

/-- What happens to a cache. -/
inductive Event where
  | call (c : Call)
  | alter (key : String) (octets : List UInt8)

/-- The disk after an event. -/
def after (r : Route) (d : Disk) : Event → Disk
  | .call c => (perform r d c).1
  | .alter key octets => alter r d key octets

/-- What an event hands over to be stored. -/
def submitted : Event → List Submission
  | .call (.store submissions) => submissions
  | _ => []

/-- If the payload is the record of a provider, it is one of the name that the row is kept by. -/
def IsOwn (row : CacheRow) : Prop := ∀ p, Record.read row.payload = .ok p → p.uniqueName = row.key

/-- The payload of the row was put there from outside. -/
def IsPut (events : List Event) (row : CacheRow) : Prop := .alter row.key row.payload ∈ events

section

variable {d : Disk} {r : Route} {rows : List CacheRow}

/-! ### Loading -/

/-- The payload of the row decides what is loaded. -/
lemma load_eq_some (h : Holds d r rows) (key : String) (p : Provider) :
    (load d r key).2 = .ok (some p) ↔
      ∃ row, find? key rows = some row ∧ Record.read row.payload = .ok p := by
  rw [load_eq h]
  cases hfind : find? key rows with
  | none => exact iff_of_false nofun (by rintro ⟨_, hrow, _⟩; cases hrow)
  | some row => simp [mapError_eq_ok, map_eq_ok]

lemma key_of_find? {key : String} {row : CacheRow} (h : find? key rows = some row) :
    row.key = key := by
  simpa using List.find?_some h

/-- Only records of the name that was asked for are loaded if and only if the row is own. -/
lemma loads_own_iff (h : Holds d r rows) (key : String) :
    (∀ p, (load d r key).2 = .ok (some p) → p.uniqueName = key) ↔
      ∀ row, find? key rows = some row → IsOwn row := by
  simp only [load_eq_some h key]
  constructor
  · intro hname row hrow p hread
    rw [key_of_find? hrow]
    exact hname p ⟨row, hrow, hread⟩
  · rintro hown p ⟨row, hrow, hread⟩
    rw [← key_of_find? hrow]
    exact hown row hrow p hread

lemma wellFormed_of_read {octets : List UInt8} {p : Provider} (h : Record.read octets = .ok p) :
    p.WellFormed := by
  obtain ⟨v, hv⟩ := Record.read_eq_ok h
  exact Record.wellFormed_of_toProvider hv

/-! ### Altering -/

lemma alter_holds (h : Holds d r rows) (key : String) (octets : List UInt8) :
    Holds (alter r d key octets) r (setPayload key octets rows) := by
  obtain ⟨place, hopen, hholds⟩ := h.opened
  rw [alter, hopen]
  exact (hholds _).1

lemma find?_setPayload (key : String) (octets : List UInt8) (rows : List CacheRow) :
    find? key (setPayload key octets rows) =
      (find? key rows).map fun row => { row with payload := octets } := by
  induction rows with
  | nil => rfl
  | cons row rows ih =>
    rw [find?, find?] at ih ⊢
    rw [setPayload, List.map_cons, ← setPayload]
    by_cases hkey : row.key = key
    · simp only [hkey, if_true, List.find?_cons, decide_true, Option.map_some]
    · simpa only [hkey, if_false, List.find?_cons, decide_false] using ih

/-- Any well-formed record is loaded from the row that its octets were put into. -/
lemma load_alter (h : Holds d r rows) {key : String} (hkey : key ∈ rows.map (·.key)) {q : Provider}
    (hscalar : q.IsScalar) (hwell : q.WellFormed) :
    ∃ q', (load (alter r d key (Record.serialize q)) r key).2 = .ok (some q') ∧
      q'.same q = true := by
  obtain ⟨q', hread, hsame⟩ := Record.exists_read_serialize hscalar hwell
  obtain ⟨row, hrow⟩ : ∃ row, find? key rows = some row := by
    obtain ⟨row, hmem, rfl⟩ := List.mem_map.mp hkey
    exact Option.isSome_iff_exists.mp (List.find?_isSome.mpr ⟨row, hmem, by simp⟩)
  refine ⟨q', (load_eq_some (alter_holds h key _) key q').mpr ?_, hsame⟩
  refine ⟨{ row with payload := Record.serialize q }, ?_, hread⟩
  rw [find?_setPayload, hrow, Option.map_some]

/-! ### What rows hold after any events -/

lemma IsRowOf.isOwn {s : Submission} {row : CacheRow} (h : IsRowOf s row)
    (hscalar : s.provider.IsScalar) : IsOwn row := by
  intro p hp
  rw [h.payload, Record.read_serialize hscalar] at hp
  by_cases hwell : s.provider.WellFormed
  · obtain ⟨c, hc⟩ := Record.toProvider_wellFormed hwell
    rw [hc] at hp
    cases hp
    exact h.key.symm
  · obtain ⟨f, hf⟩ := Record.toProvider_malformed hwell
    rw [hf] at hp
    cases hp

lemma mem_or_mem_of_insert {row x : CacheRow} {rows : List CacheRow} (h : x ∈ insert row rows) :
    x = row ∨ x ∈ rows := by
  induction rows with
  | nil => exact Or.inl (List.mem_singleton.mp h)
  | cons first rows ih =>
    rw [insert] at h
    split at h
    · exact (List.mem_cons.mp h).imp_right (List.mem_cons_of_mem _)
    · rcases List.mem_cons.mp h with rfl | h
      · exact Or.inr List.mem_cons_self
      · exact (ih h).imp_right (List.mem_cons_of_mem _)

/-- A row was there before, or tells of one of the submissions. -/
lemma mem_insertAll {new : List Submission} {rows rows' : List CacheRow} {x : CacheRow}
    (h : insertAll new rows = .ok rows') (hx : x ∈ rows') :
    x ∈ rows ∨ ∃ s ∈ new, IsRowOf s x := by
  obtain ⟨made, hmap, rfl⟩ := map_eq_ok.mp h
  have hmade := mapM_eq_ok.mp hmap
  clear h hmap
  induction hmade generalizing rows with
  | nil => exact Or.inl hx
  | @cons s row new made hrow _ ih =>
    rw [List.foldl_cons] at hx
    rcases ih hx with hx | ⟨s', hs', hof⟩
    · rcases mem_or_mem_of_insert hx with rfl | hx
      · exact Or.inr ⟨s, List.mem_cons_self, (rowOf_eq_ok.mp hrow).2⟩
      · exact Or.inl hx
    · exact Or.inr ⟨s', List.mem_cons_of_mem _ hs', hof⟩

/-- One event leaves each row as it was, or puts an own payload or the one of the event into it. -/
lemma after_holds (h : Holds d r rows) {event : Event}
    (hscalar : ∀ s ∈ submitted event, s.provider.IsScalar) :
    ∃ rows', Holds (after r d event) r rows' ∧
      ∀ row ∈ rows', row ∈ rows ∨ IsOwn row ∨ IsPut [event] row := by
  cases event with
  | call c =>
    cases c with
    | store new =>
      rcases perform_store h new with ⟨rows', hinsert, -, hholds⟩ | ⟨f, -, -, hholds⟩
      · refine ⟨rows', hholds, fun row hrow => (mem_insertAll hinsert hrow).imp_right ?_⟩
        rintro ⟨s, hs, hof⟩
        exact Or.inl (hof.isOwn (hscalar s hs))
      · exact ⟨rows, hholds, fun row hrow => Or.inl hrow⟩
    | load key => exact ⟨rows, (perform_load h key).1, fun row hrow => Or.inl hrow⟩
    | list => exact ⟨rows, (perform_list h).1, fun row hrow => Or.inl hrow⟩
  | alter key octets =>
    refine ⟨_, alter_holds h key octets, List.forall_mem_map.mpr fun row hrow => ?_⟩
    by_cases hkey : row.key = key
    · rw [if_pos hkey]
      exact Or.inr (Or.inr (List.mem_singleton.mpr (by rw [hkey])))
    · rw [if_neg hkey]
      exact Or.inl hrow

lemma foldl_after_holds (h : Holds d r rows) {events : List Event}
    (hscalar : ∀ s ∈ events.flatMap submitted, s.provider.IsScalar) :
    ∃ rows', Holds (events.foldl (after r) d) r rows' ∧
      ∀ row ∈ rows', row ∈ rows ∨ IsOwn row ∨ IsPut events row := by
  induction events generalizing d rows with
  | nil => exact ⟨rows, h, fun row hrow => Or.inl hrow⟩
  | cons event events ih =>
    rw [List.flatMap_cons, List.forall_mem_append] at hscalar
    obtain ⟨rows', hholds, hrows'⟩ := after_holds h hscalar.1
    obtain ⟨rows'', hholds', hrows''⟩ := ih hholds hscalar.2
    refine ⟨rows'', hholds', fun row hrow => ?_⟩
    rcases hrows'' row hrow with hrow | hown | hput
    · refine (hrows' row hrow).imp_right (Or.imp_right fun hput => ?_)
      exact List.mem_cons.mpr (Or.inl (List.mem_singleton.mp hput))
    · exact Or.inr (Or.inl hown)
    · exact Or.inr (Or.inr (List.mem_cons_of_mem _ hput))

/-- What is loaded by a key is the record in the payload of its row and well formed, whatever its
name is. So it has the name that was asked for if and only if the row is own, and any well-formed
record is given once its octets stand there. As long as only records of scalar providers are stored,
a record of another name is given only if its octets were put there from outside. -/
theorem load_by_payload (h : Holds d r rows) (key : String) :
    (∀ p, (load d r key).2 = .ok (some p) ↔
      ∃ row, find? key rows = some row ∧ Record.read row.payload = .ok p) ∧
    ((∀ p, (load d r key).2 = .ok (some p) → p.uniqueName = key) ↔
      ∀ row, find? key rows = some row → IsOwn row) ∧
    (∀ p, (load d r key).2 = .ok (some p) → p.WellFormed) ∧
    (key ∈ rows.map (·.key) → ∀ q : Provider, q.IsScalar → q.WellFormed →
      ∃ q', (load (alter r d key (Record.serialize q)) r key).2 = .ok (some q') ∧
        q'.same q = true) ∧
    ((∀ row ∈ rows, IsOwn row) → ∀ events : List Event,
      (∀ s ∈ events.flatMap submitted, s.provider.IsScalar) →
      ∀ p, (load (events.foldl (after r) d) r key).2 = .ok (some p) → p.uniqueName ≠ key →
        ∃ octets, .alter key octets ∈ events ∧ Record.read octets = .ok p) := by
  refine ⟨load_eq_some h key, loads_own_iff h key, fun p hp => ?_, fun hkey q => load_alter h hkey,
    ?_⟩
  · obtain ⟨row, -, hread⟩ := (load_eq_some h key p).mp hp
    exact wellFormed_of_read hread
  · intro hown events hscalar p hp hforeign
    obtain ⟨rows', hholds, hrows'⟩ := foldl_after_holds h hscalar
    obtain ⟨row, hfind, hread⟩ := (load_eq_some hholds key p).mp hp
    have hkey := key_of_find? hfind
    have howned : ¬ IsOwn row := fun hrow => hforeign ((hrow p hread).trans hkey)
    rcases hrows' row (List.mem_of_find?_eq_some hfind) with hrow | hrow | hput
    · exact absurd (hown row hrow) howned
    · exact absurd hrow howned
    · exact ⟨row.payload, by rwa [IsPut, hkey] at hput, hread⟩

end

/-- A cache with one row, whose payload is no record. -/
def bellDisk : Disk :=
  ⟨.directory [("cache", .table [⟨"bell_0", "bell", "0", "bell.py", 1, []⟩])], []⟩

/-- The record of a clock, put into the row of the bell. -/
def exchange : Event :=
  .alter "bell_0" (Record.serialize (Record.clock (Name.hashOf Record.clockText)))

theorem load_by_payload_bell :
    ∃ p, (load (after newCache bellDisk exchange) newCache "bell_0").2 = .ok (some p) ∧
      p.WellFormed ∧ p.uniqueName ≠ "bell_0" ∧
      ∃ octets, .alter "bell_0" octets ∈ [exchange] ∧ Record.read octets = .ok p := by
  have hholds : Holds bellDisk newCache [⟨"bell_0", "bell", "0", "bell.py", 1, []⟩] :=
    .table rfl rfl
  obtain ⟨-, -, -, halter, hevents⟩ := load_by_payload hholds "bell_0"
  have hexchanged : Holds (after newCache bellDisk exchange) newCache _ := alter_holds hholds _ _
  obtain ⟨p, hload, hsame⟩ := halter (by simp) (Record.clock (Name.hashOf Record.clockText))
    (Record.isScalar_clock _) (Record.wellFormed_clock rfl)
  have hname : p.name = "clock" := by
    simp only [Provider.same, Bool.and_eq_true, decide_eq_true_eq] at hsame
    exact hsame.1.1.1
  have hforeign : p.uniqueName ≠ "bell_0" := by
    intro heq
    have hhead := congrArg (·.toList.head?) heq
    simp [Provider.uniqueName, Name.unique, hname] at hhead
  refine ⟨p, hload, (load_by_payload hexchanged "bell_0").2.2.1 p hload, hforeign, ?_⟩
  have hsubmitted : ∀ s ∈ [exchange].flatMap submitted, s.provider.IsScalar := by
    simp [exchange, submitted]
  refine hevents (List.forall_mem_singleton.mpr fun q hq => ?_) [exchange] hsubmitted p hload
    hforeign
  have hnothing : (Record.read []).toOption.isSome = false := by decide +kernel
  rw [hq] at hnothing
  cases hnothing

end ProbeCatalog.Cache
