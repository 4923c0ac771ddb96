import ProbeCatalog.Cache.File
import ProbeCatalog.Proofs.Cache.Rows
import ProbeCatalog.Proofs.Project.Placing
import ProbeCatalog.Proofs.Provider.Storage

/-!
# A cache in use

Any number of calls, one after the other, on a file that is missing, empty or holds rows. Each
call finds the rows that the calls before it left. A call that stores takes effect as a whole
or not at all, the others change nothing.
-/
namespace ProbeCatalog.Cache

/-- What a cache is asked for. -/
inductive Call where
  | store (submissions : List Submission)
  | load (key : String)
  | list

/-- What a cache answers. -/
inductive Answer where
  | stored (r : Except Fault Nat)
  | loaded (r : Except Fault (Option Provider))
  | listed (r : Except Fault (List String))

/-- One call on the cache at a route. -/
def perform (r : Route) (d : Disk) : Call → Disk × Answer
  | .store submissions => ((store d r submissions).1, .stored (store d r submissions).2)
  | .load key => ((load d r key).1, .loaded (load d r key).2)
  | .list => ((list d r).1, .listed (list d r).2)

/-- Calls in sequence, with their answers. -/
def replay (r : Route) : Disk → List Call → Disk × List Answer
  | d, [] => (d, [])
  | d, call :: calls =>
    ((replay r (perform r d call).1 calls).1,
      (perform r d call).2 :: (replay r (perform r d call).1 calls).2)

/-- What was submitted by a call that stored it. -/
def stored : Call × Answer → List Submission
  | (.store submissions, .stored (.ok _)) => submissions
  | _ => []

/-- The file at a route holds the rows, or there are none and it is empty or missing. -/
inductive Holds (d : Disk) (r : Route) : List CacheRow → Prop
  | absent {place : Path} (hspot : d.spot? r = some place) (h : d.root.at? place = none) :
      Holds d r []
  | empty {place : Path} (hspot : d.spot? r = some place)
      (h : d.root.at? place = some (.file [])) : Holds d r []
  | table {place : Path} {rows : List CacheRow} (hspot : d.spot? r = some place)
      (h : d.root.at? place = some (.table rows)) : Holds d r rows

/-- The rows were written by earlier calls: each tells of a provider, and no two of them of the
same unique name. -/
structure Written (rows : List CacheRow) : Prop where
  distinct : (rows.map (·.key)).Nodup
  tells : ∀ row ∈ rows, ∃ s, Storable s ∧ IsRowOf s row

section

variable {d : Disk} {r : Route} {rows earlier : List CacheRow}

/-- A table at the place of the cache, after it was opened. -/
lemma Holds.opened (h : Holds d r rows) : ∃ place,
    openTable d r = .ok (d.set place (.table rows), place, rows) ∧
      ∀ rows', Holds ((d.set place (.table rows)).set place (.table rows')) r rows' ∧
        Holds (d.set place (.table rows)) r rows := by
  have hopened {place : Path} (hspot : d.spot? r = some place)
      (hplace : (d.root.at? place).all (!·.isDirectory)) (rows' : List CacheRow) :
      Holds ((d.set place (.table rows)).set place (.table rows')) r rows' ∧
        Holds (d.set place (.table rows)) r rows := by
    have hspot' := Disk.spot?_set hspot hplace (.table rows)
    have hfound := Disk.at?_set d place (.table rows)
    have hspot'' := Disk.spot?_set hspot' (by rw [hfound]; rfl) (.table rows')
    exact ⟨.table hspot'' (Disk.at?_set _ place _), .table hspot' hfound⟩
  cases h with
  | absent hspot h =>
    exact ⟨_, by simp only [openTable, hspot, h]; rfl, hopened hspot (by rw [h]; rfl)⟩
  | empty hspot h =>
    exact ⟨_, by simp only [openTable, hspot, h]; rfl, hopened hspot (by rw [h]; rfl)⟩
  | table hspot h =>
    exact ⟨_, by simp only [openTable, hspot, h]; rfl, hopened hspot (by rw [h]; rfl)⟩

/-! ### One call -/

/-- Storing takes all submissions or none. -/
lemma perform_store (h : Holds d r rows) (submissions : List Submission) :
    (∃ rows', insertAll submissions rows = .ok rows' ∧
      (perform r d (.store submissions)).2 = .stored (.ok submissions.length) ∧
      Holds (perform r d (.store submissions)).1 r rows') ∨
    (∃ f, insertAll submissions rows = .error f ∧
      (perform r d (.store submissions)).2 = .stored (.error (.row f)) ∧
      Holds (perform r d (.store submissions)).1 r rows) := by
  obtain ⟨place, hopen, hholds⟩ := h.opened
  cases hinsert : insertAll submissions rows with
  | ok rows' =>
    left
    simp only [perform, store, hopen, hinsert]
    exact ⟨rows', rfl, trivial, (hholds rows').1⟩
  | error f =>
    right
    simp only [perform, store, hopen, hinsert]
    exact ⟨f, rfl, rfl, (hholds rows).2⟩

lemma perform_load (h : Holds d r rows) (key : String) :
    Holds (perform r d (.load key)).1 r rows ∧
      (find? key rows = none → (perform r d (.load key)).2 = .loaded (.ok none)) ∧
      ∀ row, find? key rows = some row → (perform r d (.load key)).2 =
        .loaded (((Record.read row.payload).map some).mapError .record) := by
  obtain ⟨place, hopen, hholds⟩ := h.opened
  cases hfind : find? key rows with
  | none =>
    simp only [perform, load, hopen, hfind]
    exact ⟨(hholds rows).2, fun _ => trivial, nofun⟩
  | some row =>
    simp only [perform, load, hopen, hfind]
    exact ⟨(hholds rows).2, nofun, fun row' hrow => by rw [Option.some.inj hrow]⟩

lemma load_eq (h : Holds d r rows) (key : String) : (load d r key).2 =
    match find? key rows with
    | none => .ok none
    | some row => ((Record.read row.payload).map some).mapError .record := by
  obtain ⟨-, hmissing, hfound⟩ := perform_load h key
  cases hfind : find? key rows with
  | none => exact Answer.loaded.inj (hmissing hfind)
  | some row => exact Answer.loaded.inj (hfound row hfind)

lemma perform_list (h : Holds d r rows) :
    Holds (perform r d .list).1 r rows ∧ (perform r d .list).2 = .listed (.ok (keys rows)) := by
  obtain ⟨place, hopen, hholds⟩ := h.opened
  simp only [perform, list, hopen]
  exact ⟨(hholds rows).2, trivial⟩

lemma perform_tells {submissions : List Submission} (h : Holds d r rows)
    (htells : Tells earlier submissions rows) (call : Call) :
    ∃ rows', Holds (perform r d call).1 r rows' ∧
      Tells earlier (submissions ++ stored (call, (perform r d call).2)) rows' := by
  cases call with
  | store new =>
    rcases perform_store h new with ⟨rows', hinsert, hanswer, hholds⟩ | ⟨f, -, hanswer, hholds⟩
    · rw [hanswer]
      exact ⟨rows', hholds, htells.insertAll hinsert⟩
    · rw [hanswer]
      exact ⟨rows, hholds, by simpa [stored] using htells⟩
  | load key => exact ⟨rows, (perform_load h key).1, by simpa [perform, stored] using htells⟩
  | list => exact ⟨rows, (perform_list h).1, by simpa [perform, stored] using htells⟩

/-! ### Any number of calls -/

lemma replay_tells {submissions : List Submission} (h : Holds d r rows)
    (htells : Tells earlier submissions rows) (calls : List Call) :
    ∃ rows', Holds (replay r d calls).1 r rows' ∧
      Tells earlier (submissions ++ (calls.zip (replay r d calls).2).flatMap stored) rows' := by
  induction calls generalizing d rows submissions with
  | nil => exact ⟨rows, h, by simpa using htells⟩
  | cons call calls ih =>
    obtain ⟨rows', hholds, htells'⟩ := perform_tells h htells call
    obtain ⟨rows'', hholds', htells''⟩ := ih hholds htells'
    refine ⟨rows'', hholds', ?_⟩
    rw [replay, List.zip_cons_cons, List.flatMap_cons, ← List.append_assoc]
    exact htells''

/-- Each submission of a call that stored fits into a row. -/
lemma storable_of_stored (h : Holds d r rows) (calls : List Call) :
    ∀ s ∈ (calls.zip (replay r d calls).2).flatMap stored, Storable s := by
  induction calls generalizing d rows with
  | nil => exact nofun
  | cons call calls ih =>
    rw [replay, List.zip_cons_cons, List.flatMap_cons, List.forall_mem_append]
    cases call with
    | store new =>
      rcases perform_store h new with ⟨rows', hinsert, hanswer, hholds⟩ | ⟨f, -, hanswer, hholds⟩
      · refine ⟨?_, ih hholds⟩
        rw [hanswer]
        exact succeeds_insertAll.mp ⟨rows', hinsert⟩
      · refine ⟨?_, ih hholds⟩
        rw [hanswer]
        exact nofun
    | load key => exact ⟨nofun, ih (perform_load h key).1⟩
    | list => exact ⟨nofun, ih (perform_list h).1⟩

/-! ### What a cache with rows answers -/

/-- The answers of a cache that holds rows, none of which changes the rows unless all that was
submitted is stored. -/
structure Serves (d : Disk) (r : Route) (rows : List CacheRow) : Prop where
  stores : ∀ new, (∀ s ∈ new, Storable s) →
    (perform r d (.store new)).2 = .stored (.ok new.length)
  refuses : ∀ new, (∃ s ∈ new, ¬ Storable s) →
    (∃ f, (perform r d (.store new)).2 = .stored (.error (.row f))) ∧
      Holds (perform r d (.store new)).1 r rows
  loads : ∀ key, Holds (perform r d (.load key)).1 r rows ∧
    ((∀ row ∈ rows, row.key ≠ key) → (perform r d (.load key)).2 = .loaded (.ok none)) ∧
    ∀ row ∈ rows, row.key = key → ∀ s, IsRowOf s row →
      (perform r d (.load key)).2 =
        .loaded (((Record.read (Record.serialize s.provider)).map some).mapError .record) ∧
      (s.provider.WellFormed → s.provider.IsScalar →
        ∃ q, (perform r d (.load key)).2 = .loaded (.ok (some q)) ∧ q.same s.provider = true)
  lists : Holds (perform r d .list).1 r rows ∧
    ∃ names, (perform r d .list).2 = .listed (.ok names) ∧ names.Pairwise (· < ·) ∧
      ∀ key, key ∈ names ↔ key ∈ rows.map (·.key)

lemma Holds.serves (h : Holds d r rows) (hdistinct : (rows.map (·.key)).Nodup) :
    Serves d r rows where
  stores new hnew := by
    obtain ⟨rows', hinsert⟩ := succeeds_insertAll.mpr hnew
    rcases perform_store h new with ⟨_, _, hanswer, _⟩ | ⟨f, hfailed, _⟩
    · exact hanswer
    · rw [hinsert] at hfailed
      cases hfailed
  refuses new hnew := by
    obtain ⟨s, hs, hfault⟩ := hnew
    rcases perform_store h new with ⟨rows', hinsert, _⟩ | ⟨f, _, hanswer, hholds⟩
    · exact absurd (succeeds_insertAll.mp ⟨rows', hinsert⟩ s hs) hfault
    · exact ⟨⟨f, hanswer⟩, hholds⟩
  loads key := by
    obtain ⟨hholds, hmissing, hfound⟩ := perform_load h key
    refine ⟨hholds, fun hnone => hmissing ?_, fun row hrow hkey s hs => ?_⟩
    · exact List.find?_eq_none.mpr fun row hrow => by simpa using hnone row hrow
    · have hanswer := hfound row ((find?_eq_some hdistinct).mpr ⟨hrow, hkey⟩)
      rw [hs.payload] at hanswer
      refine ⟨hanswer, fun hwell hscalar => ?_⟩
      obtain ⟨v, hd⟩ := Record.toProvider_wellFormed hwell
      refine ⟨{ s.provider with declaration := v }, ?_, by simp [Provider.same]⟩
      rw [hanswer, Record.read_serialize hscalar, hd]
      rfl
  lists := by
    obtain ⟨hholds, hanswer⟩ := perform_list h
    exact ⟨hholds, keys rows, hanswer, keys_sorted hdistinct, fun key => mem_keys⟩

/-- Every row after any calls tells of a provider: of the last one that was stored under its
unique name, or of the one that the earlier row tells of. -/
lemma Tells.written {submissions : List Submission} (h : Tells earlier submissions rows)
    (hstorable : ∀ s ∈ submissions, Storable s) (hearlier : Written earlier) : Written rows where
  distinct := h.distinct
  tells row hrow := by
    obtain ⟨hlast, hnone⟩ := h.last row hrow
    cases hs : last? row.key submissions with
    | none => exact hearlier.tells row (hnone hs)
    | some s =>
      have hmem : s ∈ submissions := List.mem_of_mem_filter (List.mem_of_getLast? hs)
      exact ⟨s, hstorable s hmem, hlast s hs⟩

/-- After any calls on a cache that was missing, empty or written by earlier calls, there is one
row for each unique name that was there or was stored, and it is that of the last provider that
was stored under the name by a call that stored. What is then asked is answered by these rows,
and a call that stores nothing leaves them as they are. -/
theorem replay_keeps_last (hstart : Holds d r earlier) (hearlier : Written earlier)
    (calls : List Call) :
    ∃ rows, Holds (replay r d calls).1 r rows ∧ Written rows ∧
      Tells earlier ((calls.zip (replay r d calls).2).flatMap stored) rows ∧
      Serves (replay r d calls).1 r rows := by
  obtain ⟨rows, hholds, htells⟩ := replay_tells hstart (tells_nil hearlier.distinct) calls
  rw [List.nil_append] at htells
  exact ⟨rows, hholds, htells.written (storable_of_stored hstart calls) hearlier, htells,
    hholds.serves htells.distinct⟩

end

/-- A cache that is not there yet. -/
def newCache : Route := ⟨.here, ["cache"]⟩

/-- A disk without files. -/
def bareDisk : Disk := ⟨.empty, []⟩

/-- A provider that is stored from two places in turn, the second time after a call that failed. -/
def clockAt (file : Option String) : Submission :=
  ⟨file, some 1, Record.clock (Name.hashOf Record.clockText)⟩

def moves : List Call :=
  [.store [clockAt "first.py"], .store [clockAt "lost.py", clockAt none], .list,
    .store [clockAt "moved.py"]]

theorem replay_keeps_last_moves :
    ∃ rows, Holds (replay newCache bareDisk moves).1 newCache rows ∧
      ∃ row ∈ rows, row.file = "moved.py" ∧
        ∃ q, (perform newCache (replay newCache bareDisk moves).1 (.load row.key)).2 =
          .loaded (.ok (some q)) ∧ q.same (clockAt "moved.py").provider = true := by
  obtain ⟨rows, hholds, -, htells, hserves⟩ :=
    replay_keeps_last (d := bareDisk) (r := newCache) (.absent rfl rfl)
      ⟨List.nodup_nil, nofun⟩ moves
  have hstored : (moves.zip (replay newCache bareDisk moves).2).flatMap stored =
      [clockAt "first.py", clockAt "moved.py"] := rfl
  rw [hstored] at htells
  obtain ⟨row, hrow, hkey⟩ :=
    List.mem_map.mp ((htells.keys (clockAt "moved.py").provider.uniqueName).mpr (by simp))
  have hlast : last? row.key ([clockAt "first.py"] ++ [clockAt "moved.py"]) =
      some (clockAt "moved.py") := by
    rw [last?_append_one, if_pos hkey.symm]
  have hmoved := (htells.last row hrow).1 _ hlast
  refine ⟨rows, hholds, row, hrow, (Option.some.inj hmoved.file).symm, ?_⟩
  exact ((hserves.loads row.key).2.2 row hrow rfl _ hmoved).2 (Record.wellFormed_clock rfl)
    (Record.isScalar_clock _)

end ProbeCatalog.Cache
